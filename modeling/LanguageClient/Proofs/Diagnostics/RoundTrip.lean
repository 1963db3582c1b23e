import LanguageClient.Proofs.Diagnostics.Form

/-!
# Diagnostics written again

A diagnostic that was read is written as an object with the members it was read from: those
without a field are there as they were sent, and so are the severity, the code and the source
unless they were null.  Reading the object gives the diagnostic.
-/

namespace LanguageClient

open Json (unlessNull)

/-! ## Positions and ranges -/

theorem Position.Tells.toJson {value : Json} {position : Position} (tells : Tells value position) :
    Tells position.toJson position where
  isRecord := trivial
  line := by simp [Position.toJson, Json.Members.get?_cons]
  line_lt := tells.line_lt
  character := by simp [Position.toJson, Json.Members.get?_cons]
  character_lt := tells.character_lt

theorem Range.Tells.toJson {value : Json} {range : Range} (tells : Tells value range) :
    Tells range.toJson range := by
  obtain ⟨_, _, isStart⟩ := tells.start
  obtain ⟨_, _, isEnd⟩ := tells.end
  exact {
    isRecord := trivial
    start := ⟨_, by simp [Range.toJson, Json.Members.get?_cons], isStart.toJson⟩
    «end» := ⟨_, by simp [Range.toJson, Json.Members.get?_cons], isEnd.toJson⟩ }

theorem Position.isOrdered_toJson (position : Position) : position.toJson.isOrdered :=
  Json.isOrdered_ofMembers (by simp [Json.nat, Json.int, Json.isOrdered])

theorem Range.isOrdered_toJson (range : Range) : range.toJson.isOrdered :=
  Json.isOrdered_ofMembers (by simp [Position.isOrdered_toJson])

/-! ## The written object -/

namespace Diagnostic

def fieldMembers (diagnostic : Diagnostic) : List (String × Json) :=
  [("range", diagnostic.range.toJson)] ++
    ((diagnostic.severityNumber.map Json.nat).map fun value => ("severity", value)).toList ++
    (diagnostic.code.map fun value => ("code", value)).toList ++
    ((diagnostic.source.map Json.string).map fun value => ("source", value)).toList ++
    [("message", .string diagnostic.message)]

def written (diagnostic : Diagnostic) : Json.Members :=
  Json.Members.ofList (diagnostic.fieldMembers ++ diagnostic.extra)

theorem toJson_eq (diagnostic : Diagnostic) : diagnostic.toJson = .object diagnostic.written :=
  rfl

private theorem reverse_toList {α : Type} (item : Option α) :
    item.toList.reverse = item.toList := by
  cases item <;> rfl

/-- Each field is written under its own name, if it has a content. -/
theorem get?_fieldMembers (diagnostic : Diagnostic) (key : String) :
    Json.Members.get? (Json.Members.ofList diagnostic.fieldMembers) key =
      if key = "range" then some diagnostic.range.toJson
      else if key = "severity" then diagnostic.severityNumber.map Json.nat
      else if key = "code" then diagnostic.code
      else if key = "source" then diagnostic.source.map Json.string
      else if key = "message" then some (.string diagnostic.message)
      else none := by
  rw [Json.Members.get?_ofList]
  simp only [fieldMembers, List.reverse_append, List.reverse_singleton, reverse_toList,
    Json.Members.get?_append, Json.Members.get?_toList, Json.Members.get?_cons,
    eq_comm (b := key)]
  split_ifs <;> simp_all [Json.Members.get?]

section Written

variable {members : Json.Members} {diagnostic : Diagnostic}

/-- What is found in the written object is the content of a field under the name of one, and
what was sent under any other key. -/
theorem IsGiven.get?_written
    (given : IsGiven members diagnostic) (inOrder : members.InOrder) (key : String) :
    diagnostic.written.get? key =
      if key ∈ fieldNames then (Json.Members.ofList diagnostic.fieldMembers).get? key
      else members.get? key := by
  have inOrder' : diagnostic.extra.InOrder := given.extra ▸ inOrder.filter _
  have others : diagnostic.extra.get? key =
      if key ∈ fieldNames then none else members.get? key := by
    rw [given.extra, Json.Members.get?_filter fun key => !fieldNames.contains key]
    by_cases isField : key ∈ fieldNames <;> simp [isField]
  rw [Diagnostic.written, Json.Members.get?_ofList_append, inOrder'.ofList_eq, others]
  split
  · rfl
  · rename_i noField
    simp only [fieldNames, List.mem_cons, List.not_mem_nil, or_false, not_or] at noField
    rw [get?_fieldMembers]
    simp [noField]

theorem IsGiven.extra_written (given : IsGiven members diagnostic) (inOrder : members.InOrder) :
    diagnostic.extra =
      List.filter (fun member => !fieldNames.contains member.1) diagnostic.written := by
  have inOrder' : diagnostic.written.InOrder := Json.Members.inOrder_ofList _
  refine Json.Members.InOrder.eq_of_get? (given.extra ▸ inOrder.filter _) (inOrder'.filter _) ?_
  intro key
  rw [given.extra, Json.Members.get?_filter fun key => !fieldNames.contains key,
    Json.Members.get?_filter fun key => !fieldNames.contains key, given.get?_written inOrder]
  by_cases isField : key ∈ fieldNames <;> simp [isField]

/-- The written object tells the diagnostic. -/
theorem IsGiven.written (given : IsGiven members diagnostic) (inOrder : members.InOrder) :
    IsGiven diagnostic.written diagnostic := by
  have found := given.get?_written inOrder
  simp only [get?_fieldMembers] at found
  obtain ⟨_, _, isRange⟩ := given.range
  exact {
    range := ⟨_, by rw [found]; simp [fieldNames], isRange.toJson⟩
    severity := by rw [found]; simp [fieldNames, ← given.severity]
    severity_lt := given.severity_lt
    code := by rw [found]; simp [fieldNames, ← given.code]
    source := by rw [found]; simp [fieldNames, ← given.source]
    message := by rw [found]; simp [fieldNames]
    extra := given.extra_written inOrder }

theorem IsGiven.isOrdered_toJson
    (given : IsGiven members diagnostic) (ordered : (Json.object members).isOrdered) :
    diagnostic.toJson.isOrdered := by
  rw [toJson_eq]
  refine Json.isOrdered_ofMembers fun member isWritten => ?_
  simp only [fieldMembers, List.mem_append, List.mem_singleton, Option.mem_toList,
    Option.map_eq_some_iff] at isWritten
  rcases isWritten with ((((rfl | ⟨_, ⟨_, _, rfl⟩, rfl⟩) | ⟨code, isCode, rfl⟩) |
    ⟨_, ⟨_, _, rfl⟩, rfl⟩) | rfl) | isExtra
  · exact diagnostic.range.isOrdered_toJson
  · rfl
  · rw [← given.code] at isCode
    exact Json.isOrdered_of_get? ordered (Option.filter_eq_some_iff.mp isCode).1
  · rfl
  · rfl
  · rw [given.extra] at isExtra
    exact Json.isOrdered_of_member ordered (List.mem_of_mem_filter isExtra)

end Written

/-- What the object that a diagnostic is written as has of the members that the diagnostic
was read from.  Since an object is known by what is found under each key, it has no other
members. -/
structure Keeps (members kept : Json.Members) (diagnostic : Diagnostic) : Prop where
  inOrder : kept.InOrder
  others : ∀ key, key ∉ fieldNames → kept.get? key = members.get? key
  severity : kept.get? "severity" = unlessNull (members.get? "severity")
  code : kept.get? "code" = unlessNull (members.get? "code")
  source : kept.get? "source" = unlessNull (members.get? "source")
  message : kept.get? "message" = members.get? "message"
  range : ∃ value value', members.get? "range" = some value ∧ kept.get? "range" = some value' ∧
    Range.decode value = .ok diagnostic.range ∧ Range.decode value' = .ok diagnostic.range

/-- A diagnostic that was read from a value is read again from the object it is written as,
and this object keeps what was sent. -/
theorem keepsWhatWasSent
    {value : Json} {diagnostic : Diagnostic} (ordered : value.isOrdered)
    (reads : decode value = .ok diagnostic) :
    decode diagnostic.toJson = .ok diagnostic ∧
      ∃ members kept, value = .object members ∧ diagnostic.toJson = .object kept ∧
        Keeps members kept diagnostic := by
  obtain ⟨members, rfl, given⟩ := (decode_eq_ok_iff ordered).mp reads
  have inOrder := Json.inOrder_of_isOrdered ordered
  have again := given.written inOrder
  have found := given.get?_written inOrder
  obtain ⟨range, isRange, tells⟩ := given.range
  obtain ⟨range', isRange', tells'⟩ := again.range
  have ordered' := given.isOrdered_toJson ordered
  refine ⟨(decode_eq_ok_iff ordered').mpr ⟨_, toJson_eq diagnostic, again⟩, members,
    diagnostic.written, rfl, toJson_eq diagnostic, ?_⟩
  exact {
    inOrder := Json.Members.inOrder_ofList _
    others := fun key noField => by rw [found, if_neg noField]
    severity := by rw [found, get?_fieldMembers]; simp [fieldNames, given.severity]
    code := by rw [found, get?_fieldMembers]; simp [fieldNames, given.code]
    source := by rw [found, get?_fieldMembers]; simp [fieldNames, given.source]
    message := again.message.trans given.message.symm
    range := ⟨range, range', isRange, isRange',
      (Range.decode_eq_ok_iff (Json.isOrdered_of_get? ordered isRange)).mpr tells,
      (Range.decode_eq_ok_iff (Json.isOrdered_of_get? ordered' isRange')).mpr tells'⟩ }

/-- An object with a severity that has no name, a code that is null, and members whose names
and contents look like those of the fields. -/
def lookalike : Json :=
  let place : Json := .array [.nat 4294967295, .nat 0]
  .ofMembers
    [("severity", .nat 18446744073709551615), ("code", .null), ("Code", .null),
      ("range", .array [place, .ofMembers [("character", .nat 1), ("line", .nat 0)]]),
      ("message", .string ""), ("", .ofMembers [("severity", .null), ("range", place)]),
      ("severityNumber", .nat 1), ("extra", .ofMembers [("message", .string "m")])]

def lookalikeDiagnostic : Diagnostic where
  range := ⟨⟨4294967295, 0⟩, ⟨0, 1⟩⟩
  severityNumber := some 18446744073709551615
  code := none
  source := none
  message := ""
  extra :=
    [("", .ofMembers [("severity", .null), ("range", .array [.nat 4294967295, .nat 0])]),
      ("Code", .null), ("extra", .ofMembers [("message", .string "m")]),
      ("severityNumber", .nat 1)]

theorem keepsWhatWasSent_lookalike :
    lookalike.isOrdered ∧ decode lookalike = .ok lookalikeDiagnostic ∧
      decode lookalikeDiagnostic.toJson = .ok lookalikeDiagnostic ∧
      ∃ members kept, lookalike = .object members ∧
        lookalikeDiagnostic.toJson = .object kept ∧ Keeps members kept lookalikeDiagnostic := by
  have ordered : lookalike.isOrdered := by decide +kernel
  have reads : decode lookalike = .ok lookalikeDiagnostic := by decide +kernel
  exact ⟨ordered, reads, keepsWhatWasSent ordered reads⟩

end Diagnostic

end LanguageClient
