import LanguageClient.Handler.Request
import LanguageClient.Proofs.Json.Record

/-!
# Settings by path

A request for configuration is answered with one entry for each section it asks for.  The
entry of a section is what its keys lead to in the settings, through objects only; where
they lead nowhere, or to null, it is the empty object.  What stands for a missing section
is put there at the end only, and still a section can be looked up piece by piece.
-/

namespace LanguageClient.Settings

open Json (unlessNull)

/-! ## Keys -/

/-- Whether a path consists of these keys, with dots between them: there is a key at least,
and no key has a dot in it. -/
structure Names (path : String) (names : List String) : Prop where
  ne_nil : names ≠ []
  dotless : ∀ name, name ∈ names → '.' ∉ name.toList
  path_eq : path = ".".intercalate names

theorem map_toList_keys (path : String) :
    (keys path).map String.toList = path.toList.splitOn '.' := by
  simp [keys, Function.comp_def]

/-- Every path consists of its keys, and of no others. -/
theorem names_iff {path : String} {names : List String} :
    Names path names ↔ names = keys path := by
  have toList_dot : ".".toList = ['.'] := rfl
  constructor
  · rintro ⟨notNil, dotless, rfl⟩
    have dotless : ∀ name, name ∈ names.map String.toList → '.' ∉ name :=
      List.forall_mem_map.mpr dotless
    rw [keys, String.toList_intercalate, toList_dot,
      List.splitOn_intercalate '.' dotless (by simpa using notNil)]
    simp
  · rintro rfl
    refine ⟨by simp [keys], ?_, ?_⟩
    · intro name isKey
      have isPiece : name.toList ∈ path.toList.splitOn '.' :=
        map_toList_keys path ▸ List.mem_map_of_mem isKey
      exact not_mem_of_mem_splitOn isPiece
    · rw [← String.toList_inj, String.toList_intercalate, toList_dot, map_toList_keys,
        List.intercalate_splitOn]

/-- The keys of two paths with a dot between them are those of the first and then those of
the second. -/
theorem keys_append (path path' : String) :
    keys (path ++ "." ++ path') = keys path ++ keys path' := by
  have split : (path ++ "." ++ path').toList = path.toList ++ '.' :: path'.toList := by simp
  rw [keys, split, List.splitOn_append_cons_self, List.map_append]
  rfl

-- A dot at the end leaves an empty key behind it.
example : keys "a.b." = ["a", "b", ""] := by decide

/-! ## What keys lead to -/

/-- What keys lead to in a value: each is the key of a member of an object. -/
inductive Leads : Json → List String → Json → Prop
  | here (value : Json) : Leads value [] value
  | member {members : Json.Members} {key : String} {value target : Json} {names : List String} :
      members.get? key = some value →
      Leads value names target →
      Leads (.object members) (key :: names) target

theorem follow?_eq_some_iff {settings target : Json} {names : List String} :
    follow? settings names = some target ↔ Leads settings names target := by
  induction names generalizing settings with
  | nil =>
      rw [follow?, List.foldlM_nil]
      constructor
      · rintro ⟨⟩
        exact .here _
      · rintro ⟨⟩
        rfl
  | cons key names inductionHypothesis =>
      have step : follow? settings (key :: names) =
          (settings.member? key).bind (follow? · names) := List.foldlM_cons
      rw [step, Option.bind_eq_some_iff]
      simp only [inductionHypothesis]
      constructor
      · rintro ⟨value, found, leads⟩
        cases settings with
        | object members => exact .member found leads
        | _ => cases found
      · rintro (_ | ⟨found, leads⟩)
        exact ⟨_, found, leads⟩

theorem follow?_append (settings : Json) (names names' : List String) :
    follow? settings (names ++ names') = (follow? settings names).bind (follow? · names') :=
  List.foldlM_append

/-- A value without members leads nowhere. -/
theorem follow?_of_forall_member?_eq_none
    {value : Json} (noMember : ∀ key, value.member? key = none) {names : List String}
    (notNil : names ≠ []) :
    follow? value names = none := by
  cases names with
  | nil => exact absurd rfl notNil
  | cons key names =>
      rw [follow?, List.foldlM_cons, noMember]
      rfl

/-! ## Sections -/

/-- What a section is in the settings: all of them if no section or the empty one is named,
else what its keys lead to. -/
inductive Reaches (settings : Json) : Option String → Json → Prop
  | unnamed : Reaches settings none settings
  | empty : Reaches settings (some "") settings
  | named {path : String} {names : List String} {value : Json} :
      path ≠ "" →
      Names path names →
      Leads settings names value →
      Reaches settings (some path) value

def reached? (settings : Json) : Option String → Option Json
  | none => some settings
  | some path => if path = "" then some settings else follow? settings (keys path)

section Reached

variable {settings value : Json} {path : String} {wanted : Option String}

theorem reached?_of_ne (notEmpty : path ≠ "") :
    reached? settings (some path) = follow? settings (keys path) :=
  if_neg notEmpty

theorem reached?_eq_some_iff :
    reached? settings wanted = some value ↔ Reaches settings wanted value := by
  cases wanted with
  | none =>
      constructor
      · rintro ⟨⟩
        exact .unnamed
      · rintro ⟨⟩
        rfl
  | some path =>
      by_cases isEmpty : path = ""
      · subst isEmpty
        constructor
        · rintro ⟨⟩
          exact .empty
        · rintro (_ | _ | ⟨notEmpty⟩)
          · rfl
          · exact absurd rfl notEmpty
      · rw [reached?_of_ne isEmpty, follow?_eq_some_iff]
        constructor
        · exact fun leads => .named isEmpty (names_iff.mpr rfl) leads
        · rintro (_ | _ | ⟨_, areNames, leads⟩)
          · exact absurd rfl isEmpty
          · rwa [names_iff.mp areNames] at leads

theorem lookup_eq (settings : Json) (wanted : Option String) :
    lookup settings wanted = (unlessNull (reached? settings wanted)).getD emptySection := by
  unfold lookup
  split
  · cases settings <;> rfl
  · cases settings <;> rfl
  · rename_i path notEmpty
    rw [reached?_of_ne notEmpty]
    cases follow? settings (keys path) with
    | none => rfl
    | some value => cases value <;> rfl

/-- Whether a value is the entry for a section: what the section is in the settings, and
the empty object if it is nothing or null. -/
def IsEntry (settings : Json) (wanted : Option String) (entry : Json) : Prop :=
  Reaches settings wanted entry ∧ entry ≠ .null ∨
    (∀ value, Reaches settings wanted value → value = .null) ∧ entry = emptySection

theorem isEntry_iff {entry : Json} :
    IsEntry settings wanted entry ↔ entry = lookup settings wanted := by
  simp only [IsEntry, ← reached?_eq_some_iff, lookup_eq]
  cases reached? settings wanted with
  | none => simp
  | some value =>
      by_cases isNull : value = .null
      · simp [isNull, eq_comm]
      · rw [Json.unlessNull_of_ne isNull, Option.getD_some]
        simp only [Option.some.injEq, forall_eq', isNull, false_and, or_false]
        constructor
        · exact fun ⟨same, _⟩ => same.symm
        · rintro rfl
          exact ⟨rfl, isNull⟩

/-- A section is looked up in what the first part of its path has given. -/
theorem lookup_append
    (settings : Json) {path path' : String} (notEmpty : path ≠ "") (notEmpty' : path' ≠ "") :
    lookup settings (some (path ++ "." ++ path')) =
      lookup (lookup settings (some path)) (some path') := by
  have notEmpty'' : path ++ "." ++ path' ≠ "" := by simp [notEmpty]
  rw [lookup_eq, reached?_of_ne notEmpty'', keys_append, follow?_append, lookup_eq _ (some path'),
    reached?_of_ne notEmpty', lookup_eq, reached?_of_ne notEmpty]
  have someKey : keys path' ≠ [] := (names_iff.mpr rfl).ne_nil
  have behindEmpty : follow? emptySection (keys path') = none :=
    follow?_of_forall_member?_eq_none (fun _ => rfl) someKey
  have behindNull : follow? .null (keys path') = none :=
    follow?_of_forall_member?_eq_none (fun _ => rfl) someKey
  cases follow? settings (keys path) with
  | none => simp [behindEmpty]
  | some value =>
      by_cases isNull : value = .null
      · simp [isNull, behindEmpty, behindNull]
      · rw [Json.unlessNull_of_ne isNull, Option.bind_some, Option.getD_some]

end Reached

/-! ## Requests -/

/-- Which value asks for a section: a record whose one field may be absent or null. -/
structure AsksFor (item : Json) (wanted : Option String) : Prop where
  isRecord : item.IsRecord 1
  path : unlessNull (item.part? "section" 0) = wanted.map .string

/-- Which value asks for sections, item by item.  Without items it asks for none. -/
structure Asks (params : Json) (wanted : List (Option String)) : Prop where
  isRecord : params.IsRecord 1
  items : params.part? "items" 0 = none ∧ wanted = [] ∨
    ∃ items, params.part? "items" 0 = some (.array items) ∧ List.Forall₂ AsksFor items wanted

/-- A section can be read from a value that asks for it. -/
theorem decodeItem_eq_ok_iff {item : Json} {wanted : Option String} (ordered : item.isOrdered) :
    Json.decodeRecord1 "ConfigurationItem" (.optional "section" Json.decodeString) id item =
        .ok wanted ↔
      AsksFor item wanted := by
  simp only [Json.decodeRecord1_eq_ok_iff ordered, Json.Field.name_optional,
    Json.Field.holds_optional_string_iff, id, exists_eq_right]
  exact ⟨fun ⟨isRecord, path⟩ => ⟨isRecord, path⟩, fun ⟨isRecord, path⟩ => ⟨isRecord, path⟩⟩

theorem decodeItems_eq_ok_iff
    {params : Json} {wanted : List (Option String)} (ordered : params.isOrdered) :
    decodeItems params = .ok wanted ↔ Asks params wanted := by
  simp only [decodeItems, Json.decodeRecord1_eq_ok_iff ordered, Json.Field.name_withDefault,
    Json.Field.holds_withDefault_iff, id, exists_eq_right]
  constructor
  · rintro ⟨isRecord, nothing | ⟨value, found, reads⟩⟩
    · exact ⟨isRecord, .inl nothing⟩
    · obtain ⟨items, rfl, areItems⟩ := (Json.decodeList_eq_ok_iff decodeItem_eq_ok_iff
        (Json.isOrdered_of_part? ordered found)).mp reads
      exact ⟨isRecord, .inr ⟨items, found, areItems⟩⟩
  · rintro ⟨isRecord, nothing | ⟨items, found, areItems⟩⟩
    · exact ⟨isRecord, .inl nothing⟩
    · exact ⟨isRecord, .inr ⟨_, found, (Json.decodeList_eq_ok_iff decodeItem_eq_ok_iff
        (Json.isOrdered_of_part? ordered found)).mpr ⟨items, rfl, areItems⟩⟩⟩

/-! ## Answers -/

/-- How requests for configuration are answered from settings. -/
structure AnswersByPath (settings : Json) : Prop where
  /-- What can be read is told by the parts of the value. -/
  readable : ∀ params wanted, params.isOrdered →
    (decodeItems params = .ok wanted ↔ Asks params wanted)
  answered : ∀ params wanted, decodeItems params = .ok wanted →
    ∃ entries, answer settings (some params) = .ok (.array entries) ∧
      List.Forall₂ (IsEntry settings) wanted entries
  withoutParams : answer settings none = .ok (.array [])
  refused : ∀ params, (∀ wanted, decodeItems params ≠ .ok wanted) →
    ∃ error, answer settings (some params) = .error error ∧ error.code = -32602
  /-- There is one entry for a section, and it is the one that is looked up. -/
  entry : ∀ wanted entry, IsEntry settings wanted entry ↔ entry = lookup settings wanted
  /-- Where a step fails, for want of a member or of an object, the entry is empty. -/
  stopped : ∀ path before key after value, path ≠ "" → Names path (before ++ key :: after) →
    Leads settings before value → (∀ inner, ¬ Leads value [key] inner) →
    lookup settings (some path) = .object []
  composed : ∀ path path', path ≠ "" → path' ≠ "" →
    lookup settings (some (path ++ "." ++ path')) =
      lookup (lookup settings (some path)) (some path')
  handled : ∀ params,
    (RequestHandler.configuration settings).start params = .answered (answer settings params)

theorem answersByPath (settings : Json) : AnswersByPath settings where
  readable := fun params wanted ordered => decodeItems_eq_ok_iff ordered
  answered := by
    intro params wanted reads
    refine ⟨wanted.map (lookup settings), by simp only [answer, reads], ?_⟩
    rw [List.forall₂_map_right_iff]
    exact List.forall₂_same.mpr fun path _ => isEntry_iff.mpr rfl
  withoutParams := rfl
  refused := by
    intro params unreadable
    cases reads : decodeItems params with
    | ok wanted => exact absurd reads (unreadable wanted)
    | error fault => exact ⟨.invalidParams fault.message, by simp only [answer, reads], rfl⟩
  entry := fun wanted entry => isEntry_iff
  stopped := by
    intro path before key after value notEmpty areNames leads noStep
    have nothing : follow? settings (keys path) = none := by
      refine Option.eq_none_iff_forall_ne_some.mpr fun target found => ?_
      rw [← names_iff.mp areNames, follow?_append, follow?_eq_some_iff.mpr leads,
        Option.bind_some, follow?_eq_some_iff] at found
      cases found with
      | member isMember _ => exact noStep _ (.member isMember (.here _))
    rw [lookup_eq, reached?_of_ne notEmpty, nothing]
    rfl
  composed := fun path path' => lookup_append settings
  handled := fun params => rfl

end LanguageClient.Settings
