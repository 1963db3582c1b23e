import LanguageClient.Diagnostic
import LanguageClient.Proofs.Json.Record

/-!
# How diagnostics are told

Which values are positions, ranges, diagnostics and publications.  Positions, ranges and
publications are records; a diagnostic is always an object, since it keeps the members that
have no field of their own.
-/

namespace LanguageClient

open Json (unlessNull)

/-! ## Positions and ranges -/

/-- A position is told by two numbers of thirty-two bits. -/
structure Position.Tells (value : Json) (position : Position) : Prop where
  isRecord : value.IsRecord 2
  line : value.part? "line" 0 = some (.nat position.line)
  line_lt : position.line < Nat.pow 2 32
  character : value.part? "character" 1 = some (.nat position.character)
  character_lt : position.character < Nat.pow 2 32

structure Range.Tells (value : Json) (range : Range) : Prop where
  isRecord : value.IsRecord 2
  start : ∃ part, value.part? "start" 0 = some part ∧ Position.Tells part range.start
  «end» : ∃ part, value.part? "end" 1 = some part ∧ Position.Tells part range.end

theorem Position.decode_eq_ok_iff
    {value : Json} {position : Position} (ordered : value.isOrdered) :
    decode value = .ok position ↔ Tells value position := by
  simp only [decode, Json.decodeRecord2_eq_ok_iff ordered, Json.Field.name_required,
    Json.Field.holds_required_nat_iff]
  constructor
  · rintro ⟨isRecord, line, character, ⟨isLine, line_lt⟩, ⟨isCharacter, character_lt⟩, rfl⟩
    exact ⟨isRecord, isLine, line_lt, isCharacter, character_lt⟩
  · rintro ⟨isRecord, isLine, line_lt, isCharacter, character_lt⟩
    exact ⟨isRecord, _, _, ⟨isLine, line_lt⟩, ⟨isCharacter, character_lt⟩, rfl⟩

theorem Range.decode_eq_ok_iff {value : Json} {range : Range} (ordered : value.isOrdered) :
    decode value = .ok range ↔ Tells value range := by
  simp only [decode, Json.decodeRecord2_eq_ok_iff ordered, Json.Field.name_required,
    Json.Field.holds_required_part_iff Position.decode_eq_ok_iff ordered]
  constructor
  · rintro ⟨isRecord, start, stop, isStart, isEnd, rfl⟩
    exact ⟨isRecord, isStart, isEnd⟩
  · rintro ⟨isRecord, isStart, isEnd⟩
    exact ⟨isRecord, _, _, isStart, isEnd, rfl⟩

/-! ## Diagnostics -/

namespace Diagnostic

/-- Whether the members of an object are those of a diagnostic: what may be absent may also
be null, and all members without a field are kept. -/
structure IsGiven (members : Json.Members) (diagnostic : Diagnostic) : Prop where
  range : ∃ value, members.get? "range" = some value ∧ Range.Tells value diagnostic.range
  severity : unlessNull (members.get? "severity") = diagnostic.severityNumber.map .nat
  severity_lt : ∀ number, diagnostic.severityNumber = some number → number < Nat.pow 2 64
  code : unlessNull (members.get? "code") = diagnostic.code
  source : unlessNull (members.get? "source") = diagnostic.source.map .string
  message : members.get? "message" = some (.string diagnostic.message)
  extra : diagnostic.extra = List.filter (fun member => !fieldNames.contains member.1) members

def Tells (value : Json) (diagnostic : Diagnostic) : Prop :=
  ∃ members, value = .object members ∧ IsGiven members diagnostic

/-- No member of an object is at fault if the fields can be read from it. -/
theorem memberFault?_eq_none
    {members : Json.Members} {diagnostic : Diagnostic} (inOrder : members.InOrder)
    (range : rangeField.Holds (members.get? "range") diagnostic.range)
    (severity : severityField.Holds (members.get? "severity") diagnostic.severityNumber)
    (source : sourceField.Holds (members.get? "source") diagnostic.source)
    (message : messageField.Holds (members.get? "message") diagnostic.message)
    {member : String × Json} (isMember : member ∈ members) :
    memberFault? member.1 member.2 = none := by
  unfold memberFault?
  rw [Json.Field.fault?_eq_none inOrder range isMember,
    Json.Field.fault?_eq_none inOrder severity isMember,
    Json.Field.fault?_eq_none inOrder source isMember,
    Json.Field.fault?_eq_none inOrder message isMember]
  rfl

/-- A diagnostic can be read from an object if its fields can, each from its member. -/
theorem decode_object_eq_ok_iff
    {members : Json.Members} {diagnostic : Diagnostic} (inOrder : members.InOrder) :
    decode (.object members) = .ok diagnostic ↔
      rangeField.Holds (members.get? "range") diagnostic.range ∧
        severityField.Holds (members.get? "severity") diagnostic.severityNumber ∧
        codeField.Holds (members.get? "code") diagnostic.code ∧
        sourceField.Holds (members.get? "source") diagnostic.source ∧
        messageField.Holds (members.get? "message") diagnostic.message ∧
        diagnostic.extra = List.filter (fun member => !fieldNames.contains member.1) members := by
  simp only [decode, bind_eq_ok_iff, Json.checkMembers_eq_ok_iff, Json.Field.ofMembers_eq_ok_iff,
    Json.pure_eq_ok_iff, exists_const]
  constructor
  · rintro ⟨_, range, isRange, severity, isSeverity, code, isCode, source, isSource, message,
      isMessage, rfl⟩
    exact ⟨isRange, isSeverity, isCode, isSource, isMessage, rfl⟩
  · obtain ⟨range, severity, code, source, message, extra⟩ := diagnostic
    rintro ⟨isRange, isSeverity, isCode, isSource, isMessage, rfl⟩
    exact ⟨fun _ => memberFault?_eq_none inOrder isRange isSeverity isSource isMessage,
      range, isRange, severity, isSeverity, code, isCode, source, isSource, message, isMessage, rfl⟩

theorem decode_eq_ok_iff
    {value : Json} {diagnostic : Diagnostic} (ordered : value.isOrdered) :
    decode value = .ok diagnostic ↔ Tells value diagnostic := by
  cases value with
  | object members =>
      -- a member is a part of the object whatever its place is
      have range : rangeField.Holds ((Json.object members).part? "range" 0) diagnostic.range ↔ _ :=
        Json.Field.holds_required_part_iff Range.decode_eq_ok_iff ordered
      rw [Json.part?] at range
      simp only [Tells, Json.object.injEq, exists_eq_left']
      rw [decode_object_eq_ok_iff (Json.inOrder_of_isOrdered ordered), range, severityField,
        codeField, sourceField, messageField,
        Json.Field.holds_optional_iff_map fun _ _ => Json.decodeNat_eq_ok_iff,
        Json.Field.holds_optional_any_iff, Json.Field.holds_optional_string_iff,
        Json.Field.holds_required_string_iff]
      constructor
      · rintro ⟨isRange, ⟨isSeverity, severity_lt⟩, isCode, isSource, isMessage, isExtra⟩
        exact ⟨isRange, isSeverity, severity_lt, isCode, isSource, isMessage, isExtra⟩
      · rintro ⟨isRange, isSeverity, severity_lt, isCode, isSource, isMessage, isExtra⟩
        exact ⟨isRange, ⟨isSeverity, severity_lt⟩, isCode, isSource, isMessage, isExtra⟩
  | _ =>
      constructor
      · rintro ⟨⟩
      · rintro ⟨_, ⟨⟩, _⟩

end Diagnostic

/-! ## Publications -/

/-- A publication is told by a URI, a version of thirty-two bits that may be absent or null,
and diagnostics every one of which is one. -/
structure Publication.Tells (value : Json) (publication : Publication) : Prop where
  isRecord : value.IsRecord 3
  uri : value.part? "uri" 0 = some (.string publication.uri)
  version : unlessNull (value.part? "version" 1) = publication.version.map .int
  version_within : ∀ version, publication.version = some version →
    -(Nat.pow 2 31 : Nat) ≤ version ∧ version < (Nat.pow 2 31 : Nat)
  diagnostics : ∃ items, value.part? "diagnostics" 2 = some (.array items) ∧
    List.Forall₂ Diagnostic.Tells items publication.diagnostics

theorem Publication.decode_eq_ok_iff
    {value : Json} {publication : Publication} (ordered : value.isOrdered) :
    decode value = .ok publication ↔ Tells value publication := by
  simp only [decode, Json.decodeRecord3_eq_ok_iff ordered, Json.Field.name_required,
    Json.Field.name_optional, Json.Field.holds_required_string_iff,
    Json.Field.holds_optional_iff_map fun _ _ => Json.decodeInt_eq_ok_iff,
    Json.Field.holds_required_list_iff Diagnostic.decode_eq_ok_iff ordered]
  constructor
  · rintro ⟨isRecord, uri, version, diagnostics, isUri, ⟨isVersion, isWithin⟩, areDiagnostics, rfl⟩
    exact ⟨isRecord, isUri, isVersion, isWithin, areDiagnostics⟩
  · rintro ⟨isRecord, isUri, isVersion, isWithin, areDiagnostics⟩
    exact ⟨isRecord, _, _, _, isUri, ⟨isVersion, isWithin⟩, areDiagnostics, rfl⟩

end LanguageClient
