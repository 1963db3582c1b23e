import LanguageClient.Json.Decode
import LanguageClient.Proofs.Json.Members
import LanguageClient.Proofs.Sequence

/-!
# Which values can be read

A plain value is read from the one form that it has.  A record is read from an object, by
the names of its fields, or from a list that is not longer than the record, by their places:
it is there when each field can be read from its part of the value, and nothing else that
the value holds plays a part.
-/

namespace LanguageClient.Json

/-! ## Plain values -/

theorem decodeString_eq_ok_iff {value : Json} {text : String} :
    decodeString value = .ok text ↔ value = .string text := by
  cases value with
  | string text' => simp [decodeString]
  | _ => exact iff_of_false nofun nofun

theorem decodeInteger_eq_ok_iff
    {least greatest : Int} {name : String} {value : Json} {number : Int} :
    decodeInteger least greatest name value = .ok number ↔
      value = .int number ∧ least ≤ number ∧ number ≤ greatest := by
  cases value with
  | number kind =>
      cases kind with
      | integer found =>
          simp only [int, Json.number.injEq, Number.integer.injEq, decodeInteger]
          by_cases isWithin : least ≤ found ∧ found ≤ greatest
          · rw [if_pos isWithin, Except.ok.injEq]
            exact ⟨fun same => ⟨same, same ▸ isWithin⟩, And.left⟩
          · rw [if_neg isWithin]
            exact iff_of_false nofun fun ⟨same, isWithin'⟩ => isWithin (same ▸ isWithin')
      | real found => exact iff_of_false nofun nofun
  | _ => exact iff_of_false nofun nofun

theorem decodeNat_eq_ok_iff {bits : Nat} {value : Json} {number : Nat} :
    decodeNat bits value = .ok number ↔ value = .nat number ∧ number < Nat.pow 2 bits := by
  have positive : 0 < Nat.pow 2 bits := Nat.pow_pos Nat.two_pos
  simp only [decodeNat, map_eq_ok_iff, decodeInteger_eq_ok_iff]
  constructor
  · rintro ⟨found, ⟨rfl, least, greatest⟩, rfl⟩
    exact ⟨by rw [nat, Int.toNat_of_nonneg least], by omega⟩
  · rintro ⟨rfl, isBelow⟩
    exact ⟨number, ⟨rfl, by omega, by omega⟩, Int.toNat_natCast number⟩

theorem decodeInt_eq_ok_iff {bits : Nat} {value : Json} {number : Int} :
    decodeInt bits value = .ok number ↔
      value = .int number ∧ -(Nat.pow 2 (bits - 1) : Nat) ≤ number ∧
        number < (Nat.pow 2 (bits - 1) : Nat) := by
  have positive : 0 < Nat.pow 2 (bits - 1) := Nat.pow_pos Nat.two_pos
  rw [decodeInt, decodeInteger_eq_ok_iff]
  refine and_congr_right fun _ => and_congr_right fun _ => ?_
  omega

/-- A list is read item by item, whatever form the items have. -/
theorem decodeList_eq_ok_iff
    {α : Type} {decode : Decoder α} {Tells : Json → α → Prop}
    (reads : ∀ {item result}, item.isOrdered → (decode item = .ok result ↔ Tells item result))
    {value : Json} (ordered : value.isOrdered) {results : List α} :
    decodeList decode value = .ok results ↔
      ∃ items, value = .array items ∧ List.Forall₂ Tells items results := by
  cases value with
  | array items =>
      have areOrdered : ∀ item, item ∈ items → item.isOrdered :=
        fun item => isOrdered_of_mem ordered
      have each : (fun item result => item.isOrdered ∧ decode item = .ok result) =
          fun item result => item.isOrdered ∧ Tells item result :=
        funext fun item => funext fun result => propext (and_congr_right reads)
      simp only [decodeList, mapM_eq_ok_iff, array.injEq, exists_eq_left']
      rw [← and_iff_right areOrdered (b := List.Forall₂ Tells items results),
        ← List.forall₂_and_left, ← each, List.forall₂_and_left, and_iff_right areOrdered]
  | _ => exact iff_of_false nofun nofun

/-! ## Parts of a record -/

/-- A part of a record: a member of an object by its name, an item of a list by its place. -/
def part? (name : String) (place : Nat) : Json → Option Json
  | .object members => Members.get? members name
  | .array items => items[place]?
  | _ => none

@[simp]
theorem part?_ofMembers (members : List (String × Json)) (name : String) (place : Nat) :
    (ofMembers members).part? name place = Members.get? members.reverse name :=
  Members.get?_ofList members name

theorem isOrdered_of_part?
    {value part : Json} {name : String} {place : Nat} (ordered : value.isOrdered)
    (found : value.part? name place = some part) :
    part.isOrdered := by
  cases value with
  | object members => exact isOrdered_of_get? ordered found
  | array items => exact isOrdered_of_mem ordered (List.mem_of_getElem? found)
  | _ => cases found

/-- Whether a value has the form of a record with some number of fields: it is an object, or
a list that is not longer. -/
def IsRecord (size : Nat) : Json → Prop
  | .object _ => True
  | .array items => items.length ≤ size
  | _ => False

/-- A part that is given: null counts as nothing. -/
def unlessNull (part : Option Json) : Option Json :=
  part.filter fun value => !value.isNull

@[simp]
theorem unlessNull_none : unlessNull none = none := rfl

@[simp]
theorem unlessNull_null : unlessNull (some .null) = none := rfl

theorem unlessNull_of_ne {value : Json} (notNull : value ≠ .null) :
    unlessNull (some value) = some value := by
  cases value with
  | null => exact absurd rfl notNull
  | _ => rfl

@[simp]
theorem unlessNull_unlessNull (part : Option Json) :
    unlessNull (unlessNull part) = unlessNull part := by
  simp [unlessNull]

namespace Field

variable {α : Type}

@[simp]
theorem name_required (name : String) (decode : Decoder α) :
    (required name decode).name = name := rfl

@[simp]
theorem name_optional (name : String) (decode : Decoder α) :
    (optional name decode).name = name := rfl

@[simp]
theorem name_withDefault (name : String) (decode : Decoder α) (absent : α) :
    (withDefault name decode absent).name = name := rfl

/-- Whether a field has this content when its part of a record is the given one. -/
def Holds (field : Field α) (part : Option Json) (content : α) : Prop :=
  match part with
  | some value => field.decode value = .ok content
  | none => field.absent = some content

theorem holds_required_iff
    {name : String} {decode : Decoder α} {part : Option Json} {content : α} :
    (required name decode).Holds part content ↔
      ∃ value, part = some value ∧ decode value = .ok content := by
  cases part with
  | none => exact iff_of_false nofun nofun
  | some value => simp [Holds, required]

/-- The content of a field that must be there is told by the form of its part. -/
theorem holds_required_part_iff
    {name : String} {decode : Decoder α} {Tells : Json → α → Prop}
    (reads : ∀ {part content}, part.isOrdered → (decode part = .ok content ↔ Tells part content))
    {value : Json} (ordered : value.isOrdered) {place : Nat} {content : α} :
    (required name decode).Holds (value.part? name place) content ↔
      ∃ part, value.part? name place = some part ∧ Tells part content := by
  rw [holds_required_iff]
  exact exists_congr fun part => and_congr_right fun found =>
    reads (isOrdered_of_part? ordered found)

theorem holds_required_string_iff {name : String} {part : Option Json} {text : String} :
    (required name decodeString).Holds part text ↔ part = some (.string text) := by
  simp [holds_required_iff, decodeString_eq_ok_iff]

theorem holds_required_nat_iff
    {name : String} {bits : Nat} {part : Option Json} {number : Nat} :
    (required name (decodeNat bits)).Holds part number ↔
      part = some (.nat number) ∧ number < Nat.pow 2 bits := by
  simp [holds_required_iff, decodeNat_eq_ok_iff]

/-- The content of a field that must be there and holds a list is told item by item. -/
theorem holds_required_list_iff
    {name : String} {decode : Decoder α} {Tells : Json → α → Prop}
    (reads : ∀ {item result}, item.isOrdered → (decode item = .ok result ↔ Tells item result))
    {value : Json} (ordered : value.isOrdered) {place : Nat} {contents : List α} :
    (required name (decodeList decode)).Holds (value.part? name place) contents ↔
      ∃ items, value.part? name place = some (.array items) ∧
        List.Forall₂ Tells items contents := by
  rw [holds_required_part_iff (fun ordered => decodeList_eq_ok_iff reads ordered) ordered]
  simp

/-- A field that may be absent or null is without content then. -/
theorem holds_optional_iff
    {name : String} {decode : Decoder α} {part : Option Json} {content : Option α} :
    (optional name decode).Holds part content ↔
      unlessNull part = none ∧ content = none ∨
        ∃ value found, unlessNull part = some value ∧ decode value = .ok found ∧
          content = some found := by
  cases part with
  | none => simp [Holds, optional, eq_comm]
  | some value =>
      change decodeOption decode value = .ok content ↔ _
      by_cases isNull : value = .null
      · subst isNull
        simp [decodeOption, eq_comm]
      · have read : decodeOption decode value = (decode value).map some := by
          cases value with
          | null => exact absurd rfl isNull
          | _ => rfl
        rw [read, unlessNull_of_ne isNull, map_eq_ok_iff]
        simp [eq_comm]

/-- The content of a field that may be absent or null is told by the form that values of its
kind have. -/
theorem holds_optional_iff_map
    {name : String} {decode : Decoder α} {write : α → Json} {fits : α → Prop}
    (reads : ∀ value found, decode value = .ok found ↔ value = write found ∧ fits found)
    {part : Option Json} {content : Option α} :
    (optional name decode).Holds part content ↔
      unlessNull part = content.map write ∧ ∀ found, content = some found → fits found := by
  rw [holds_optional_iff]
  simp only [reads]
  cases content with
  | none => simp
  | some found => simp

theorem holds_optional_string_iff
    {name : String} {part : Option Json} {text : Option String} :
    (optional name decodeString).Holds part text ↔ unlessNull part = text.map .string := by
  have reads (value : Json) (found : String) :
      decodeString value = .ok found ↔ value = .string found ∧ True := by
    rw [decodeString_eq_ok_iff, and_true]
  simp [holds_optional_iff_map reads]

theorem holds_optional_any_iff {name : String} {part content : Option Json} :
    (optional name decodeAny).Holds part content ↔ unlessNull part = content := by
  have reads (value found : Json) : decodeAny value = .ok found ↔ value = id found ∧ True := by
    simp [decodeAny]
  simp [holds_optional_iff_map reads]

theorem holds_withDefault_iff
    {name : String} {decode : Decoder α} {absent : α} {part : Option Json} {content : α} :
    (withDefault name decode absent).Holds part content ↔
      part = none ∧ content = absent ∨ ∃ value, part = some value ∧ decode value = .ok content := by
  cases part <;> simp [Holds, withDefault, eq_comm]

theorem ofMembers_eq_ok_iff {field : Field α} {members : Members} {content : α} :
    field.ofMembers members = .ok content ↔ field.Holds (members.get? field.name) content := by
  unfold ofMembers
  cases members.get? field.name with
  | some value => rfl
  | none => cases absent : field.absent <;> simp [Holds, absent]

theorem ofItems_eq_ok_iff
    {field : Field α} {position : Nat} {record : String} {items left : List Json} {content : α} :
    field.ofItems position record items = .ok (content, left) ↔
      field.Holds items.head? content ∧ left = items.tail := by
  cases items with
  | nil => cases absent : field.absent <;> simp [ofItems, Holds, absent, eq_comm]
  | cons item rest =>
      cases read : field.decode item <;> simp [ofItems, Holds, read, Except.map, eq_comm]

/-- A field that can be read is at fault in no member. -/
theorem fault?_eq_none
    {field : Field α} {members : Members} {content : α} (inOrder : members.InOrder)
    (holds : field.Holds (members.get? field.name) content)
    {member : String × Json} (isMember : member ∈ members) :
    field.fault? member.1 member.2 = none := by
  unfold fault?
  split
  · rename_i isField
    have found : members.get? field.name = some member.2 :=
      isField ▸ (inOrder.mem_iff member.1 member.2).mp isMember
    rw [found] at holds
    simp only [Holds] at holds
    rw [holds]
  · rfl

end Field

/-! ## Records -/

theorem checkMembers_eq_ok_iff
    {members : Members} {fault? : String → Json → Option DecodeError} {checked : Unit} :
    checkMembers members fault? = .ok checked ↔
      ∀ member, member ∈ members → fault? member.1 member.2 = none := by
  rw [← List.findSome?_eq_none_iff]
  unfold checkMembers
  split
  · rename_i fault found
    exact iff_of_false nofun (by rw [found]; nofun)
  · rename_i nothing
    exact iff_of_true rfl nothing

theorem checkItems_eq_ok_iff {items left : List Json} {checked : Unit} :
    checkItems items left = .ok checked ↔ left = [] := by
  unfold checkItems
  cases left <;> simp

theorem pure_eq_ok_iff {α : Type} {result record : α} :
    (pure result : Except DecodeError α) = .ok record ↔ result = record :=
  ⟨Except.ok.inj, congrArg Except.ok⟩

section Records

variable {α β γ δ : Type} {title : String} {a : Field α} {b : Field β} {c : Field γ}
  {value : Json} {record : δ}

theorem decodeRecord1_eq_ok_iff {make : α → δ} (ordered : value.isOrdered) :
    decodeRecord1 title a make value = .ok record ↔
      value.IsRecord 1 ∧ ∃ x, a.Holds (value.part? a.name 0) x ∧ make x = record := by
  cases value with
  | object members =>
      have inOrder := inOrder_of_isOrdered ordered
      simp only [decodeRecord1, bind_eq_ok_iff, checkMembers_eq_ok_iff,
        Field.ofMembers_eq_ok_iff, pure_eq_ok_iff, exists_const, IsRecord, part?, true_and,
        and_iff_right_iff_imp]
      rintro ⟨x, holds, _⟩ member isMember
      exact Field.fault?_eq_none inOrder holds isMember
  | array items =>
      simp only [decodeRecord1, bind_eq_ok_iff, checkItems_eq_ok_iff, Prod.exists,
        Field.ofItems_eq_ok_iff, pure_eq_ok_iff, exists_const, IsRecord, part?, and_assoc,
        exists_and_left, exists_eq_left, ← List.drop_one, List.head?_eq_getElem?,
        List.drop_eq_nil_iff]
      constructor
      · rintro ⟨x, holds, isShort, made⟩
        exact ⟨isShort, x, holds, made⟩
      · rintro ⟨isShort, x, holds, made⟩
        exact ⟨x, holds, isShort, made⟩
  | _ =>
      refine iff_of_false (fun read => ?_) And.left
      cases read

theorem decodeRecord2_eq_ok_iff {make : α → β → δ} (ordered : value.isOrdered) :
    decodeRecord2 title a b make value = .ok record ↔
      value.IsRecord 2 ∧ ∃ x y, a.Holds (value.part? a.name 0) x ∧
        b.Holds (value.part? b.name 1) y ∧ make x y = record := by
  cases value with
  | object members =>
      have inOrder := inOrder_of_isOrdered ordered
      simp only [decodeRecord2, bind_eq_ok_iff, checkMembers_eq_ok_iff,
        Field.ofMembers_eq_ok_iff, pure_eq_ok_iff, exists_const, exists_and_left, IsRecord,
        part?, true_and, and_iff_right_iff_imp]
      rintro ⟨x, holdsX, y, holdsY, _⟩ member isMember
      rw [Field.fault?_eq_none inOrder holdsX isMember,
        Field.fault?_eq_none inOrder holdsY isMember]
      rfl
  | array items =>
      simp only [decodeRecord2, bind_eq_ok_iff, checkItems_eq_ok_iff, Prod.exists,
        Field.ofItems_eq_ok_iff, pure_eq_ok_iff, exists_const, IsRecord, part?, and_assoc,
        exists_and_left, exists_eq_left, ← List.drop_one, List.head?_eq_getElem?,
        List.getElem?_drop, List.drop_eq_nil_iff, List.length_drop, Nat.sub_le_iff_le_add]
      constructor
      · rintro ⟨x, holdsX, y, holdsY, isShort, made⟩
        exact ⟨isShort, x, holdsX, y, holdsY, made⟩
      · rintro ⟨isShort, x, holdsX, y, holdsY, made⟩
        exact ⟨x, holdsX, y, holdsY, isShort, made⟩
  | _ =>
      refine iff_of_false (fun read => ?_) And.left
      cases read

/-- A record can be read from an object if its fields can, each from its member. -/
theorem decodeRecord3_object_eq_ok_iff
    {make : α → β → γ → δ} {members : Members} (inOrder : members.InOrder) :
    decodeRecord3 title a b c make (.object members) = .ok record ↔
      ∃ x y z, a.Holds (members.get? a.name) x ∧ b.Holds (members.get? b.name) y ∧
        c.Holds (members.get? c.name) z ∧ make x y z = record := by
  simp only [decodeRecord3, bind_eq_ok_iff, checkMembers_eq_ok_iff, Field.ofMembers_eq_ok_iff,
    pure_eq_ok_iff, exists_const, exists_and_left, and_iff_right_iff_imp]
  rintro ⟨x, holdsX, y, holdsY, z, holdsZ, _⟩ member isMember
  rw [Field.fault?_eq_none inOrder holdsX isMember,
    Field.fault?_eq_none inOrder holdsY isMember,
    Field.fault?_eq_none inOrder holdsZ isMember]
  rfl

theorem decodeRecord3_eq_ok_iff {make : α → β → γ → δ} (ordered : value.isOrdered) :
    decodeRecord3 title a b c make value = .ok record ↔
      value.IsRecord 3 ∧ ∃ x y z, a.Holds (value.part? a.name 0) x ∧
        b.Holds (value.part? b.name 1) y ∧ c.Holds (value.part? c.name 2) z ∧
          make x y z = record := by
  cases value with
  | object members =>
      rw [decodeRecord3_object_eq_ok_iff (inOrder_of_isOrdered ordered)]
      simp only [IsRecord, part?, true_and]
  | array items =>
      simp only [decodeRecord3, bind_eq_ok_iff, checkItems_eq_ok_iff, Prod.exists,
        Field.ofItems_eq_ok_iff, pure_eq_ok_iff, exists_const, IsRecord, part?, and_assoc,
        exists_and_left, exists_eq_left, ← List.drop_one,
        List.head?_eq_getElem?, List.getElem?_drop, List.drop_eq_nil_iff, List.length_drop,
        Nat.sub_le_iff_le_add]
      constructor
      · rintro ⟨x, holdsX, y, holdsY, z, holdsZ, isShort, made⟩
        exact ⟨isShort, x, holdsX, y, holdsY, z, holdsZ, made⟩
      · rintro ⟨isShort, x, holdsX, y, holdsY, z, holdsZ, made⟩
        exact ⟨x, holdsX, y, holdsY, z, holdsZ, isShort, made⟩
  | _ =>
      refine iff_of_false (fun read => ?_) And.left
      cases read

end Records

end LanguageClient.Json
