import LanguageClient.Json.Printer
import LanguageClient.Text.Quoted

/-!
# Decoding values

Readers of domain values from JSON values.  A record is read from an object, by
the names of its fields, or from a list, by their order.  Among several faults
in the members of an object the one under the least key is reported, and a
missing field only if no member is at fault.
-/

namespace LanguageClient.Json

/-- Why a value is not of the form that was asked for. -/
inductive DecodeError where
  | invalidType (found : Json) (expected : String)
  | invalidValue (found : Json) (expected : String)
  | invalidLength (length : Nat) (expected : String)
  | missingField (name : String)
deriving DecidableEq, Repr

def describe : Json → String
  | .null => "null"
  | .bool true => "boolean `true`"
  | .bool false => "boolean `false`"
  | .number (.integer value) => s!"integer `{value}`"
  | .number (.real value) => s!"floating point `{writeReal value}`"
  | .string value => s!"string {Text.quote value}"
  | .array _ => "sequence"
  | .object _ => "map"

def DecodeError.message : DecodeError → String
  | .invalidType found expected => s!"invalid type: {found.describe}, expected {expected}"
  | .invalidValue found expected => s!"invalid value: {found.describe}, expected {expected}"
  | .invalidLength length expected => s!"invalid length {length}, expected {expected}"
  | .missingField name => s!"missing field `{name}`"

abbrev Decoder (α : Type) := Json → Except DecodeError α

/-! ## Plain values -/

def decodeAny : Decoder Json := .ok

def decodeString : Decoder String
  | .string value => .ok value
  | found => .error (.invalidType found "a string")

/-- Reads an integer between two bounds; `name` is what messages call them. -/
def decodeInteger (least greatest : Int) (name : String) : Decoder Int
  | .number (.integer value) =>
      if least ≤ value ∧ value ≤ greatest then .ok value
      else .error (.invalidValue (.int value) name)
  | found => .error (.invalidType found name)

/-- Reads a natural number below `2 ^ bits`. -/
def decodeNat (bits : Nat) : Decoder Nat := fun json =>
  (decodeInteger 0 (Nat.pow 2 bits - 1 : Nat) s!"u{bits}" json).map Int.toNat

/-- Reads an integer of the given width in two's complement. -/
def decodeInt (bits : Nat) : Decoder Int :=
  decodeInteger (-(Nat.pow 2 (bits - 1) : Nat)) (Nat.pow 2 (bits - 1) - 1 : Nat) s!"i{bits}"

/-- Reads `null` as nothing. -/
def decodeOption {α : Type} (decode : Decoder α) : Decoder (Option α)
  | .null => .ok none
  | found => (decode found).map some

def decodeList {α : Type} (decode : Decoder α) : Decoder (List α)
  | .array items => items.mapM decode
  | found => .error (.invalidType found "a sequence")

/-- Reads the values of an object, in the order of the keys. -/
def decodeMap {α : Type} (decode : Decoder α) : Decoder (List (String × α))
  | .object members => members.mapM fun (key, value) => (decode value).map (key, ·)
  | found => .error (.invalidType found "a map")

/-! ## Records -/

/-- A field of a record: its name, the reader of its value, and the value that
stands for an absent field, if it may be absent. -/
structure Field (α : Type) where
  name : String
  decode : Decoder α
  absent : Option α

namespace Field

variable {α : Type}

def required (name : String) (decode : Decoder α) : Field α :=
  ⟨name, decode, none⟩

def optional (name : String) (decode : Decoder α) : Field (Option α) :=
  ⟨name, decodeOption decode, some none⟩

/-- A field with a value of its own for the case that it is absent. -/
def withDefault (name : String) (decode : Decoder α) (absent : α) : Field α :=
  ⟨name, decode, some absent⟩

def fault? (field : Field α) (key : String) (value : Json) : Option DecodeError :=
  if key = field.name then
    match field.decode value with
    | .error fault => some fault
    | .ok _ => none
  else none

def ofMembers (field : Field α) (members : Members) : Except DecodeError α :=
  match Members.get? members field.name with
  | some value => field.decode value
  | none =>
      match field.absent with
      | some value => .ok value
      | none => .error (.missingField field.name)

def ofItems (field : Field α) (position : Nat) (record : String) (items : List Json) :
    Except DecodeError (α × List Json) :=
  match items with
  | item :: rest => (field.decode item).map (·, rest)
  | [] =>
      match field.absent with
      | some value => .ok (value, [])
      | none => .error (.invalidLength position record)

end Field

def checkMembers (members : Members) (fault? : String → Json → Option DecodeError) :
    Except DecodeError Unit :=
  match List.findSome? (fun (key, value) => fault? key value) members with
  | some fault => .error fault
  | none => .ok ()

/-- A list that holds a record holds nothing else. -/
def checkItems (items left : List Json) : Except DecodeError Unit :=
  if left.isEmpty then .ok () else .error (.invalidLength items.length "fewer elements in array")

section Records

variable {α β γ δ : Type}

def decodeRecord1 (title : String) (a : Field α) (make : α → δ) : Decoder δ
  | .object members => do
      checkMembers members a.fault?
      return make (← a.ofMembers members)
  | .array items => do
      let (x, left) ← a.ofItems 0 s!"struct {title} with 1 element" items
      checkItems items left
      return make x
  | found => .error (.invalidType found s!"struct {title}")

def decodeRecord2 (title : String) (a : Field α) (b : Field β) (make : α → β → δ) : Decoder δ
  | .object members => do
      checkMembers members fun key value => (a.fault? key value).or (b.fault? key value)
      return make (← a.ofMembers members) (← b.ofMembers members)
  | .array items => do
      let record := s!"struct {title} with 2 elements"
      let (x, left) ← a.ofItems 0 record items
      let (y, left) ← b.ofItems 1 record left
      checkItems items left
      return make x y
  | found => .error (.invalidType found s!"struct {title}")

def decodeRecord3 (title : String) (a : Field α) (b : Field β) (c : Field γ)
    (make : α → β → γ → δ) : Decoder δ
  | .object members => do
      checkMembers members fun key value =>
        ((a.fault? key value).or (b.fault? key value)).or (c.fault? key value)
      return make (← a.ofMembers members) (← b.ofMembers members) (← c.ofMembers members)
  | .array items => do
      let record := s!"struct {title} with 3 elements"
      let (x, left) ← a.ofItems 0 record items
      let (y, left) ← b.ofItems 1 record left
      let (z, left) ← c.ofItems 2 record left
      checkItems items left
      return make x y z
  | found => .error (.invalidType found s!"struct {title}")

end Records

end LanguageClient.Json
