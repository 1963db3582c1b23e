import LanguageClient.Decimal.Binary64

/-!
# JSON values

The value type of the wire.  The members of an object are kept in ascending
order of their keys, each key once, so that two objects with the same members
are equal and are printed alike.
-/

namespace LanguageClient

/-- A JSON number: an integer between `-2 ^ 63` and `2 ^ 64 - 1`, or a binary
floating-point number. -/
inductive Json.Number where
  | integer (value : Int)
  | real (value : Decimal.Binary64)
deriving DecidableEq, Repr

inductive Json where
  | null
  | bool (value : Bool)
  | number (value : Json.Number)
  | string (value : String)
  | array (items : List Json)
  | object (members : List (String × Json))
deriving Repr, Inhabited

namespace Json

/-! ## Equality -/

mutual

/-- Equality of values is decided member by member. -/
def decideEq : (a b : Json) → Decidable (a = b)
  | .null, .null => isTrue rfl
  | .bool a, .bool b => if same : a = b then isTrue (same ▸ rfl) else isFalse (by simp [same])
  | .number a, .number b => if same : a = b then isTrue (same ▸ rfl) else isFalse (by simp [same])
  | .string a, .string b => if same : a = b then isTrue (same ▸ rfl) else isFalse (by simp [same])
  | .array a, .array b =>
      match decideEqItems a b with
      | isTrue same => isTrue (same ▸ rfl)
      | isFalse different => isFalse (by simp [different])
  | .object a, .object b =>
      match decideEqMembers a b with
      | isTrue same => isTrue (same ▸ rfl)
      | isFalse different => isFalse (by simp [different])
  | .null, .bool _ | .null, .number _ | .null, .string _ | .null, .array _ | .null, .object _
  | .bool _, .null | .bool _, .number _ | .bool _, .string _ | .bool _, .array _
  | .bool _, .object _
  | .number _, .null | .number _, .bool _ | .number _, .string _ | .number _, .array _
  | .number _, .object _
  | .string _, .null | .string _, .bool _ | .string _, .number _ | .string _, .array _
  | .string _, .object _
  | .array _, .null | .array _, .bool _ | .array _, .number _ | .array _, .string _
  | .array _, .object _
  | .object _, .null | .object _, .bool _ | .object _, .number _ | .object _, .string _
  | .object _, .array _ => isFalse (by simp)

def decideEqItems : (a b : List Json) → Decidable (a = b)
  | [], [] => isTrue rfl
  | [], _ :: _ | _ :: _, [] => isFalse (by simp)
  | x :: xs, y :: ys =>
      match decideEq x y, decideEqItems xs ys with
      | isTrue head, isTrue tail => isTrue (by rw [head, tail])
      | isFalse different, _ => isFalse (by simp [different])
      | _, isFalse different => isFalse (by simp [different])

def decideEqMembers : (a b : List (String × Json)) → Decidable (a = b)
  | [], [] => isTrue rfl
  | [], _ :: _ | _ :: _, [] => isFalse (by simp)
  | (key, x) :: xs, (key', y) :: ys =>
      if sameKey : key = key' then
        match decideEq x y, decideEqMembers xs ys with
        | isTrue head, isTrue tail => isTrue (by rw [sameKey, head, tail])
        | isFalse different, _ => isFalse (by simp [different])
        | _, isFalse different => isFalse (by simp [different])
      else isFalse (by simp [sameKey])

end

instance : DecidableEq Json := decideEq

/-! ## Members -/

abbrev Members := List (String × Json)

namespace Members

def get? (members : Members) (key : String) : Option Json :=
  (List.find? (fun member => member.1 = key) members).map Prod.snd

/-- Puts a value under a key, in the place the order of keys gives it; a value
that was there before goes. -/
def insert (key : String) (value : Json) : Members → Members
  | [] => [(key, value)]
  | (key', value') :: rest =>
      if key = key' then (key, value) :: rest
      else if key < key' then (key, value) :: (key', value') :: rest
      else (key', value') :: insert key value rest

/-- Takes the value under a key away. -/
def erase (members : Members) (key : String) : Members :=
  List.filter (fun member => member.1 ≠ key) members

/-- The members given one after the other; of two with one key the later
counts. -/
def ofList (members : List (String × Json)) : Members :=
  List.foldl (fun kept (key, value) => insert key value kept) [] members

end Members

def ofMembers (members : List (String × Json)) : Json :=
  .object (Members.ofList members)

def int (value : Int) : Json :=
  .number (.integer value)

def nat (value : Nat) : Json :=
  int value

/-! ## Looking inside -/

/-- The member of an object under a key; other values have none. -/
def member? : Json → String → Option Json
  | .object members, key => Members.get? members key
  | _, _ => none

def string? : Json → Option String
  | .string value => some value
  | _ => none

def nat? : Json → Option Nat
  | .number (.integer value) => value.toNat?
  | _ => none

def isNull : Json → Bool
  | .null => true
  | _ => false

end Json

end LanguageClient
