import LanguageClient.Json.Basic
import LanguageClient.Decimal.Binary64

/-!
# JSON text

The compact text of a value: no blanks, members in the order of the object,
only the quote, the backslash and the controls below U+0020 escaped.
-/

namespace LanguageClient.Json

/-! ## Numbers -/

/-- Numbers `d.ddd · 10 ^ k` with `k` between the two bounds are written with
all their places, others with an exponent. -/
structure PositionalRange where
  least : Int
  greatest : Int

def positionalRange : PositionalRange := ⟨-5, 15⟩

private def writeExponent (exponent : Int) : List Char :=
  let mark := if exponent < 0 then '-' else '+'
  'e' :: mark :: Nat.toDigits 10 exponent.natAbs

/-- The text of digits with a decimal exponent.  Positional texts have at least
one digit on both sides of the point; others have a point only before a second
digit, and always a sign in the exponent. -/
def writeDigits (number : Decimal.Digits) : List Char :=
  let digits := number.digits
  let exponent := number.exponent
  if positionalRange.least ≤ exponent && exponent ≤ positionalRange.greatest then
    if exponent < 0 then
      '0' :: '.' :: (List.replicate (-exponent - 1).toNat '0' ++ digits)
    else
      let places := exponent.toNat + 1
      let whole := digits.take places
      let fraction := digits.drop places
      whole ++ List.replicate (places - whole.length) '0' ++
        '.' :: (if fraction.isEmpty then ['0'] else fraction)
  else
    match digits with
    | [] => []
    | [digit] => digit :: writeExponent exponent
    | digit :: fraction => digit :: '.' :: (fraction ++ writeExponent exponent)

/-- The text of a binary number: its shortest digits, behind a minus sign if it
is negative, zero included. -/
def writeReal (x : Decimal.Binary64) : String :=
  let digits :=
    if x.isZero then ['0', '.', '0'] else writeDigits x.shortest
  String.ofList (if x.negative then '-' :: digits else digits)

def Number.render : Number → String
  | .integer value => toString value
  | .real value => writeReal value

/-! ## Strings -/

def hexDigit (n : Nat) : Char :=
  (Nat.toDigits 16 n).headD '0'

def escapeChar (c : Char) : List Char :=
  match c with
  | '"' => ['\\', '"']
  | '\\' => ['\\', '\\']
  | '\x08' => ['\\', 'b']
  | '\x0c' => ['\\', 'f']
  | '\n' => ['\\', 'n']
  | '\r' => ['\\', 'r']
  | '\t' => ['\\', 't']
  | c =>
      if c.toNat < 0x20 then
        ['\\', 'u', '0', '0', hexDigit (c.toNat / 16), hexDigit (c.toNat % 16)]
      else [c]

def renderString (text : String) : String :=
  String.ofList ('"' :: (text.toList.flatMap escapeChar ++ ['"']))

/-! ## Values -/

mutual

def render : Json → String
  | .null => "null"
  | .bool true => "true"
  | .bool false => "false"
  | .number value => value.render
  | .string value => renderString value
  | .array items => "[" ++ renderItems items ++ "]"
  | .object members => "\x7b" ++ renderMembers members ++ "\x7d"

/-- The texts of items with commas between them. -/
def renderItems : List Json → String
  | [] => ""
  | [item] => render item
  | item :: next :: rest => render item ++ "," ++ renderItems (next :: rest)

/-- The texts of members with commas between them. -/
def renderMembers : List (String × Json) → String
  | [] => ""
  | [(key, value)] => renderString key ++ ":" ++ render value
  | (key, value) :: next :: rest =>
      renderString key ++ ":" ++ render value ++ "," ++ renderMembers (next :: rest)

end

end LanguageClient.Json
