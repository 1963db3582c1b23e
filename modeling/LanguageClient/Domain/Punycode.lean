/-!
# Punycode

A label beyond ASCII in letters of ASCII: the characters of ASCII come first, as they
are, and behind the last hyphen stand numbers that say which other characters are put in
where.  The digits of a number come with the lowest first; the one below the threshold
of its place is the last.
-/

namespace LanguageClient.Domain.Punycode

def base : Nat := 36

def greatest : Nat := 4294967295

def digitValue? (c : Char) : Option Nat :=
  if c.isDigit then some (c.toNat - '0'.toNat + 26)
  else if c.isAlpha then some (c.toLower.toNat - 'a'.toNat)
  else none

def threshold (place bias : Nat) : Nat :=
  if place ≤ bias then 1 else min 26 (place - bias)

def shrink (places : Nat) (number : Nat) : Nat × Nat :=
  if 455 < number then shrink (places + base) (number / 35) else (places, number)
termination_by number
decreasing_by exact Nat.div_lt_self (by omega) (by omega)

/-- The bias behind a number, from the length of the text it leads to. -/
def adapt (number length : Nat) (isFirst : Bool) : Nat :=
  let number := if isFirst then number / 700 else number / 2
  let (places, number) := shrink 0 (number + number / length)
  places + base * number / (number + 38)

/-- How far a label has been read: the text so far, the last character put in and the
place behind it, the bias, and of the number at hand the sum, the weight and the place
of the next digit. -/
structure Reading where
  text : List Char
  code : Nat
  index : Nat
  bias : Nat
  sum : Nat
  weight : Nat
  place : Nat

/-- The reading behind a number, which says what is put in where. -/
def Reading.putIn (reading : Reading) (sum : Nat) : Option Reading :=
  let length := reading.text.length + 1
  let code := reading.code + sum / length
  let index := sum % length
  if code.isValidChar then
    some {
      text := reading.text.take index ++ Char.ofNat code :: reading.text.drop index
      code
      index := index + 1
      bias := adapt (sum - reading.index) length (reading.index = 0)
      sum := index + 1
      weight := 1
      place := base }
  else none

def Reading.next (reading : Reading) (digit : Nat) : Option Reading :=
  let sum := reading.sum + digit * reading.weight
  let least := threshold reading.place reading.bias
  let weight := reading.weight * (base - least)
  if greatest < sum then none
  else if digit < least then reading.putIn sum
  else if greatest < weight then none
  else some { reading with sum, weight, place := reading.place + base }

/-- The label before its last hyphen, and the digits behind it. -/
def splitDigits (label : List Char) : List Char × List Char :=
  match label.reverse.span (· != '-') with
  | (digits, _ :: plain) => (plain.reverse, digits.reverse)
  | (digits, []) => ([], digits.reverse)

/-- The text of a label; a hyphen at its front is no digit. -/
def decode? (label : List Char) : Option (List Char) := do
  let (plain, digits) := splitDigits label
  if plain.isEmpty && label.contains '-' then none
  else
    let values ← digits.mapM digitValue?
    let reading ← values.foldlM Reading.next ⟨plain, 0x80, 0, 72, 0, 1, base⟩
    if reading.place = base then some reading.text else none

end LanguageClient.Domain.Punycode
