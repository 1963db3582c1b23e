/-!
# Binary floating point with 53 significant bits

Finite numbers `± significand · 2 ^ exponent`, rounding of a ratio to the
nearest of them (ties to the even significand), and the product and quotient
that go with it.
-/

namespace LanguageClient.Decimal

/-- A finite binary number.  In the form kept here the significand has 53 bits,
or fewer at the least exponent, -1074. -/
structure Binary64 where
  negative : Bool
  significand : Nat
  exponent : Int
deriving DecidableEq, Repr

namespace Binary64

def leastExponent : Int := -1074

def greatestExponent : Int := 971

def zero : Binary64 := ⟨false, 0, leastExponent⟩

/-- The number with the other sign. -/
def neg (x : Binary64) : Binary64 := { x with negative := !x.negative }

def isZero (x : Binary64) : Bool := x.significand == 0

def leastNormal : Nat := 4503599627370496

/-- The ratio `n · 2 ^ e` as numerator and denominator. -/
def scale (n : Nat) (e : Int) : Nat × Nat :=
  (n * Nat.pow 2 e.toNat, Nat.pow 2 (-e).toNat)

/-- The quotient rounded to the nearest integer, a half to the even one. -/
def roundQuotient (numerator denominator : Nat) : Nat :=
  let quotient := numerator / denominator
  let twice := 2 * (numerator % denominator)
  if twice < denominator then quotient
  else if denominator < twice then quotient + 1
  else if quotient % 2 = 0 then quotient else quotient + 1

/-- The exponent at which a positive ratio has a 53-bit integer part, or the
least exponent if that is greater. -/
def exponentOfRatio (numerator denominator : Nat) : Int :=
  let guess : Int := (numerator.log2 : Int) - denominator.log2 - 52
  let (up, down) := scale 1 guess
  let exponent := if numerator * down < leastNormal * (denominator * up) then guess - 1 else guess
  max exponent leastExponent

/-- The nearest number to a ratio; `none` when it lies beyond the greatest. -/
def ofRatio (negative : Bool) (numerator denominator : Nat) : Option Binary64 :=
  if numerator = 0 then some ⟨negative, 0, leastExponent⟩
  else
    let exponent := exponentOfRatio numerator denominator
    let (up, down) := scale 1 exponent
    let significand := roundQuotient (numerator * down) (denominator * up)
    let (significand, exponent) :=
      if significand = 2 * leastNormal then (leastNormal, exponent + 1) else (significand, exponent)
    if greatestExponent < exponent then none
    else some ⟨negative, significand, exponent⟩

def ofNat (n : Nat) : Option Binary64 :=
  ofRatio false n 1

def mul (x y : Binary64) : Option Binary64 :=
  let (up, down) := scale (x.significand * y.significand) (x.exponent + y.exponent)
  ofRatio (x.negative != y.negative) up down

/-- The rounded quotient by a number other than zero. -/
def div (x y : Binary64) : Option Binary64 :=
  let (up, down) := scale x.significand (x.exponent - y.exponent)
  ofRatio (x.negative != y.negative) up (down * y.significand)

end Binary64

/-!
## Shortest decimals

The fewest decimal digits that lead back to a binary number, and among those
digits the nearest ones.
-/

/-- A positive decimal number `d.ddd · 10 ^ exponent`, as its digits. -/
structure Digits where
  digits : List Char
  exponent : Int
deriving DecidableEq, Repr

namespace Binary64

def powerOfTenLe (power : Int) (n : Nat) (e : Int) : Bool :=
  let (up, down) := scale n e
  Nat.pow 10 power.toNat * down ≤ up * Nat.pow 10 (-power).toNat

/-- The greatest power of ten that is at most `n · 2 ^ e`, for positive `n`.
The first guess from the bit length is off by one at most. -/
def decimalExponent (n : Nat) (e : Int) : Int :=
  let guess := ((n.log2 : Int) + e) * 30103 / 100000
  if powerOfTenLe (guess + 1) n e then guess + 1
  else if powerOfTenLe guess n e then guess
  else guess - 1

/-- The two neighbours of a positive number on the decimal grid with the given
number of digits, tried against the interval of the reals that round to it. -/
def onGrid (x : Binary64) (exponent : Int) (count : Nat) : Option Nat :=
  let power : Int := exponent + 1 - count
  let gridUp := Nat.pow 10 power.toNat
  let gridDown := Nat.pow 10 (-power).toNat
  let (up, down) := scale 1 (x.exponent - 2)
  let middle := 4 * x.significand * up * gridDown
  let below := if x.significand = leastNormal && leastExponent < x.exponent then 1 else 2
  let low := (4 * x.significand - below) * up * gridDown
  let high := (4 * x.significand + 2) * up * gridDown
  let closed := x.significand % 2 = 0
  let fits := fun (point : Nat) =>
    let place := point * gridUp * down
    if closed then low ≤ place && place ≤ high else low < place && place < high
  let floor := middle / (gridUp * down)
  let toFloor := middle - floor * gridUp * down
  let toCeiling := (floor + 1) * gridUp * down - middle
  let floorFirst := toFloor < toCeiling || (toFloor = toCeiling && floor % 2 = 0)
  let (first, second) := if floorFirst then (floor, floor + 1) else (floor + 1, floor)
  if first ≠ 0 && fits first then some first
  else if second ≠ 0 && fits second then some second
  else none

/-- The shortest digits of a positive number.  Seventeen digits always lead
back, so the search among fewer than eighteen succeeds. -/
def shortest (x : Binary64) : Digits :=
  let exponent := decimalExponent x.significand x.exponent
  let found := (List.range 17).findSome? fun shorter =>
    (onGrid x exponent (shorter + 1)).map fun point => (shorter + 1, point)
  match found with
  | none => ⟨['0'], 0⟩
  | some (count, point) =>
      let written := Nat.toDigits 10 point
      let kept := (written.reverse.dropWhile (· == '0')).reverse
      ⟨kept, exponent + (written.length : Int) - count⟩

end Binary64

end LanguageClient.Decimal
