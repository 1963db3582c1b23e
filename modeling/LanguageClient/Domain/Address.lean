/-!
# Addresses

The written forms of internet addresses: up to four numbers with points between them, of
which the last fills the bytes that are left, or eight groups of four hexadecimal digits
with colons between them, some of which may be left out.
-/

namespace LanguageClient.Domain

def isHexDigit (c : Char) : Bool :=
  c.isDigit || ('a' ≤ c.toLower && c.toLower ≤ 'f')

def hexDigitValue (c : Char) : Nat :=
  if c.isDigit then c.toNat - '0'.toNat else c.toLower.toNat - 'a'.toNat + 10

def numberOf (base : Nat) (digits : List Char) : Nat :=
  digits.foldl (fun number digit => number * base + hexDigitValue digit) 0

/-! ## Four bytes -/

/-- The number of a part of an address: hexadecimal behind `0x`, octal behind another
zero, decimal else. -/
def number? (part : List Char) : Option Nat :=
  match part with
  | [] => none
  | '0' :: 'x' :: digits =>
      if digits.all isHexDigit then some (numberOf 16 digits) else none
  | '0' :: digit :: digits =>
      if (digit :: digits).all fun c => '0' ≤ c && c ≤ '7' then
        some (numberOf 8 (digit :: digits))
      else none
  | digits => if digits.all Char.isDigit then some (numberOf 10 digits) else none

/-- The parts of a name between points; nothing behind the last point is no part. -/
def addressParts (name : List Char) : List (List Char) :=
  let parts := name.splitOn '.'
  if parts.getLast? = some [] then parts.dropLast else parts

/-- Whether the last part of a name makes it an address. -/
def endsInNumber (name : List Char) : Bool :=
  match (addressParts name).getLast? with
  | none | some [] => false
  | some last => last.all Char.isDigit || (number? last).isSome

def isFourByteAddress (name : List Char) : Bool :=
  match (addressParts name).mapM number? with
  | none => false
  | some numbers =>
      match numbers.reverse with
      | [] => false
      | last :: before =>
          before.length < 4 && before.all (· < 256)
            && last < Nat.pow 256 (4 - before.length)

/-! ## Sixteen bytes -/

/-- Whether a text is a number below 256 without a zero in front. -/
def isByte (text : List Char) : Bool :=
  !text.isEmpty && text.all Char.isDigit && (text.length = 1 || text.head? ≠ some '0')
    && text.length ≤ 3 && numberOf 10 text < 256

def isByteQuad (text : List Char) : Bool :=
  let parts := text.splitOn '.'
  parts.length = 4 && parts.all isByte

/-- Whether a text fills a number of groups.  Groups may be left out once; four bytes may
stand for the last two groups. -/
def fillsGroups : (left : Nat) → (isShortened : Bool) → List Char → Bool
  | left, isShortened, [] => isShortened || left = 0
  | 0, _, _ :: _ => false
  | left + 1, isShortened, c :: rest =>
      if c = ':' then !isShortened && fillsGroups left true rest
      else
        let digits := ((c :: rest).take 4).takeWhile isHexDigit
        match (c :: rest).drop digits.length with
        | [] => isShortened || left = 0
        | mark :: behind =>
            if mark = '.' then
              !digits.isEmpty && isByteQuad (c :: rest)
                && (if isShortened then 1 ≤ left else left = 1)
            else mark = ':' && !behind.isEmpty && fillsGroups left isShortened behind

def isSixteenByteAddress (text : List Char) : Bool :=
  match text with
  | ':' :: ':' :: rest => fillsGroups 7 true rest
  | ':' :: _ | [] | [_] => false
  | text => fillsGroups 8 false text

end LanguageClient.Domain
