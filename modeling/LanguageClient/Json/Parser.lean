import LanguageClient.Json.Basic
import LanguageClient.Json.SyntaxError
import LanguageClient.Text.Utf8

/-!
# Reading JSON text

A reader of one value from the bytes of a text.  Each part takes the bytes in
front of it and gives what it read with the bytes behind, or a fault with the
bytes that were left at its place.  The fuel of the parts that repeat is the
length of the text, which none of them can use up.
-/

namespace LanguageClient.Json

abbrev Input := List UInt8

/-- A fault and the bytes left behind its place. -/
structure Failure where
  fault : Fault
  rest : Input

/-- What reading gives: a value with the bytes behind it, or a failure. -/
abbrev Read (α : Type) := Except Failure (α × Input)

private def failAt {α : Type} (fault : Fault) (rest : Input) : Except Failure α :=
  .error ⟨fault, rest⟩

/-- A fault at the byte in front, or at the end of the text. -/
private def failOn {α : Type} (fault : Fault) (rest : Input) : Except Failure α :=
  .error ⟨fault, rest.drop 1⟩

/-! ## Blanks and words -/

def isBlankByte (byte : UInt8) : Bool :=
  byte = 0x20 || byte = 0x0A || byte = 0x09 || byte = 0x0D

def skipBlanks (input : Input) : Input :=
  input.dropWhile isBlankByte

def readWord : List UInt8 → Input → Except Failure Input
  | [], input => .ok input
  | _ :: _, [] => failAt .endInValue []
  | letter :: letters, byte :: rest =>
      if byte = letter then readWord letters rest else failAt .expectedIdentifier rest

/-! ## Numbers -/

def isDigit (byte : UInt8) : Bool :=
  0x30 ≤ byte && byte ≤ 0x39

def digitValue (byte : UInt8) : Nat :=
  byte.toNat - 0x30

def greatestInteger : Nat := 18446744073709551615

def leastInteger : Nat := 9223372036854775808

/-- Digits taken into a significand as long as it stays an integer; the digits
that no longer fit are left. -/
structure Significand where
  value : Nat
  taken : Nat
  rest : Input

/-- Takes digits into the significand while it does not pass the greatest
integer. -/
def takeDigits (value taken : Nat) : Input → Significand
  | [] => ⟨value, taken, []⟩
  | byte :: rest =>
      if isDigit byte && value * 10 + digitValue byte ≤ greatestInteger then
        takeDigits (value * 10 + digitValue byte) (taken + 1) rest
      else ⟨value, taken, byte :: rest⟩

/-- The greatest power of ten that is a binary number. -/
def greatestPower : Nat := 308

def powerOfTen (power : Nat) : Option Decimal.Binary64 :=
  Decimal.Binary64.ofNat (Nat.pow 10 power)

/-- Divides by the greatest power of ten a number of times; a number that has
come to zero stays as it is. -/
def divideBySteps (x : Decimal.Binary64) : (steps : Nat) → Option Decimal.Binary64
  | 0 => some x
  | steps + 1 =>
      if x.isZero then some x
      else
        match (powerOfTen greatestPower).bind x.div with
        | none => none
        | some quotient => divideBySteps quotient steps

/-- Divides by a power of ten, in steps of the greatest one as long as the power
is beyond it. -/
def divideByPower (x : Decimal.Binary64) (power : Nat) : Option Decimal.Binary64 :=
  let steps := (power - 1) / greatestPower
  match divideBySteps x steps with
  | none => none
  | some quotient => (powerOfTen (power - steps * greatestPower)).bind quotient.div

/-- The number `significand · 10 ^ exponent`: the significand is rounded first,
and once more after each multiplication or division by a power of ten. -/
def assemble (significand : Nat) (exponent : Int) : Option Decimal.Binary64 :=
  match Decimal.Binary64.ofNat significand with
  | none => none
  | some x =>
      if exponent < 0 then divideByPower x exponent.natAbs
      else if exponent ≤ greatestPower then (powerOfTen exponent.natAbs).bind x.mul
      else if x.isZero then some x else none

/-- The real number with a sign, or the fault of one that is too great. -/
private def readReal (negative : Bool) (significand : Nat) (exponent : Int) (rest : Input) :
    Read Number :=
  match assemble significand exponent with
  | none => failAt .numberOutOfRange rest
  | some x => .ok (.real (if negative then x.neg else x), rest)

def greatestWrittenExponent : Nat := 2147483647

/-- Reads the digits of an exponent behind its first; `none` as the value when
they pass the greatest exponent, with the bytes at the first digit too many. -/
def takeExponent (value : Nat) : Input → Option Nat × Input
  | [] => (some value, [])
  | byte :: rest =>
      if isDigit byte then
        if value * 10 + digitValue byte ≤ greatestWrittenExponent then
          takeExponent (value * 10 + digitValue byte) rest
        else (none, rest)
      else (some value, byte :: rest)

private def clampExponent (exponent : Int) : Int :=
  max (-2147483648) (min exponent 2147483647)

/-- Reads the exponent of a number; the mark `e` in front of it has been read. -/
def readExponent (negative : Bool) (significand : Nat) (start : Int) (input : Input) :
    Read Number :=
  let (down, input) :=
    match input with
    | 0x2B :: rest => (false, rest)
    | 0x2D :: rest => (true, rest)
    | rest => (false, rest)
  match input with
  | [] => failAt .endInValue []
  | first :: rest =>
      if !isDigit first then failAt .invalidNumber rest
      else
        match takeExponent (digitValue first) rest with
        | (some exponent, rest) =>
            let exponent := if down then start - exponent else start + exponent
            readReal negative significand (clampExponent exponent) rest
        | (none, rest) =>
            if significand ≠ 0 && !down then failAt .numberOutOfRange rest
            else
              let zero := Decimal.Binary64.zero
              .ok (.real (if negative then zero.neg else zero), rest.dropWhile isDigit)

/-- Reads what may stand behind the digits of a number that is a real one. -/
private def readRealTail (negative : Bool) (significand : Nat) (exponent : Int) (input : Input) :
    Read Number :=
  match input with
  | 0x65 :: rest | 0x45 :: rest => readExponent negative significand exponent rest
  | rest => readReal negative significand exponent rest

/-- Reads the fraction of a number; the point in front of it has been read.
Digits that no longer fit the significand are dropped. -/
def readFraction (negative : Bool) (significand : Nat) (exponent : Int) (input : Input) :
    Read Number :=
  let read := takeDigits significand 0 input
  match read.rest with
  | byte :: _ =>
      if isDigit byte then
        readRealTail negative read.value (exponent - read.taken) (read.rest.dropWhile isDigit)
      else if read.taken = 0 then failOn .invalidNumber read.rest
      else readRealTail negative read.value (exponent - read.taken) read.rest
  | [] =>
      if read.taken = 0 then failAt .endInValue []
      else readRealTail negative read.value (exponent - read.taken) []

/-- The number of an integer's digits without point or exponent.  Minus zero and
integers below the least one are real numbers. -/
private def integerOf (negative : Bool) (value : Nat) (rest : Input) : Read Number :=
  if !negative then .ok (.integer value, rest)
  else if value = 0 || leastInteger < value then readReal true value 0 rest
  else .ok (.integer (-value), rest)

def readNumber (negative : Bool) (input : Input) : Read Number :=
  match input with
  | [] => failAt .endInValue []
  | first :: rest =>
      if !isDigit first then failAt .invalidNumber rest
      else if first = 0x30 && (rest.head?.map isDigit).getD false then
        failOn .invalidNumber rest
      else
        let read := takeDigits (digitValue first) 0 rest
        if first = 0x30 then tail 0 rest
        else if (read.rest.head?.map isDigit).getD false then
          let dropped := (read.rest.takeWhile isDigit).length
          let rest := read.rest.dropWhile isDigit
          match rest with
          | 0x2E :: rest => readFraction negative read.value dropped rest
          | rest => readRealTail negative read.value dropped rest
        else tail read.value read.rest
where
  /-- What follows an integer that fits. -/
  tail (value : Nat) (rest : Input) : Read Number :=
    match rest with
    | 0x2E :: rest => readFraction negative value 0 rest
    | 0x65 :: rest | 0x45 :: rest => readExponent negative value 0 rest
    | rest => integerOf negative value rest

/-! ## Strings -/

def hexValue? (byte : UInt8) : Option Nat :=
  if isDigit byte then some (digitValue byte)
  else if 0x61 ≤ byte && byte ≤ 0x66 then some (byte.toNat - 0x61 + 10)
  else if 0x41 ≤ byte && byte ≤ 0x46 then some (byte.toNat - 0x41 + 10)
  else none

def readHex (input : Input) : Read Nat :=
  match input with
  | a :: b :: c :: d :: rest =>
      match hexValue? a, hexValue? b, hexValue? c, hexValue? d with
      | some a, some b, some c, some d => .ok (((a * 16 + b) * 16 + c) * 16 + d, rest)
      | _, _, _, _ => failAt .invalidEscape rest
  | _ => failAt .endInString []

/-- Reads the digits of a `\u` escape, and of a second one when the first is the
front half of a pair. -/
def readUnicode (input : Input) : Except Failure (Char × Input) := do
  let (first, rest) ← readHex input
  if 0xDC00 ≤ first && first ≤ 0xDFFF then failAt .loneSurrogate rest
  else if first < 0xD800 || 0xDBFF < first then return (Char.ofNat first, rest)
  else
    match rest with
    | [] => failAt .endInString []
    | 0x5C :: rest =>
        match rest with
        | [] => failAt .endInString []
        | 0x75 :: rest => do
            let (second, rest) ← readHex rest
            if second < 0xDC00 || 0xDFFF < second then failAt .loneSurrogate rest
            else return (Char.ofNat ((first - 0xD800) * 1024 + (second - 0xDC00) + 0x10000), rest)
        | _ :: rest => failAt .endOfHexEscape rest
    | _ :: rest => failAt .endOfHexEscape rest

/-- Reads what stands behind the backslash of an escape. -/
def readEscape (input : Input) : Read Char :=
  match input with
  | [] => failAt .endInString []
  | 0x22 :: rest => .ok ('"', rest)
  | 0x5C :: rest => .ok ('\\', rest)
  | 0x2F :: rest => .ok ('/', rest)
  | 0x62 :: rest => .ok ('\x08', rest)
  | 0x66 :: rest => .ok ('\x0c', rest)
  | 0x6E :: rest => .ok ('\n', rest)
  | 0x72 :: rest => .ok ('\r', rest)
  | 0x74 :: rest => .ok ('\t', rest)
  | 0x75 :: rest => readUnicode rest
  | _ :: rest => failAt .invalidEscape rest

/-- A byte that stands for itself in a string, or for a part of a character. -/
def isPlainByte (byte : UInt8) : Bool :=
  byte ≠ 0x22 && byte ≠ 0x5C && 0x20 ≤ byte

/-- The text of the bytes of a string, whose written form stands between `start`
and `rest`.  Where they are not well-formed the fault is told as many bytes in
front of `rest` as there are from the first ill-formed piece on. -/
def readText (bytes : List UInt8) (start rest : Input) : Read String :=
  match Text.Utf8.decode? bytes with
  | some text => .ok (text, rest)
  | none =>
      let left := rest.length + (bytes.length - Text.Utf8.wellFormedLength bytes)
      failAt .invalidCodePoint (start.drop (start.length - left))

/-- Reads on in the string that starts behind `start`, adding to the bytes read
before, which are kept in reverse.  The bytes are taken for a text at the closing
quote, when no other fault has been met. -/
def readStringFrom (fuel : Nat) (start : Input) (read : List UInt8) (input : Input) :
    Read String :=
  match fuel with
  | 0 => failAt .endInString []
  | fuel + 1 =>
      let (plain, rest) := input.span isPlainByte
      let read := plain.reverse ++ read
      match rest with
      | [] => failAt .endInString []
      | byte :: rest =>
          if byte = 0x22 then readText read.reverse start rest
          else if byte = 0x5C then
            match readEscape rest with
            | .error failure => .error failure
            | .ok (c, rest) =>
                readStringFrom fuel start ((String.utf8EncodeChar c).reverse ++ read) rest
          else failAt .controlCharacter rest

/-- Reads a string behind its opening quote. -/
def readString (fuel : Nat) (input : Input) : Read String :=
  readStringFrom fuel input [] input

/-! ## Values -/

/-- The nesting of lists and objects that is read. -/
def greatestDepth : Nat := 127

/-- Reads the items of a list behind its opening bracket. -/
def readItems (readItem : Input → Read Json) :
    (fuel : Nat) → (read : List Json) → Input → Except Failure (Json × Input)
  | fuel, read, input =>
      match fuel, skipBlanks input with
      | _, [] => failAt .endInList []
      | 0, _ => failAt .endInList []
      | fuel + 1, byte :: rest =>
          if byte = 0x5D then .ok (.array read.reverse, rest)
          else if read.isEmpty then do
            let (item, rest) ← readItem (byte :: rest)
            readItems readItem fuel [item] rest
          else if byte = 0x2C then
            match skipBlanks rest with
            | [] => failAt .endInValue []
            | 0x5D :: rest => failAt .trailingComma rest
            | rest => do
                let (item, rest) ← readItem rest
                readItems readItem fuel (item :: read) rest
          else failAt .expectedListCommaOrEnd rest

/-- Reads a key, the colon behind it and the value; the opening quote of the key
has been read. -/
def readMember (readItem : Input → Read Json) (fuel : Nat) (input : Input) :
    Except Failure ((String × Json) × Input) := do
  let (key, rest) ← readString fuel input
  match skipBlanks rest with
  | [] => failAt .endInObject []
  | 0x3A :: rest =>
      let (value, rest) ← readItem rest
      return ((key, value), rest)
  | _ :: rest => failAt .expectedColon rest

/-- Reads the members of an object behind its opening brace. -/
def readMembers (readItem : Input → Read Json) :
    (fuel : Nat) → (read : List (String × Json)) → Input → Except Failure (Members × Input)
  | fuel, read, input =>
      match fuel, skipBlanks input with
      | _, [] => failAt .endInObject []
      | 0, _ => failAt .endInObject []
      | fuel + 1, byte :: rest =>
          if byte = 0x7D then .ok (Members.ofList read.reverse, rest)
          else if read.isEmpty then
            if byte = 0x22 then do
              let (member, rest) ← readMember readItem fuel rest
              readMembers readItem fuel [member] rest
            else failAt .keyNotString rest
          else if byte = 0x2C then
            match skipBlanks rest with
            | [] => failAt .endInValue []
            | 0x22 :: rest => do
                let (member, rest) ← readMember readItem fuel rest
                readMembers readItem fuel (member :: read) rest
            | 0x7D :: rest => failAt .trailingComma rest
            | _ :: rest => failAt .keyNotString rest
          else failAt .expectedObjectCommaOrEnd rest

private def readAs (value : Json) (rest : Except Failure Input) : Read Json :=
  rest.map fun rest => (value, rest)

/-- Reads one value, with blanks in front, in which lists and objects are nested
up to the given depth. -/
def readValue (fuel : Nat) : (depth : Nat) → Input → Read Json
  | depth, input =>
      match skipBlanks input with
      | [] => failAt .endInValue []
      | 0x6E :: rest => readAs .null (readWord [0x75, 0x6C, 0x6C] rest)
      | 0x74 :: rest => readAs (.bool true) (readWord [0x72, 0x75, 0x65] rest)
      | 0x66 :: rest => readAs (.bool false) (readWord [0x61, 0x6C, 0x73, 0x65] rest)
      | 0x2D :: rest => (readNumber true rest).map fun (value, rest) => (.number value, rest)
      | 0x22 :: rest =>
          (readString fuel rest).map fun (value, rest) => (.string value, rest)
      | 0x5B :: rest =>
          match depth with
          | 0 => failAt .tooDeep rest
          | depth + 1 => readItems (readValue fuel depth) fuel [] rest
      | 0x7B :: rest =>
          match depth with
          | 0 => failAt .tooDeep rest
          | depth + 1 =>
              (readMembers (readValue fuel depth) fuel [] rest).map fun (value, rest) =>
                (.object value, rest)
      | byte :: rest =>
          if isDigit byte then
            (readNumber false (byte :: rest)).map fun (value, rest) => (.number value, rest)
          else failAt .expectedValue rest

def Failure.locate (failure : Failure) (text : Input) : SyntaxError :=
  let (line, column) := placeAfter (text.take (text.length - failure.rest.length))
  ⟨failure.fault, line, column⟩

/-- Nothing but blanks may follow. -/
def Read.complete {α : Type} (read : Read α) : Except Failure α := do
  let (value, rest) ← read
  match skipBlanks rest with
  | [] => return value
  | _ :: rest => failAt .trailingCharacters rest

/-- Reads the bytes of a text that holds exactly one value. -/
def parse (text : List UInt8) : Except SyntaxError Json :=
  (Read.complete (readValue (text.length + 1) greatestDepth text)).mapError (·.locate text)

/-!
## Texts that hold an object

A reader of texts whose value is an object.  A value of another form is a fault at
its end, and what stands behind it is not looked at; a list is a fault at its
opening bracket.
-/

def notObject (found : Json) : Fault := .unfit (.invalidType found "a map")

def readObject (fuel : Nat) (input : Input) : Read Members :=
  match skipBlanks input with
  | [] => .error ⟨.endInValue, []⟩
  | 0x7B :: rest => readMembers (readValue fuel (greatestDepth - 1)) fuel [] rest
  | 0x5B :: rest => .error ⟨notObject (.array []), 0x5B :: rest⟩
  | input =>
      match readValue fuel greatestDepth input with
      | .error failure => .error failure
      | .ok (found, rest) => .error ⟨notObject found, rest⟩

/-- Reads the bytes of a text that holds exactly one object. -/
def parseObject (text : List UInt8) : Except SyntaxError Members :=
  (Read.complete (readObject (text.length + 1) text)).mapError (·.locate text)

end LanguageClient.Json
