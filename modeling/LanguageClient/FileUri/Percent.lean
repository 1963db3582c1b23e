import LanguageClient.Text.Utf8

/-!
# Percent encoding

A byte that may not stand for itself is written as a percent sign and two
hexadecimal digits.  A percent sign without two digits behind it stands for
itself when read.
-/

namespace LanguageClient.FileUri

/-- The upper-case hexadecimal digit of a number below sixteen. -/
def hexDigit (n : Nat) : Char :=
  ((Nat.toDigits 16 n).headD '0').toUpper

/-- The bytes that are written as they are in a segment of a path: printable
ASCII but for the space and the characters that end a segment, start an escape
or have a meaning of their own around a path. -/
def staysPlain (byte : UInt8) : Bool :=
  0x21 ≤ byte && byte ≤ 0x7E &&
    !("\"<>`#?\x7b\x7d/%\\".toList.contains (Char.ofNat byte.toNat))

def encodeByte (byte : UInt8) : List Char :=
  if staysPlain byte then [Char.ofNat byte.toNat]
  else ['%', hexDigit (byte.toNat / 16), hexDigit (byte.toNat % 16)]

def encodeSegment (bytes : List UInt8) : List Char :=
  bytes.flatMap encodeByte

def hexValue? (byte : UInt8) : Option Nat :=
  if 0x30 ≤ byte && byte ≤ 0x39 then some (byte.toNat - 0x30)
  else if 0x61 ≤ byte && byte ≤ 0x66 then some (byte.toNat - 0x61 + 10)
  else if 0x41 ≤ byte && byte ≤ 0x46 then some (byte.toNat - 0x41 + 10)
  else none

def decodeBytes : List UInt8 → List UInt8
  | [] => []
  | 0x25 :: first :: second :: rest =>
      match hexValue? first, hexValue? second with
      | some high, some low => UInt8.ofNat (high * 16 + low) :: decodeBytes rest
      | _, _ => 0x25 :: decodeBytes (first :: second :: rest)
  | byte :: rest => byte :: decodeBytes rest

def decodeText (text : List Char) : List UInt8 :=
  decodeBytes (Text.Utf8.encode (String.ofList text))

end LanguageClient.FileUri
