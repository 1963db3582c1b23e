import LanguageClient.Json.Decode

/-!
# Faults in JSON text

What can be wrong with a text, and where: lines count from one, columns count
the bytes since the last line feed.
-/

namespace LanguageClient.Json

inductive Fault where
  | endInList
  | endInObject
  | endInString
  | endInValue
  | expectedColon
  | expectedListCommaOrEnd
  | expectedObjectCommaOrEnd
  | expectedIdentifier
  | expectedValue
  | invalidEscape
  | invalidNumber
  | numberOutOfRange
  | invalidCodePoint
  | controlCharacter
  | keyNotString
  | loneSurrogate
  | trailingComma
  | trailingCharacters
  | endOfHexEscape
  | tooDeep
  /-- A value of another form than the reader asks for. -/
  | unfit (error : DecodeError)
deriving DecidableEq, Repr

def Fault.message : Fault → String
  | .endInList => "EOF while parsing a list"
  | .endInObject => "EOF while parsing an object"
  | .endInString => "EOF while parsing a string"
  | .endInValue => "EOF while parsing a value"
  | .expectedColon => "expected `:`"
  | .expectedListCommaOrEnd => "expected `,` or `]`"
  | .expectedObjectCommaOrEnd => "expected `,` or `\x7d`"
  | .expectedIdentifier => "expected ident"
  | .expectedValue => "expected value"
  | .invalidEscape => "invalid escape"
  | .invalidNumber => "invalid number"
  | .numberOutOfRange => "number out of range"
  | .invalidCodePoint => "invalid unicode code point"
  | .controlCharacter => "control character (\\u0000-\\u001F) found while parsing a string"
  | .keyNotString => "key must be a string"
  | .loneSurrogate => "lone leading surrogate in hex escape"
  | .trailingComma => "trailing comma"
  | .trailingCharacters => "trailing characters"
  | .endOfHexEscape => "unexpected end of hex escape"
  | .tooDeep => "recursion limit exceeded"
  | .unfit error => error.message

structure SyntaxError where
  fault : Fault
  line : Nat
  column : Nat
deriving DecidableEq, Repr

def SyntaxError.message (error : SyntaxError) : String :=
  s!"{error.fault.message} at line {error.line} column {error.column}"

def placeAfter (before : List UInt8) : Nat × Nat :=
  before.foldl
    (fun (place : Nat × Nat) (byte : UInt8) =>
      if byte = 0x0A then (place.1 + 1, 0) else (place.1, place.2 + 1))
    (1, 0)

end LanguageClient.Json
