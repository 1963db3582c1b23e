import LanguageClient.Frame.Error
import LanguageClient.Json.Parser
import LanguageClient.Text.Basic

/-!
# Reading frames

A frame is a block of header lines that ends in a blank line, and a body whose
number of bytes the block gives.  A block at fault is read to its end, and its
body too when a length is known, so that the reader stands at the next frame.
-/

namespace LanguageClient

inductive StreamEnd where
  /-- Nothing: the stream was closed. -/
  | closed
  /-- A failure of the stream. -/
  | failed (message : String)
  /-- Nothing yet; more bytes may come. -/
  | «open»
deriving DecidableEq, Repr

structure ByteStream where
  bytes : List UInt8
  ending : StreamEnd
deriving DecidableEq, Repr

namespace Frame

/-- What the reader comes to at the end of the bytes: the stream ended in the
middle of a part, it failed, or the rest has not come yet. -/
inductive Stop where
  | error (error : FrameError)
  | blocked
deriving DecidableEq, Repr

def stopAt (ending : StreamEnd) (part : FramePart) : Stop :=
  match ending with
  | .closed => .error (.unexpectedEnd part)
  | .failed message => .error (.io message)
  | .open => .blocked

/-! ## Header lines -/

/-- What the lines of a block have said so far: the last length, and the first
fault. -/
structure HeaderBlock where
  length : Option Nat
  fault : Option HeaderFault
deriving DecidableEq, Repr

/-- The block before its first line. -/
def HeaderBlock.empty : HeaderBlock := ⟨none, none⟩

def HeaderBlock.withFault (block : HeaderBlock) (fault : HeaderFault) : HeaderBlock :=
  { block with fault := block.fault.or (some fault) }

inductive HeaderLine where
  | blank
  | length (value : Nat)
  | other
  | faulty (fault : HeaderFault)
deriving DecidableEq, Repr

def greatestLength : Nat := 18446744073709551615

/-- The number that decimal digits, with a plus sign in front or none, denote;
it must not pass the greatest length. -/
def parseLength? (text : List Char) : Option Nat :=
  let digits :=
    match text with
    | '+' :: rest => rest
    | rest => rest
  if digits.isEmpty || !digits.all Char.isDigit then none
  else
    let value := digits.foldl (fun value digit => value * 10 + (digit.toNat - '0'.toNat)) 0
    if value ≤ greatestLength then some value else none

/-- The name of the header that gives the length, in lower case. -/
def lengthHeader : List Char := "content-length".toList

/-- Classifies the bytes of a line, its line feed included. -/
def classifyLine (line : List UInt8) : HeaderLine :=
  match Text.Utf8.decode? line with
  | none => .faulty (.notUtf8 (Text.Utf8.decodeLossy line))
  | some text =>
      let trimmed := Text.trimBlanks text.toList
      if trimmed.isEmpty then .blank
      else
        match trimmed.span (· != ':') with
        | (_, []) => .faulty (.withoutColon (String.ofList trimmed))
        | (key, _ :: value) =>
            if Text.lowerAscii (Text.trimBlanks key) = lengthHeader then
              let value := Text.trimBlanks value
              match parseLength? value with
              | some length => .length length
              | none => .faulty (.invalidLength (String.ofList value))
            else .other

/-- The block with one more line that is not blank. -/
def HeaderBlock.add (block : HeaderBlock) : HeaderLine → HeaderBlock
  | .length value => { block with length := some value }
  | .faulty fault => block.withFault fault
  | .blank | .other => block

/-- Takes one line: the bytes up to a line feed and the line feed itself, or the
last bytes of a closed stream, and the bytes behind them. -/
def takeLine (stream : ByteStream) : Except Stop (List UInt8 × List UInt8) :=
  match stream.bytes.span (· != 0x0A) with
  | (line, feed :: rest) => .ok (line ++ [feed], rest)
  | ([], []) => .error (stopAt stream.ending .headers)
  | (line, []) =>
      match stream.ending with
      | .closed => .ok (line, [])
      | ending => .error (stopAt ending .headers)

/-- Reads lines up to the blank one.  The fuel is at least the number of bytes,
and every line has one. -/
def readBlock : (fuel : Nat) → HeaderBlock → ByteStream → Except Stop (HeaderBlock × List UInt8)
  | 0, _, stream => .error (stopAt stream.ending .headers)
  | fuel + 1, block, stream =>
      match takeLine stream with
      | .error stop => .error stop
      | .ok (line, rest) =>
          match classifyLine line with
          | .blank => .ok (block, rest)
          | line => readBlock fuel (block.add line) ⟨rest, stream.ending⟩

/-! ## Bodies -/

def takeBytes (count : Nat) (part : FramePart) (stream : ByteStream) :
    Except Stop (List UInt8 × List UInt8) :=
  let taken := stream.bytes.take count
  if taken.length = count then .ok (taken, stream.bytes.drop count)
  else .error (stopAt stream.ending part)

def skipBytes (count : Nat) (stream : ByteStream) : Except Stop (List UInt8) :=
  if count = 0 then .ok stream.bytes
  else
    match stream.bytes.drop (count - 1) with
    | _ :: rest => .ok rest
    | [] => .error (stopAt stream.ending .skippedBody)

/-! ## Frames -/

inductive Outcome where
  /-- A frame, and the bytes behind it. -/
  | frame (value : Json) (rest : List UInt8)
  /-- A malformed frame that was passed over, and the bytes behind it. -/
  | malformed (error : FrameError) (rest : List UInt8)
  /-- The stream is lost. -/
  | fatal (error : FrameError)
  /-- The stream ended between two frames. -/
  | finished
  /-- The frame is not there yet. -/
  | blocked
deriving DecidableEq, Repr

def ofStop : Stop → Outcome
  | .error error => .fatal error
  | .blocked => .blocked

/-- Reads what follows a block: the body, or the bytes to pass over. -/
def readBody (block : HeaderBlock) (stream : ByteStream) : Outcome :=
  match block.fault, block.length with
  | some fault, some length =>
      match skipBytes length stream with
      | .ok rest => .malformed (.malformedHeader fault) rest
      | .error stop => ofStop stop
  | some fault, none => .malformed (.malformedHeader fault) stream.bytes
  | none, none => .malformed (.malformedHeader .missingLength) stream.bytes
  | none, some length =>
      if greatestBody < length then
        match skipBytes length stream with
        | .ok rest => .malformed (.oversized length) rest
        | .error stop => ofStop stop
      else
        match takeBytes length .body stream with
        | .error stop => ofStop stop
        | .ok (body, rest) =>
            match Json.parse body with
            | .ok value => .frame value rest
            | .error error => .malformed (.invalidJson error) rest

/-- Reads the next frame, from a block of fewer lines than the fuel. -/
def readWithin (fuel : Nat) (stream : ByteStream) : Outcome :=
  if stream.bytes.isEmpty && stream.ending = .closed then .finished
  else
    match readBlock fuel .empty stream with
    | .error stop => ofStop stop
    | .ok (block, rest) => readBody block ⟨rest, stream.ending⟩

def read (stream : ByteStream) : Outcome :=
  readWithin (stream.bytes.length + 1) stream

/-! ## Whole streams -/

/-- An entry of the record of a stream read to its end. -/
inductive Entry where
  | frame (value : Json)
  | error (error : FrameError)
  | finished
deriving DecidableEq, Repr

/-- Reads frames to the end of a stream or a fatal error.  Each attempt that
goes on uses up a byte at least. -/
def readAllFrom : (fuel : Nat) → ByteStream → List Entry
  | 0, _ => []
  | fuel + 1, stream =>
      match readWithin (fuel + 1) stream with
      | .frame value rest => .frame value :: readAllFrom fuel ⟨rest, stream.ending⟩
      | .malformed error rest => .error error :: readAllFrom fuel ⟨rest, stream.ending⟩
      | .fatal error => [.error error]
      | .finished => [.finished]
      | .blocked => []

/-- Reads frames to the end of a stream or a fatal error. -/
def readAll (stream : ByteStream) : List Entry :=
  readAllFrom (stream.bytes.length + 1) stream

end Frame

end LanguageClient
