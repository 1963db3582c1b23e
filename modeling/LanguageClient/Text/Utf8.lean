/-!
# UTF-8

The reading and writing of UTF-8 as lists of bytes.  `decode?` accepts exactly
the well-formed sequences; `decodeLossy` puts U+FFFD in the place of every
maximal ill-formed piece.
-/

namespace LanguageClient.Text.Utf8

def encode (text : String) : List UInt8 :=
  text.toList.flatMap String.utf8EncodeChar

/-- A continuation byte lies in `80..BF`. -/
def isContinuation (byte : UInt8) : Bool :=
  0x80 ≤ byte && byte ≤ 0xBF

/-- The number of bytes of a sequence that starts with the given byte; zero for
a byte that starts none. -/
def width (lead : UInt8) : Nat :=
  if lead < 0x80 then 1
  else if lead < 0xC2 then 0
  else if lead < 0xE0 then 2
  else if lead < 0xF0 then 3
  else if lead < 0xF5 then 4
  else 0

/-- The second byte of a sequence of three or four: overlong forms, surrogates
and values above U+10FFFF are shut out here. -/
def acceptsSecond (lead second : UInt8) : Bool :=
  if lead = 0xE0 then 0xA0 ≤ second && second ≤ 0xBF
  else if lead = 0xED then 0x80 ≤ second && second ≤ 0x9F
  else if lead = 0xF0 then 0x90 ≤ second && second ≤ 0xBF
  else if lead = 0xF4 then 0x80 ≤ second && second ≤ 0x8F
  else isContinuation second

private def payload (byte : UInt8) : Nat :=
  byte.toNat % 64

/-- One step of decoding: a character, or the length of the maximal ill-formed
piece in front, with the bytes behind it. -/
inductive Step where
  | character (value : Char) (rest : List UInt8)
  | illFormed (rest : List UInt8)
deriving DecidableEq, Repr

/-- Decodes the front of a nonempty byte list. -/
def step (lead : UInt8) (rest : List UInt8) : Step :=
  match width lead, rest with
  | 1, _ => .character (Char.ofNat lead.toNat) rest
  | 2, second :: tail =>
      if isContinuation second then
        .character (Char.ofNat (lead.toNat % 32 * 64 + payload second)) tail
      else .illFormed rest
  | 3, second :: tail =>
      if acceptsSecond lead second then
        match tail with
        | third :: tail' =>
            if isContinuation third then
              .character
                (Char.ofNat ((lead.toNat % 16 * 64 + payload second) * 64 + payload third))
                tail'
            else .illFormed tail
        | [] => .illFormed tail
      else .illFormed rest
  | 4, second :: tail =>
      if acceptsSecond lead second then
        match tail with
        | third :: tail' =>
            if isContinuation third then
              match tail' with
              | fourth :: tail'' =>
                  if isContinuation fourth then
                    .character
                      (Char.ofNat
                        (((lead.toNat % 8 * 64 + payload second) * 64 + payload third) * 64
                          + payload fourth))
                      tail''
                  else .illFormed tail'
              | [] => .illFormed tail'
            else .illFormed tail
        | [] => .illFormed tail
      else .illFormed rest
  | _, _ => .illFormed rest

def Step.rest : Step → List UInt8
  | .character _ rest => rest
  | .illFormed rest => rest

theorem step_rest_length_le (lead : UInt8) (bytes : List UInt8) :
    (step lead bytes).rest.length ≤ bytes.length := by
  unfold step
  split <;> (repeat' split) <;> simp [Step.rest] <;> omega

/-- Decodes well-formed bytes, adding to the characters read before them, which
are kept in reverse. -/
def decodeFrom? (read : List Char) : List UInt8 → Option (List Char)
  | [] => some read.reverse
  | lead :: rest =>
      match bound : step lead rest with
      | .character value rest' =>
          have : rest'.length ≤ rest.length := by
            have := step_rest_length_le lead rest
            rw [bound] at this
            exact this
          decodeFrom? (value :: read) rest'
      | .illFormed _ => none
termination_by bytes => bytes.length

def decode? (bytes : List UInt8) : Option String :=
  (decodeFrom? [] bytes).map String.ofList

/-- The number of bytes in front of the first ill-formed piece, with those that
were passed before. -/
def wellFormedLengthFrom (passed : Nat) : List UInt8 → Nat
  | [] => passed
  | lead :: rest =>
      match bound : step lead rest with
      | .character value rest' =>
          have : rest'.length ≤ rest.length := by
            have := step_rest_length_le lead rest
            rw [bound] at this
            exact this
          wellFormedLengthFrom (passed + value.utf8Size) rest'
      | .illFormed _ => passed
termination_by bytes => bytes.length

/-- The number of bytes in front of the first ill-formed piece. -/
def wellFormedLength (bytes : List UInt8) : Nat :=
  wellFormedLengthFrom 0 bytes

/-- Decodes any bytes, with U+FFFD for each maximal ill-formed piece. -/
def decodeLossyFrom (read : List Char) : List UInt8 → List Char
  | [] => read.reverse
  | lead :: rest =>
      match bound : step lead rest with
      | .character value rest' =>
          have : rest'.length ≤ rest.length := by
            have := step_rest_length_le lead rest
            rw [bound] at this
            exact this
          decodeLossyFrom (value :: read) rest'
      | .illFormed rest' =>
          have : rest'.length ≤ rest.length := by
            have := step_rest_length_le lead rest
            rw [bound] at this
            exact this
          decodeLossyFrom ('\ufffd' :: read) rest'
termination_by bytes => bytes.length

def decodeLossy (bytes : List UInt8) : String :=
  String.ofList (decodeLossyFrom [] bytes)

end LanguageClient.Text.Utf8
