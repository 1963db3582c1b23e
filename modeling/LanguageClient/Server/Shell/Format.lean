import LanguageClient.Server.Shell.Arithmetic

/-!
# Formats

The texts that scripts write: escapes, and formats with arguments.
-/

namespace LanguageClient.Shell

/-- What comes of a format: the characters, the status, and whether nothing more is to
be written. -/
structure Formatted where
  output : List Char
  status : Nat
  isOver : Bool

namespace Formatted

/-- Characters that are written without error. -/
def plain (output : List Char) : Formatted := ⟨output, 0, false⟩

def append (first second : Formatted) : Formatted :=
  if first.isOver then first
  else ⟨first.output ++ second.output, max first.status second.status, second.isOver⟩

end Formatted

/-! ## Escapes -/

/-- The character that a letter stands for behind a backslash. -/
def escaped? : Char → Option Char
  | 'a' => some '\x07'
  | 'b' => some '\x08'
  | 'e' => some '\x1b'
  | 'f' => some '\x0c'
  | 'n' => some '\n'
  | 'r' => some '\r'
  | 't' => some '\t'
  | 'v' => some '\x0b'
  | '\\' => some '\\'
  | _ => none

def isOctal (c : Char) : Bool := '0' ≤ c && c ≤ '7'

/-- The character of up to some digits in the base eight, and what stands behind. -/
def readOctal (greatest : Nat) (text : List Char) : Char × List Char :=
  let digits := (text.take greatest).takeWhile isOctal
  (Char.ofNat (((Arithmetic.valueOf 8 digits).getD 0) % 256), text.drop digits.length)

/-- Reads escapes.  In an argument, `\c` ends all output and a zero may stand in front
of three octal digits. -/
def readEscapes (isArgument : Bool) : (fuel : Nat) → List Char → Formatted
  | 0, _ => .plain []
  | _ + 1, [] => .plain []
  | fuel + 1, '\\' :: c :: rest =>
      if c = 'c' && isArgument then ⟨[], 0, true⟩
      else
        match escaped? c with
        | some value => (Formatted.plain [value]).append (readEscapes isArgument fuel rest)
        | none =>
            if isOctal c then
              let (value, rest) :=
                if c = '0' && isArgument then readOctal 3 rest else readOctal 3 (c :: rest)
              (Formatted.plain [value]).append (readEscapes isArgument fuel rest)
            else (Formatted.plain ['\\', c]).append (readEscapes isArgument fuel rest)
  | fuel + 1, c :: rest => (Formatted.plain [c]).append (readEscapes isArgument fuel rest)

def unescape (isArgument : Bool) (text : List Char) : Formatted :=
  readEscapes isArgument (text.length + 1) text

def echoed (arguments : List (List Char)) : List Char :=
  let (arguments, hasEnd) :=
    match arguments with
    | ['-', 'n'] :: rest => (rest, false)
    | arguments => (arguments, true)
  let text := unescape true ([' '].intercalate arguments)
  if text.isOver || !hasEnd then text.output else text.output ++ ['\n']

/-! ## Directives -/

inductive Directive where
  | text (characters : List Char)
  | percent
  /-- A width or a precision may be an argument; it is marked by `none`. -/
  | convert (flags : List Char) (width precision : Option (Option Nat)) (conversion : Char)
  /-- What is no part of a format. -/
  | malformed
deriving DecidableEq, Repr

def readAmount (text : List Char) : Option (Option Nat) × List Char :=
  match text with
  | '*' :: rest => (some none, rest)
  | text =>
      let (digits, rest) := text.span Char.isDigit
      (if digits.isEmpty then none else some ((String.ofList digits).toNat?), rest)

def conversions : List Char := ['d', 'i', 'u', 'x', 'X', 'o', 'c', 's', 'b']

def readDirective (text : List Char) : Directive × List Char :=
  match text with
  | '%' :: rest => (.percent, rest)
  | text =>
      let (flags, rest) := text.span fun c => ['-', '+', ' ', '#', '0'].contains c
      let (width, rest) := readAmount rest
      let (precision, rest) :=
        match rest with
        | '.' :: rest =>
            let (precision, rest) := readAmount rest
            (some (precision.getD (some 0)), rest)
        | rest => (none, rest)
      match rest with
      | c :: rest =>
          if conversions.contains c then (.convert flags width precision c, rest)
          else (.malformed, rest)
      | [] => (.malformed, [])

def readDirectives : (fuel : Nat) → List Char → List Directive
  | 0, _ => []
  | _ + 1, [] => []
  | fuel + 1, '%' :: rest =>
      let (directive, rest) := readDirective rest
      directive :: readDirectives fuel rest
  | fuel + 1, text =>
      let (characters, rest) := text.span (· ≠ '%')
      .text (unescape false characters).output :: readDirectives fuel rest

/-! ## Conversions -/

def numberOf (argument : List Char) : Int × Bool :=
  match argument with
  | [] => (0, true)
  | '\'' :: c :: _ | '"' :: c :: _ => (c.toNat, true)
  | argument =>
      match Arithmetic.signed? argument with
      | some value => (value, true)
      | none =>
          let lengths := (List.range argument.length).reverse
          ((lengths.findSome? fun length => Arithmetic.signed? (argument.take length)).getD 0, false)

def fill (isLeft : Bool) (filling : Char) (width : Nat) (characters : List Char) : List Char :=
  let missing := List.replicate (width - characters.length) filling
  if isLeft then characters ++ missing else missing ++ characters

def signAndDigits (flags : List Char) (conversion : Char) (value : Int) :
    List Char × List Char :=
  let magnitude := if value < 0 then (value + Int.pow 2 64).toNat else value.toNat
  match conversion with
  | 'u' => ([], Nat.toDigits 10 magnitude)
  | 'x' => (if flags.contains '#' && value ≠ 0 then ['0', 'x'] else [], Nat.toDigits 16 magnitude)
  | 'X' =>
      (if flags.contains '#' && value ≠ 0 then ['0', 'X'] else [],
        (Nat.toDigits 16 magnitude).map Char.toUpper)
  | 'o' => (if flags.contains '#' && value ≠ 0 then ['0'] else [], Nat.toDigits 8 magnitude)
  | _ =>
      let sign :=
        if value < 0 then ['-']
        else if flags.contains '+' then ['+']
        else if flags.contains ' ' then [' ']
        else []
      (sign, Nat.toDigits 10 value.natAbs)

def formatNumber (flags : List Char) (width : Nat) (precision : Option Nat) (conversion : Char)
    (value : Int) : List Char :=
  let (sign, digits) := signAndDigits flags conversion value
  let digits := fill false '0' (precision.getD 1) digits
  if flags.contains '0' && !flags.contains '-' && precision.isNone then
    sign ++ fill false '0' (width - sign.length) digits
  else fill (flags.contains '-') ' ' width (sign ++ digits)

/-- A width or a precision, and the arguments behind it. -/
def takeAmount (amount : Option (Option Nat)) (arguments : List (List Char)) :
    Option Nat × List (List Char) :=
  match amount with
  | some none => (some (numberOf (arguments.head?.getD [])).1.toNat, arguments.drop 1)
  | some (some value) => (some value, arguments)
  | none => (none, arguments)

def convert (flags : List Char) (width precision : Option (Option Nat)) (conversion : Char)
    (arguments : List (List Char)) : Formatted × List (List Char) :=
  let (width, arguments) := takeAmount width arguments
  let (precision, arguments) := takeAmount precision arguments
  let width := width.getD 0
  let isLeft := flags.contains '-'
  let argument := arguments.head?.getD []
  let formatted :=
    match conversion with
    | 's' => .plain (fill isLeft ' ' width (argument.take (precision.getD argument.length)))
    | 'b' =>
        let text := unescape true argument
        { text with
          output := fill isLeft ' ' width (text.output.take (precision.getD text.output.length)) }
    | 'c' => .plain (fill isLeft ' ' width [argument.head?.getD '\x00'])
    | conversion =>
        let (value, isWhole) := numberOf argument
        ⟨formatNumber flags width precision conversion value, if isWhole then 0 else 1, false⟩
  (formatted, arguments.drop 1)

def formatOnce : List Directive → List (List Char) → Formatted × List (List Char)
  | [], arguments => (.plain [], arguments)
  | .text characters :: rest, arguments =>
      let (formatted, arguments) := formatOnce rest arguments
      ((Formatted.plain characters).append formatted, arguments)
  | .percent :: rest, arguments =>
      let (formatted, arguments) := formatOnce rest arguments
      ((Formatted.plain ['%']).append formatted, arguments)
  | .malformed :: _, arguments => (⟨[], 2, true⟩, arguments)
  | .convert flags width precision conversion :: rest, arguments =>
      let (first, arguments) := convert flags width precision conversion arguments
      let (others, arguments) := formatOnce rest arguments
      (first.append others, arguments)

/-- Goes through a format as long as it uses up arguments. -/
def formatAll (directives : List Directive) : (fuel : Nat) → List (List Char) → Formatted
  | 0, _ => .plain []
  | fuel + 1, arguments =>
      let (formatted, rest) := formatOnce directives arguments
      if rest.isEmpty || rest.length = arguments.length then formatted
      else formatted.append (formatAll directives fuel rest)

/-- The output of `printf`, and its status. -/
def printed (format : List Char) (arguments : List (List Char)) : List Char × Nat :=
  let directives := readDirectives (format.length + 1) format
  let formatted := formatAll directives (arguments.length + 1) arguments
  (formatted.output, formatted.status)

end LanguageClient.Shell
