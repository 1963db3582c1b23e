import LanguageClient.ExitStatus

/-!
# Words of a shell

A word is a row of pieces: text, and what is put in the place of parameters,
expressions and commands.  Scripts are read byte by byte, so a character of a script
is a byte.
-/

namespace LanguageClient.Shell

def charactersOf (bytes : List UInt8) : List Char :=
  bytes.map fun byte => Char.ofNat byte.toNat

def bytesOf (characters : List Char) : List UInt8 :=
  characters.map fun c => c.toNat.toUInt8

/-- The bytes of a text that holds nothing but characters below 128, as characters. -/
def charactersOfText (text : String) : List Char := text.toList

inductive Modifier where
  | plain
  | length
  /-- With the mark `-` or `=` a word stands for a missing value, with `?` it is an
  error, with `+` it stands for a value that is there.  An empty value may count as
  missing. -/
  | instead (mark : Char) (mindsEmpty : Bool) (word : List Char)
  /-- Takes away what a pattern matches at one of the ends. -/
  | trim (isAtEnd isLongest : Bool) (pattern : List Char)
deriving DecidableEq, Repr

inductive Piece where
  | text (characters : List Char) (isQuoted : Bool)
  | parameter (name : List Char) (modifier : Modifier) (isQuoted : Bool)
  | arithmetic (expression : List Char) (isQuoted : Bool)
  /-- The output of a script. -/
  | output (script : List Char) (isQuoted : Bool)
  /-- Output that a script has given. -/
  | given (characters : List Char) (isQuoted : Bool)
  /-- Braces around what is no parameter. -/
  | malformed
deriving DecidableEq, Repr

abbrev Word := List Piece

/-! ## Characters -/

def isBlank (c : Char) : Bool := c = ' ' || c = '\t'

def isNameStart (c : Char) : Bool := c.isAlpha || c = '_'

def isNameCharacter (c : Char) : Bool := c.isAlphanum || c = '_'

def isName : List Char → Bool
  | [] => false
  | c :: rest => isNameStart c && rest.all isNameCharacter

def isSpecial (c : Char) : Bool := ['?', '#', '$', '!', '@', '*', '-'].contains c

def endsWord (c : Char) : Bool :=
  [' ', '\t', '\n', ';', '&', '|', '<', '>', '(', ')'].contains c

/-! ## Brackets -/

/-- Splits in front of the bracket that ends what an earlier one has begun.  What
stands between marks of quotation or behind a backslash is no bracket. -/
def splitAtClosing (opening closing : Char) (marks : List Char) :
    (depth : Nat) → (mark : Option Char) → List Char → Option (List Char × List Char)
  | _, _, [] => none
  | depth, mark, '\\' :: c :: rest =>
      if mark = some '\'' then
        (splitAtClosing opening closing marks depth (if c = '\'' then none else mark) rest).map
          fun (inside, behind) => ('\\' :: c :: inside, behind)
      else
        (splitAtClosing opening closing marks depth mark rest).map
          fun (inside, behind) => ('\\' :: c :: inside, behind)
  | depth, some mark, c :: rest =>
      (splitAtClosing opening closing marks depth (if c = mark then none else some mark) rest).map
        fun (inside, behind) => (c :: inside, behind)
  | depth, none, c :: rest =>
      if c = closing && depth = 0 then some ([], rest)
      else
        let depth := if c = opening then depth + 1 else if c = closing then depth - 1 else depth
        let mark := if marks.contains c then some c else none
        (splitAtClosing opening closing marks depth mark rest).map
          fun (inside, behind) => (c :: inside, behind)

/-- Splits in front of a back quote; behind a backslash it is a character as any
other. -/
def splitAtBackQuote : List Char → Option (List Char × List Char)
  | [] => none
  | '\\' :: c :: rest =>
      let kept := if c = '\x60' || c = '\\' || c = '$' then [c] else ['\\', c]
      (splitAtBackQuote rest).map fun (inside, behind) => (kept ++ inside, behind)
  | c :: rest =>
      if c = '\x60' then some ([], rest)
      else (splitAtBackQuote rest).map fun (inside, behind) => (c :: inside, behind)

/-! ## Pieces -/

/-- The modifier behind the name of a parameter. -/
def modifier? : List Char → Option Modifier
  | [] => some .plain
  | ':' :: mark :: word =>
      if ['-', '=', '?', '+'].contains mark then some (.instead mark true word) else none
  | '%' :: '%' :: pattern => some (.trim true true pattern)
  | '%' :: pattern => some (.trim true false pattern)
  | '#' :: '#' :: pattern => some (.trim false true pattern)
  | '#' :: pattern => some (.trim false false pattern)
  | mark :: word =>
      if ['-', '=', '?', '+'].contains mark then some (.instead mark false word) else none

def splitParameter (text : List Char) : List Char × List Char :=
  match text with
  | [] => ([], [])
  | c :: rest =>
      if isNameStart c then text.span isNameCharacter
      else if c.isDigit then text.span Char.isDigit
      else if isSpecial c then ([c], rest)
      else ([], text)

def ofBraces (inside : List Char) (isQuoted : Bool) : Piece :=
  match inside with
  | '#' :: c :: rest =>
      let (name, behind) := splitParameter (c :: rest)
      if !name.isEmpty && behind.isEmpty then .parameter name .length isQuoted
      else
        match modifier? (c :: rest) with
        | some modifier => .parameter ['#'] modifier isQuoted
        | none => .malformed
  | inside =>
      let (name, behind) := splitParameter inside
      if name.isEmpty then .malformed
      else
        match modifier? behind with
        | some modifier => .parameter name modifier isQuoted
        | none => .malformed

/-- The piece behind a dollar sign, and the rest; `none` if it does not end. -/
def readDollar (isQuoted : Bool) (text : List Char) : Option (Piece × List Char) :=
  let marks := if isQuoted then ['"'] else ['"', '\'']
  match text with
  | '(' :: rest => do
      let (inside, behind) ← splitAtClosing '(' ')' ['"', '\''] 0 none rest
      if inside.head? = some '(' && inside.getLast? = some ')' then
        return (.arithmetic (inside.drop 1).dropLast isQuoted, behind)
      return (.output inside isQuoted, behind)
  | '{' :: rest => do
      let (inside, behind) ← splitAtClosing '{' '}' marks 0 none rest
      return (ofBraces inside isQuoted, behind)
  | text =>
      let (name, behind) := splitParameter text
      if name.isEmpty then some (.text ['$'] isQuoted, text)
      else if name.all Char.isDigit then
        some (.parameter (name.take 1) .plain isQuoted, text.drop 1)
      else some (.parameter name .plain isQuoted, behind)

def addCharacter (c : Char) (isQuoted : Bool) : Word → Word
  | .text characters quoted :: rest =>
      if quoted = isQuoted then .text (c :: characters) quoted :: rest
      else .text [c] isQuoted :: .text characters quoted :: rest
  | word => .text [c] isQuoted :: word

/-- Reads up to the second of two double quotes, or, in a text that has none, to the
end. -/
def readQuoted (isText : Bool) : (fuel : Nat) → List Char → Option (Word × List Char)
  | 0, _ => none
  | fuel + 1, text =>
      match text with
      | [] => if isText then some ([], []) else none
      | '\\' :: '\n' :: rest => readQuoted isText fuel rest
      | '\\' :: c :: rest =>
          if ['$', '\x60', '\\'].contains c || (c = '"' && !isText) then
            (readQuoted isText fuel rest).map fun (word, rest) => (addCharacter c true word, rest)
          else
            (readQuoted isText fuel (c :: rest)).map
              fun (word, rest) => (addCharacter '\\' true word, rest)
      | '$' :: rest => do
          let (piece, rest) ← readDollar true rest
          let (word, rest) ← readQuoted isText fuel rest
          return (piece :: word, rest)
      | c :: rest =>
          if c = '\x60' then do
            let (script, rest) ← splitAtBackQuote rest
            let (word, rest) ← readQuoted isText fuel rest
            return (.output script true :: word, rest)
          else if c = '"' && !isText then some ([], rest)
          else (readQuoted isText fuel rest).map fun (word, rest) => (addCharacter c true word, rest)

/-- Reads a word: up to a character that ends it, or all of a text. -/
def readWord (isText : Bool) : (fuel : Nat) → List Char → Option (Word × List Char)
  | 0, _ => none
  | fuel + 1, text =>
      match text with
      | [] => some ([], [])
      | '\\' :: '\n' :: rest => readWord isText fuel rest
      | '\\' :: c :: rest =>
          (readWord isText fuel rest).map fun (word, rest) => (addCharacter c true word, rest)
      | '\'' :: rest =>
          let (inside, behind) := rest.span (· != '\'')
          match behind with
          | [] => none
          | _ :: behind =>
              (readWord isText fuel behind).map
                fun (word, rest) => (.text inside true :: word, rest)
      | '"' :: rest => do
          let (inside, rest) ← readQuoted false fuel rest
          let (word, rest) ← readWord isText fuel rest
          return ((if inside.isEmpty then [.text [] true] else inside) ++ word, rest)
      | '$' :: rest => do
          let (piece, rest) ← readDollar false rest
          let (word, rest) ← readWord isText fuel rest
          return (piece :: word, rest)
      | c :: rest =>
          if c = '\x60' then do
            let (script, rest) ← splitAtBackQuote rest
            let (word, rest) ← readWord isText fuel rest
            return (.output script false :: word, rest)
          else if endsWord c && !isText then some ([], text)
          else
            (readWord isText fuel rest).map fun (word, rest) => (addCharacter c false word, rest)

namespace Word

/-- The word of a whole text, outside quotes or between them. -/
def ofText? (isQuoted : Bool) (text : List Char) : Option Word :=
  ((if isQuoted then readQuoted else readWord) true (text.length + 1) text).map Prod.fst

def quoted (characters : List Char) : Word := [.text characters true]

/-- The characters of a word that holds nothing but text outside quotes. -/
def plain? : Word → Option (List Char)
  | [.text characters false] => some characters
  | _ => none

def assignment? : Word → Option (List Char × Word)
  | .text characters false :: rest =>
      let (name, behind) := characters.span (· != '=')
      match behind with
      | '=' :: value =>
          if isName name then
            some (name, if value.isEmpty then rest else .text value false :: rest)
          else none
      | _ => none
  | _ => none

end Word

/-!
## Words for signals

How scripts name signals, and what they ask to be sent.
-/

/-- The least and the greatest of the signals without a meaning of their own. -/
def realTimeSignals : Nat × Nat := (34, 64)

/-- The signal that a name in upper case counts up from the least, or down from the
greatest, of those without a meaning. -/
def realTimeSignal? (name : List Char) : Option Signal :=
  let (least, greatest) := realTimeSignals
  let distance := fun (digits : List Char) => (String.ofList digits).toNat?
  match name with
  | ['R', 'T', 'M', 'I', 'N'] => some ⟨least⟩
  | ['R', 'T', 'M', 'A', 'X'] => some ⟨greatest⟩
  | 'R' :: 'T' :: 'M' :: 'I' :: 'N' :: '+' :: digits =>
      ((distance digits).filter fun n => 1 ≤ n && n ≤ 15).map fun n => ⟨least + n⟩
  | 'R' :: 'T' :: 'M' :: 'A' :: 'X' :: '-' :: digits =>
      ((distance digits).filter fun n => 1 ≤ n && n ≤ 14).map fun n => ⟨greatest - n⟩
  | _ => none

/-- The signal that a word names, by its number or by its name in upper or lower
case; the fault of a stack has no name here. -/
def signalOf? (word : List Char) : Option Signal :=
  let name := word.map Char.toUpper
  if !word.isEmpty && word.all Char.isDigit then
    ((String.ofList word).toNat?.filter (· ≤ Signal.greatest)).map .mk
  else if name = charactersOfText "STKFLT" then none
  else (Signal.ofName? (String.ofList name)).or (realTimeSignal? name)

/-- The signal of an option: it stands behind the hyphen, or behind the letter of an
option of its own. -/
def signalOfOption? (option : List Char) : Option Signal :=
  match signalOf? (option.drop 1), option with
  | some signal, _ => some signal
  | none, '-' :: 's' :: word => signalOf? word
  | none, _ => none

/-- The signal to be sent and its receivers; `none` if the arguments are none. -/
def signalAndReceivers? (arguments : List (List Char)) :
    Option (Signal × List (List Char)) := do
  let (signal, receivers) ←
    match arguments with
    | ['-', 's'] :: word :: rest => (signalOf? word).map (·, rest)
    | ['-', '-'] :: rest => some (Signal.terminate, rest)
    | ('-' :: option) :: rest => (signalOfOption? ('-' :: option)).map (·, rest)
    | rest => some (Signal.terminate, rest)
  if receivers.isEmpty then none else some (signal, receivers)

/-- Whether nothing can be done at a signal but what it does by itself. -/
def isFinal (signal : Signal) : Bool := [9, 19].contains signal.number

/-- The number that a word has in the list of actions at signals, in which zero is the
end of the script. -/
def trapNumber? (word : List Char) : Option Nat :=
  if word.map Char.toUpper = charactersOfText "EXIT" then some 0
  else (signalOf? word).map Signal.number

end LanguageClient.Shell
