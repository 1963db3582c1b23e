import LanguageClient.Path

/-!
# The command line of the host

Options stand before `--` in any order, each with its value behind it or attached
by `=`; the arguments of the server stand behind.  The arguments are read from left
to right, and a value is only looked at when the next option begins or the options
end.
-/

namespace LanguageClient

structure CommandLine where
  workspace : Path
  /-- The command of the server. -/
  lsp : String
  config : Option Path
  logFile : Option Path
  serverArguments : List String
deriving DecidableEq, Repr

namespace CommandLine

/-- Why a command line does not start the host. -/
inductive Refusal where
  | help
  | version
  | unknownArgument
  /-- An option was given twice. -/
  | repeated
  | missingArgument
  | invalidValue
  | notUtf8
  /-- A value was attached to an option that has none. -/
  | unneededValue
deriving DecidableEq, Repr

def Refusal.message : Refusal → String
  | .help => "the help was asked for"
  | .version => "the version was asked for"
  | .unknownArgument => "unexpected argument found"
  | .repeated => "an option cannot be used multiple times"
  | .missingArgument => "required arguments were not provided"
  | .invalidValue => "a value is required for an option but none was supplied"
  | .notUtf8 => "invalid UTF-8 was detected in an argument"
  | .unneededValue => "unexpected value for an option"

/-! ## Words -/

inductive Word where
  | ends
  | long (name : List UInt8) (attached : Option (List UInt8))
  | short (letters : List UInt8)
  | plain (bytes : List UInt8)
deriving DecidableEq, Repr

/-- The sign between a name and its value. -/
def equals : UInt8 := 0x3D

/-- The word that an argument is.  A hyphen alone is a plain one. -/
def Word.ofArgument (bytes : List UInt8) : Word :=
  match bytes with
  | 0x2D :: 0x2D :: rest =>
      let (name, behind) := rest.span (· != equals)
      match rest, behind with
      | [], _ => .ends
      | _, [] => .long name none
      | _, _ :: value => .long name (some value)
  | 0x2D :: first :: rest => .short (first :: rest)
  | bytes => .plain bytes

/-! ## Options -/

inductive OptionName where
  | workspace
  | lsp
  | config
  | logFile
deriving DecidableEq, Repr

/-- All that stands for something behind one or two hyphens. -/
inductive Flag where
  | valued (name : OptionName)
  | help
  | version
deriving DecidableEq, Repr

def Flag.longNames : List (String × Flag) :=
  [("workspace", .valued .workspace), ("lsp", .valued .lsp), ("config", .valued .config),
    ("log-file", .valued .logFile), ("help", .help), ("version", .version)]

def Flag.ofLong? (name : List UInt8) : Option Flag :=
  (longNames.find? fun entry => Text.Utf8.encode entry.1 = name).map Prod.snd

/-- What a letter behind one hyphen stands for. -/
def Flag.ofLetter? (letter : UInt8) : Option Flag :=
  if letter = 0x68 then some .help else if letter = 0x56 then some .version else none

structure Values where
  workspace : Option Path
  lsp : Option String
  config : Option Path
  logFile : Option Path
deriving DecidableEq, Repr

namespace Values

def none : Values := ⟨.none, .none, .none, .none⟩

def has (values : Values) : OptionName → Bool
  | .workspace => values.workspace.isSome
  | .lsp => values.lsp.isSome
  | .config => values.config.isSome
  | .logFile => values.logFile.isSome

def path (bytes : List UInt8) : Except Refusal Path :=
  if bytes.isEmpty then .error .invalidValue else .ok ⟨bytes⟩

def text (bytes : List UInt8) : Except Refusal String :=
  match Text.Utf8.decode? bytes with
  | some text => .ok text
  | .none => .error .notUtf8

def set (values : Values) (name : OptionName) (bytes : List UInt8) : Except Refusal Values :=
  if values.has name then .error .repeated
  else
    match name with
    | .workspace => (path bytes).map fun value => { values with workspace := some value }
    | .lsp => (text bytes).map fun value => { values with lsp := some value }
    | .config => (path bytes).map fun value => { values with config := some value }
    | .logFile => (path bytes).map fun value => { values with logFile := some value }

end Values

/-! ## Reading -/

/-- The options read so far.  The last one may have to wait for its value, or its
value to be looked at. -/
structure Reading where
  values : Values
  pending : Option (OptionName × Option (List UInt8))
deriving DecidableEq, Repr

namespace Reading

def start : Reading := ⟨.none, none⟩

def resolve (reading : Reading) : Except Refusal Values :=
  match reading.pending with
  | none => .ok reading.values
  | some (_, none) => .error .invalidValue
  | some (name, some bytes) => reading.values.set name bytes

def long (reading : Reading) (name : List UInt8) (attached : Option (List UInt8)) :
    Except Refusal Reading :=
  match Flag.ofLong? name, attached with
  | none, _ => .error .unknownArgument
  | some (.valued option), none => do
      return ⟨← reading.resolve, some (option, none)⟩
  | some (.valued option), some bytes => do
      return ⟨← (← reading.resolve).set option bytes, none⟩
  | some .help, none => do
      let _ ← reading.resolve
      .error .help
  | some .version, none => do
      let _ ← reading.resolve
      .error .version
  | some _, some _ => .error .unneededValue

/-- Reads letters behind one hyphen: the first one decides. -/
def short (reading : Reading) (letters : List UInt8) : Refusal :=
  match letters.head?.bind Flag.ofLetter?, reading.resolve with
  | some .help, .ok _ => .help
  | some .version, .ok _ => .version
  | some .help, .error refusal | some .version, .error refusal => refusal
  | _, _ => .unknownArgument

/-- Reads a plain argument, which has to be the value of the last option. -/
def plain (reading : Reading) (bytes : List UInt8) : Except Refusal Reading :=
  match reading.pending with
  | some (name, none) => .ok { reading with pending := some (name, some bytes) }
  | _ => .error .unknownArgument

def finish (reading : Reading) (arguments : List (List UInt8)) : Except Refusal CommandLine := do
  let values ← reading.resolve
  let serverArguments ← arguments.mapM Values.text
  match values.workspace, values.lsp with
  | some workspace, some lsp =>
      return { workspace, lsp, config := values.config, logFile := values.logFile, serverArguments }
  | _, _ => .error .missingArgument

def read (reading : Reading) : List (List UInt8) → Except Refusal CommandLine
  | [] => reading.finish []
  | argument :: rest =>
      match Word.ofArgument argument with
      | .ends => reading.finish rest
      | .long name attached => do read (← reading.long name attached) rest
      | .short letters => .error (reading.short letters)
      | .plain bytes => do read (← reading.plain bytes) rest

end Reading

/-- Reads the arguments behind the name of the program. -/
def parse (arguments : List (List UInt8)) : Except Refusal CommandLine :=
  Reading.start.read arguments

end CommandLine

end LanguageClient
