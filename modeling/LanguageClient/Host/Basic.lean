import LanguageClient.Host.Configuration
import LanguageClient.Host.ParentWatch
import LanguageClient.Server.Launch
import LanguageClient.Session.Dialogue

/-!
# The host

The host starts one server for a workspace and keeps it until it is told to stop.
Here is all that it does up to the point where the server is ready, and how it
fails on the way.
-/

namespace LanguageClient.Host

/-- A failure of the host: what it was doing, and the causes, the nearest first. -/
structure Failure where
  context : String
  causes : List String
deriving DecidableEq, Repr

inductive Outcome where
  | help
  | version
  /-- The command line cannot be used. -/
  | misused (refusal : CommandLine.Refusal)
  | failed (failure : Failure)
  /-- The server is ready, and the host waits for a trigger. -/
  | serving

/-! ## Texts -/

def programName : String := "langbridge"

def versionText : String := s!"{programName} 0.1.0\n"

structure HelpEntry where
  typed : String
  meaning : String
deriving DecidableEq, Repr

def optionEntries : List HelpEntry :=
  [⟨"    --workspace <WORKSPACE>", "Workspace directory the language server operates on"⟩,
    ⟨"    --lsp <LSP>", "Language server executable (name on PATH or a path)"⟩,
    ⟨"    --config <CONFIG>",
      "JSON file of initialization options, keyed by server executable name"⟩,
    ⟨"    --log-file <LOG_FILE>", "Append logs to this file instead of writing them to stderr"⟩,
    ⟨"-h, --help", "Print help"⟩,
    ⟨"-V, --version", "Print version"⟩]

def argumentEntries : List HelpEntry :=
  [⟨"[LSP_ARGS]...", "Arguments for the language server, given after `--`"⟩]

def helpLines (entries : List HelpEntry) : String :=
  let width := (entries.map (·.typed.length)).foldl max 0
  String.join (entries.map fun entry =>
    let gap := String.ofList (List.replicate (width - entry.typed.length) ' ')
    s!"  {entry.typed}{gap}  {entry.meaning}\n")

def usageText : String :=
  s!"Usage: {programName} [OPTIONS] --workspace <WORKSPACE> --lsp <LSP> [-- <LSP_ARGS>...]\n"

def helpText : String :=
  "Drive a language server over stdio on behalf of tool callers\n\n" ++ usageText ++
  "\nArguments:\n" ++ helpLines argumentEntries ++ "\nOptions:\n" ++ helpLines optionEntries

/-- A cause; its lines behind the first are set in as far as the first is. -/
def causeText (leader margin cause : String) : String :=
  leader ++ (String.ofList ['\n'] ++ margin).intercalate (cause.splitOn "\n")

def numberedCauses (number : Nat) : List String → String
  | [] => ""
  | cause :: rest =>
      let digits := toString number
      let leader := String.ofList (List.replicate (5 - digits.length) ' ') ++ digits ++ ": "
      "\n" ++ causeText leader "       " cause ++ numberedCauses (number + 1) rest

/-- What a failure prints.  Several causes are numbered. -/
def Failure.text (failure : Failure) : String :=
  let causes :=
    match failure.causes with
    | [] => ""
    | [cause] => "\n\nCaused by:\n" ++ causeText "    " "    " cause
    | causes => "\n\nCaused by:" ++ numberedCauses 0 causes
  s!"Error: {failure.context}{causes}\n"

def Outcome.output : Outcome → String
  | .help => helpText
  | .version => versionText
  | _ => ""

def refusalText (refusal : CommandLine.Refusal) : String :=
  s!"error: {refusal.message}\n\n{usageText}\nFor more information, try '--help'.\n"

def Outcome.errors : Outcome → String
  | .failed failure => failure.text
  | .misused refusal => refusalText refusal
  | _ => ""

def Outcome.code : Outcome → Nat
  | .help | .version | .serving => 0
  | .failed _ => 1
  | .misused _ => 2

/-! ## Starting -/

/-- The limit for the server to come to rest, in milliseconds. -/
def settleTime : Nat := 1000

def Failure.ofClient (context : String) (error : ClientError) : Failure :=
  ⟨context, error.message :: error.causes⟩

/-- Opens the file of the log for appending; one that is not there comes to be. -/
def openLog (surroundings : Surroundings) (path : Path) : Except Failure Surroundings :=
  match surroundings.files.openForAppending surroundings.directory path with
  | .ok files => .ok { surroundings with files }
  | .error error => .error ⟨s!"failed to open log file {path.display}", [error.message]⟩

def perform (dialogue : Dialogue) (command : Command) (context : String) :
    Except Failure Dialogue :=
  match dialogue.perform command with
  | (.result (.error error), _) => .error (.ofClient context error)
  | (_, dialogue) => .ok dialogue

def serve (surroundings : Surroundings) (configuration : Configuration) (processId : ProcessId) :
    Except Failure Dialogue := do
  let schedule ← (launch surroundings configuration.command configuration.arguments
    { processId }).mapError (.ofClient "failed to start language server")
  let opened ← perform ⟨schedule⟩ (.openSession configuration.workspace configuration.options)
    "initialize failed"
  perform opened (.waitReady settleTime) "language server did not become ready"

/-- The surroundings in which the server is started: the host works in its
workspace. -/
def enterWorkspace (surroundings : Surroundings) (workspace : Path) : Surroundings :=
  { surroundings with directory := workspace.pieces.filter (· ≠ []) }

/-- Runs the host up to where the server is ready. -/
def start (surroundings : Surroundings) (line : CommandLine) (processId : ProcessId) :
    Except Failure Dialogue := do
  let surroundings ←
    match line.logFile with
    | some path => openLog surroundings path
    | none => pure surroundings
  let configuration ← (Configuration.ofCommandLine surroundings line).mapError fun error =>
    ⟨"invalid configuration", error.message :: error.causes⟩
  serve (enterWorkspace surroundings configuration.workspace) configuration processId

def run (surroundings : Surroundings) (arguments : List (List UInt8)) (processId : ProcessId) :
    Outcome :=
  match CommandLine.parse arguments with
  | .error .help => .help
  | .error .version => .version
  | .error refusal => .misused refusal
  | .ok line =>
      match start surroundings line processId with
      | .ok _ => .serving
      | .error failure => .failed failure

end LanguageClient.Host
