import LanguageClient.Server.Shell.Builtin

/-!
# Evaluation

The steps of a shell.  A command is taken apart into frames, and when it has ended the
frame in front tells how to go on.
-/

namespace LanguageClient.Shell

/-- The names of the commands whose errors end a script and whose assignments stay. -/
def isOwnName (name : List Char) : Bool := Command.ownNames.contains (String.ofList name)

/-- The commands that a shell knows by itself. -/
def builtinNames : List String :=
  Command.ownNames ++ ["true", "false", "echo", "printf", "read", "kill", "local", "test", "[",
    "cd", "pwd", "getopts", "fg", "bg", "wait", "alias", "hash", "jobs", "ulimit", "umask",
    "unalias", "command", "type"]

def searchPathName : List Char := charactersOfText "PATH"

namespace Machine

def stay (machine : Machine) : ProgramTurn Machine := .goesOn [] machine

/-! ## Redirections -/

/-- What an opened path leads to; `none` if it cannot be opened. -/
def opened? (outlook : Outlook) (streams : Streams) (isRead : Bool) (path : List Char) :
    Option Stream :=
  match String.ofList path with
  | "/dev/null" | "/dev/stderr" | "/dev/zero" => some .nowhere
  | "/dev/stdin" => streams.find? 0
  | "/dev/stdout" => streams.find? 1
  | _ =>
      if isRead then (fileBytes? outlook path).map .text
      else if path.isEmpty || isDirectory outlook path then none
      else
        let above := (path.reverse.dropWhile (· ≠ '/')).reverse
        if above.isEmpty || isDirectory outlook above then some .nowhere else none

/-- The streams after a redirection; `none` if it cannot be done. -/
def redirected? (outlook : Outlook) (streams : Streams) (redirection : Redirection)
    (text : List Char) : Option Streams :=
  let descriptor := redirection.descriptor
  match redirection.kind with
  | .text => some (streams.set descriptor (some (.text (bytesOf text))))
  | .reads => (opened? outlook streams true text).map fun stream =>
      streams.set descriptor (some stream)
  | .writes => (opened? outlook streams false text).map fun stream =>
      streams.set descriptor (some stream)
  | .copies =>
      if text = ['-'] then some (streams.set descriptor none)
      else do
        let source ← if text.all Char.isDigit then (String.ofList text).toNat? else none
        let stream ← streams.find? source
        return streams.set descriptor (some stream)

inductive Redirected where
  /-- The shell with its descriptors as they are inside, and as they were. -/
  | done (machine : Machine) (saved : List (Nat × Option Stream))
  | refused (machine : Machine)
  /-- The word of one is an error. -/
  | failed

def redirectAll (outlook : Outlook) (machine : Machine)
    (saved : List (Nat × Option Stream)) : List Redirection → Redirected
  | [] => .done machine saved
  | redirection :: rest =>
      match expandText machine.environment redirection.word with
      | none => .failed
      | some (text, environment) =>
          let machine := { machine with environment }
          match redirected? outlook machine.streams redirection text with
          | none => .refused (machine.restoreStreams saved)
          | some streams =>
              let old := (redirection.descriptor, machine.streams.find? redirection.descriptor)
              redirectAll outlook { machine with streams } (old :: saved) rest

/-! ## Programs -/

/-- Puts a program in the place of the script. -/
def replace (machine : Machine) : Machine :=
  { machine with frames := .replaced :: machine.framesOfScript }

/-- Begins another script, inside the one that runs or in its place. -/
def beginScript (machine : Machine) (isReplacing : Bool) (name : List Char)
    (arguments : List (List Char)) (command : Command) : Machine :=
  let outer := machine.environment
  let environment := outer.inScript name arguments
  if isReplacing then
    { machine with
      control := .run command, frames := machine.framesOfScript, environment, pending := [] }
  else
    { machine with
      control := .run command
      frames := .process outer machine.streams :: machine.frames
      environment := { environment with process := outer.process + 1 } }

/-- A program that cannot be run. -/
def withoutProgram (machine : Machine) (isReplacing : Bool) (status : Nat) : Machine :=
  if isReplacing then machine.leave status else machine.conclude status

/-- Runs a task, inside the script or in its place. -/
def perform (machine : Machine) (isReplacing : Bool) (task : Task) : Machine :=
  let machine := if isReplacing then machine.replace else machine
  { machine with control := .performing task }

/-- Runs the arguments of a shell: the settings, and then a script or the name of a file
with one. -/
def runShell (outlook : Outlook) (machine : Machine) (isReplacing : Bool)
    (environment : Environment) (name : List Char) : List (List Char) → Machine
  | ('-' :: letters) :: rest =>
      let isScript := letters.contains 'c'
      match chooseAll? environment [('-' :: letters.filter fun c => c ≠ 'c' && c ≠ 's')] with
      | none => machine.withoutProgram isReplacing errorStatus
      | some environment =>
          if isScript then
            match rest with
            | [] => machine.withoutProgram isReplacing errorStatus
            | script :: rest =>
                settle environment
                  (machine.beginScript isReplacing (rest.head?.getD name) (rest.drop 1)
                    (Command.ofScript script))
          else runShell outlook machine isReplacing environment name rest
  | file :: arguments =>
      match fileBytes? outlook file with
      | none => machine.withoutProgram isReplacing errorStatus
      | some content =>
          settle environment
            (machine.beginScript isReplacing file arguments
              (Command.ofScript (charactersOf content)))
  | [] => machine.perform isReplacing (.write [] 0)
where
  /-- The settings of a script that begins. -/
  settle (environment : Environment) (machine : Machine) : Machine :=
    { machine with
      environment := { machine.environment with
        stopsAtFailure := environment.stopsAtFailure
        mindsMissing := environment.mindsMissing } }

/-- Runs a program with some arguments; interpreters are followed no deeper than there
is fuel for. -/
def runProgram (outlook : Outlook) : (fuel : Nat) → Machine → (isReplacing : Bool) →
    List Char → List (List Char) → Machine
  | 0, machine, isReplacing, _, _ => machine.withoutProgram isReplacing 126
  | fuel + 1, machine, isReplacing, name, arguments =>
      let searchPath := (machine.environment.stored? searchPathName).getD []
      match find outlook searchPath name with
      | .missing => machine.withoutProgram isReplacing 127
      | .refused => machine.withoutProgram isReplacing 126
      | .utility "env" =>
          let isAssignment := fun (argument : List Char) => argument.contains '='
          let values := (arguments.takeWhile isAssignment).filterMap declaration?
          match arguments.dropWhile isAssignment with
          | [] => machine.perform isReplacing (.write [] 0)
          | name :: arguments =>
              let values := values.filterMap fun entry => entry.2.map (entry.1, ·)
              match assignAll? machine.environment values with
              | none => machine.withoutProgram isReplacing 126
              | some environment =>
                  let saved := savedVariables machine.environment (values.map Prod.fst)
                  let machine := { machine with
                    environment, frames := .bindings saved :: machine.frames }
                  runProgram outlook fuel machine isReplacing name arguments
      | .utility utility =>
          if shellNames.contains utility then
            let environment := machine.environment.inScript name []
            machine.runShell outlook isReplacing environment name arguments
          else
            match utility? outlook utility arguments with
            | some task => machine.perform isReplacing task
            | none => machine.withoutProgram isReplacing 127
      | .file .program _ =>
          let texts := arguments.map fun argument => Text.Utf8.decodeLossy (bytesOf argument)
          match SampleMode.ofArguments? texts with
          | some mode => machine.perform isReplacing (.serve (.start mode))
          | none => machine.perform isReplacing (.write [] 1)
      | .file (.file content _) path =>
          match interpreter? content with
          | none =>
              machine.beginScript isReplacing path arguments
                (Command.ofScript (charactersOf content))
          | some (interpreter, options) =>
              runProgram outlook fuel machine isReplacing interpreter
                (options ++ path :: arguments)
      | .file (.directory _) _ => machine.withoutProgram isReplacing 126

/-- Interpreters are followed no deeper than this. -/
def greatestDepth : Nat := 8

/-! ## Commands without parts -/

/-- Carries out a command by its name; functions may be left aside. -/
def invoke (outlook : Outlook) (machine : Machine) (mindsFunctions : Bool) (name : List Char)
    (arguments : List (List Char)) : ProgramTurn Machine :=
  let environment := machine.environment
  let function? :=
    if mindsFunctions && !isOwnName name then Environment.lookup? name environment.functions
    else none
  match function? with
  | some body =>
      stay ({ machine with environment := { environment with arguments } }.enter
        (.call environment.arguments []) body)
  | none =>
      match String.ofList name with
      | "eval" =>
          let script := [' '].intercalate arguments
          if script.all Char.isWhitespace then stay (machine.finish 0)
          else stay { machine with control := .run (Command.ofScript script) }
      | "." =>
          match arguments with
          | [] => stay (machine.finish 0)
          | file :: _ =>
              match fileBytes? outlook file with
              | some content =>
                  let command := Command.ofScript (charactersOf content)
                  stay { machine.finish 0 with control := .run command }
              | none => stay machine.fail
      | "exec" =>
          match arguments with
          | [] => stay (machine.finish 0)
          | name :: arguments =>
              proceed machine (runProgram outlook greatestDepth machine true name arguments)
      | word =>
          match machine.builtin? outlook word arguments with
          | some turn => turn
          | none => stay (runProgram outlook greatestDepth machine false name arguments)

/-- Writes the name of a command if there is such a command. -/
def sayWhether (outlook : Outlook) (machine : Machine) (name : List Char) : ProgramTurn Machine :=
  let searchPath := (machine.environment.stored? searchPathName).getD []
  let isKnown :=
    builtinNames.contains (String.ofList name) ||
      (Environment.lookup? name machine.environment.functions).isSome ||
      match find outlook searchPath name with
      | .utility _ | .file .. => true
      | _ => false
  if isKnown then machine.say outlook (name ++ ['\n']) 0 else stay (machine.conclude 127)

def carryOut (outlook : Outlook) (machine : Machine) (name : List Char)
    (arguments : List (List Char)) : ProgramTurn Machine :=
  match String.ofList name, arguments with
  | "command", ['-', 'v'] :: name :: _ | "type", name :: _ => machine.sayWhether outlook name
  | "command", name :: arguments => machine.invoke outlook false name arguments
  | "command", [] | "type", [] => stay (machine.finish 0)
  | _, arguments => machine.invoke outlook true name arguments

def hasOutput (word : Word) : Bool :=
  word.any fun piece => match piece with | .given .. => true | _ => false

/-- Carries out a command without parts: its words are expanded first, then its
assignments, which stay only if there is no command or one of the shell's own. -/
def runSimple (outlook : Outlook) (machine : Machine)
    (assignments : List (List Char × Word)) (words : List Word) : ProgramTurn Machine :=
  let expanded : Option _ := do
    let (fields, environment) ← expandFields machine.environment words
    return (fields, environment, ← assignWords environment assignments)
  match expanded with
  | none => stay machine.fail
  | some (fields, before, after) =>
      match fields with
      | [] =>
          let hasStatus := (assignments.map Prod.snd ++ words).any hasOutput
          let status := if hasStatus then machine.environment.status else 0
          stay ({ machine with environment := after }.conclude status)
      | name :: arguments =>
          let machine := { machine with environment := after }
          if assignments.isEmpty || isOwnName name then machine.carryOut outlook name arguments
          else
            let saved := savedVariables before (assignments.map Prod.fst)
            let machine := { machine with frames := .bindings saved :: machine.frames }
            machine.carryOut outlook name arguments

/-! ## Commands -/

/-- Begins a part of a script that runs as a script of its own. -/
def enterSubshell (machine : Machine) (command : Command) : Machine :=
  { machine.enter (.subshell machine.environment machine.streams) command with
    environment := machine.environment.inSubshell }

/-- Begins such a part whose output is gathered. -/
def gather (machine : Machine) (frame : Frame) (command : Command) : Machine :=
  let machine := { machine with frames := frame :: machine.frames }.enterSubshell command
  { machine with
    streams := machine.streams.set 1 (some .gathered)
    gathered := [] :: machine.gathered }

def isOwn : Command → Bool
  | .simple _ (word :: _) => word.plain?.any isOwnName
  | _ => false

/-- Whether a command does nothing but redirect for good. -/
def isLasting : Command → Bool
  | .simple _ [word] => word.plain? = some (charactersOfText "exec")
  | _ => false

def begin (outlook : Outlook) (machine : Machine) (command : Command) : ProgramTurn Machine :=
  match firstScript? command.openingWords with
  | some script => stay (machine.gather (.output command) (Command.ofScript script))
  | none =>
      match command with
      | .nothing => stay (machine.finish machine.environment.status)
      | .malformed => stay machine.fail
      | .simple assignments words => machine.runSimple outlook assignments words
      | .redirected redirections command =>
          match machine.redirectAll outlook [] redirections with
          | .failed => stay machine.fail
          | .refused machine =>
              if isOwn command then stay machine.fail
              else stay (machine.conclude errorStatus)
          | .done inside saved =>
              if isLasting command then
                proceed machine { inside with control := .run command }
              else stay (inside.enter (.streams saved) command)
      | .sequence first second => stay (machine.enter (.next second) first)
      | .both first second => stay (machine.enter (.onSuccess second) first)
      | .either first second => stay (machine.enter (.onFailure second) first)
      | .negated command => stay (machine.enter .negation command)
      | .piped first second => stay (machine.gather (.feed second) first)
      | .background _ => stay (machine.finish 0)
      | .subshell command => stay (machine.enterSubshell command)
      | .branch condition yes no => stay (machine.enter (.branch yes no) condition)
      | .loop isUntil condition body =>
          stay (machine.enter (.condition isUntil condition body 0) condition)
      | .each name none body =>
          stay ({ machine with
            frames := .each name machine.environment.arguments body :: machine.frames }.finish 0)
      | .each name (some words) body =>
          match expandFields machine.environment words with
          | none => stay machine.fail
          | some (fields, environment) =>
              stay ({ machine with
                environment, frames := .each name fields body :: machine.frames }.finish 0)
      | .choice word patterns body other =>
          match expandText machine.environment word with
          | none => stay machine.fail
          | some (text, environment) =>
              match patterns.mapM fun pattern => expandWord environment pattern with
              | none => stay machine.fail
              | some patterns =>
                  let isChosen := patterns.any fun pattern =>
                    PatternStep.accepts (PatternStep.ofGlyphs pattern.1) text
                  stay { machine with
                    environment, control := .run (if isChosen then body else other) }
      | .function name body =>
          let environment := machine.environment
          let others := environment.functions.filter fun entry => entry.1 ≠ name
          stay ({ machine with
            environment := { environment with functions := (name, body) :: others } }.finish 0)

/-! ## Going on -/

/-- The output of a script without the ends of lines behind it. -/
def trimmedOutput (bytes : List UInt8) : List Char :=
  ((charactersOf bytes).reverse.dropWhile (· = '\n')).reverse.filter (· ≠ '\x00')

/-- Goes on behind a command, as the frame in front of the others tells. -/
def resume (machine : Machine) (status : Nat) (frame : Frame) (frames : List Frame) : Machine :=
  let outside := { machine with frames }
  match frame with
  | .next second => { outside with control := .run second }
  | .onSuccess second =>
      if status = 0 then { outside with control := .run second } else outside.finish status
  | .onFailure second =>
      if status = 0 then outside.finish 0 else { outside with control := .run second }
  | .negation => outside.finish (if status = 0 then 1 else 0)
  | .branch yes no => { outside with control := .run (if status = 0 then yes else no) }
  | .condition isUntil condition body last =>
      if (status == 0) != isUntil then outside.enter (.body isUntil condition body) body
      else outside.finish last
  | .body isUntil condition body =>
      outside.enter (.condition isUntil condition body status) condition
  | .each name (value :: rest) body =>
      match machine.environment.assign? name value with
      | some environment => { outside with environment }.enter (.each name rest body) body
      | none => outside.fail
  | .each _ [] _ => outside.finish status
  | .streams _ | .bindings _ | .call .. => machine.discard.finish status
  | .subshell .. | .process .. => machine.leave status
  | .output command =>
      let output := trimmedOutput (machine.gathered.head?.getD [])
      let words := giveToWords output command.openingWords
      { outside with
        control := .run (command.withOpeningWords words)
        gathered := machine.gathered.drop 1 }
  | .feed second =>
      let bytes := machine.gathered.head?.getD []
      let inside := { outside with gathered := machine.gathered.drop 1 }.enterSubshell second
      { inside with streams := inside.streams.set 0 (some (.text bytes)) }
  | .resume status => outside.finish status
  | .lastAction status => outside.leave status
  | .replaced => outside.leave status

/-- Leaves the script that runs: the action at its end is carried out first. -/
def leaveScript (machine : Machine) (status : Nat) : ProgramTurn Machine :=
  let environment := machine.environment
  match environment.trap? 0 with
  | some (c :: action) =>
      let machine := { machine with environment := environment.setTrap 0 none }
      stay (machine.enter (.lastAction status) (Command.ofScript (c :: action)))
  | _ =>
      match machine.frames with
      | [] => .ends [] (.code (status % 256))
      | _ =>
          let outside := machine.discard
          if (outside.frames.head?.map Frame.gathers).getD false then stay (outside.finish status)
          else stay (outside.conclude status)

def leaveLoop (machine : Machine) (levels : Nat) (goesOn : Bool) : Machine :=
  match machine.frames with
  | [] => machine.finish 0
  | frame :: frames =>
      let outside := { machine with frames }
      if !frame.isLoop then machine.discard
      else if 1 < levels then { outside with control := .breaking (levels - 1) goesOn }
      else if !goesOn then outside.finish 0
      else
        match frame with
        | .condition isUntil condition body _ | .body isUntil condition body =>
            outside.enter (.condition isUntil condition body 0) condition
        | _ => machine.finish 0

def finishLine (machine : Machine) (isRaw : Bool) (names : List (List Char)) (line : List Char)
    (status : Nat) : Machine :=
  let environment := machine.environment
  let characters := lineCharacters isRaw (line.filter (· ≠ '\x00'))
  match assignAll? environment (splitLine environment.separators names characters) with
  | some environment => { machine with environment }.conclude status
  | none => machine.fail

def readOn (outlook : Outlook) (machine : Machine) (isRaw : Bool) (names : List (List Char))
    (line : List Char) : ProgramTurn Machine :=
  let view := machine.view outlook
  let (front, behind) := view.held.span (· ≠ lineFeed)
  let line := line ++ charactersOf front
  if !behind.isEmpty then
    let (deeds, machine) := machine.carry [.takes (front.length + 1)]
    if !isRaw && isContinued line then
      .goesOn deeds { machine with control := .reading isRaw names line.dropLast }
    else .goesOn deeds (machine.finishLine isRaw names line 0)
  else if view.isClosed then
    let (deeds, machine) := machine.carry (Deed.taking front.length)
    .goesOn deeds (machine.finishLine isRaw names line 1)
  else .waits

def step (outlook : Outlook) (machine : Machine) : ProgramTurn Machine :=
  match machine.control with
  | .run command => machine.begin outlook command
  | .finished status =>
      match machine.pending, machine.frames.any Frame.isScript with
      | action :: pending, false =>
          stay ({ machine with pending }.enter (.resume status) (Command.ofScript action))
      | _, _ =>
          match machine.frames with
          | [] => stay (machine.leave status)
          | frame :: frames => stay (machine.resume status frame frames)
  | .reading isRaw names line => machine.readOn outlook isRaw names line
  | .performing task =>
      match task.turn (machine.view outlook) with
      | .waits => .waits
      | .goesOn deeds next =>
          let (deeds, machine) := machine.carry deeds
          .goesOn deeds { machine with control := .performing next }
      | .ends deeds status =>
          let (deeds, machine) := machine.carry deeds
          .goesOn deeds { machine with control := .ended status }
  | .ended status =>
      match machine.frames with
      | [.replaced] => .ends [] status
      | .replaced :: frames => stay ({ machine with frames }.leave (statusOf status))
      | _ => stay (machine.conclude (statusOf status))
  | .leaving status =>
      match machine.frames with
      | [] => machine.leaveScript status
      | frame :: _ =>
          if frame.isScript then machine.leaveScript status else stay machine.discard
  | .breaking levels goesOn => stay (machine.leaveLoop levels goesOn)
  | .returning status =>
      match machine.frames with
      | [] => stay (machine.leave status)
      | frame :: _ =>
          if frame.isScript then stay (machine.leave status)
          else if frame.isCall then stay (machine.discard.finish status)
          else stay machine.discard

/-- Takes steps until one of them can be seen from outside.  A shell that takes more
steps than there is fuel for without doing anything is taken to do so for ever. -/
def advance (outlook : Outlook) : (fuel : Nat) → (hasMoved : Bool) → Machine → ProgramTurn Machine
  | 0, _, machine => .goesOn [] { machine with control := .performing .idle }
  | fuel + 1, hasMoved, machine =>
      match machine.step outlook with
      | .waits => if hasMoved then .goesOn [] machine else .waits
      | .goesOn [] machine => advance outlook fuel true machine
      | turn => turn

/-- The steps that nobody sees are no more than this, one after the other. -/
def greatestRun : Nat := 100000

def turn (outlook : Outlook) (machine : Machine) : ProgramTurn Machine :=
  machine.advance outlook greatestRun false

def wakeTime? (machine : Machine) : Option Nat :=
  match machine.control with
  | .performing (.pauseUntil time) => some time
  | _ => none

/-- A shell that puts a program with some arguments in its own place. -/
def start (searchPath : List Path) (program : List Char) (arguments : List (List Char)) :
    Machine where
  control := .run (.simple [] ((charactersOfText "exec" :: program :: arguments).map Word.quoted))
  frames := []
  environment := {
    bindings := [(searchPathName,
      [':'].intercalate (searchPath.map fun path => charactersOf path.bytes))]
    fixed := []
    process := 4242
    name := program
    arguments := []
    status := 0
    functions := []
    traps := []
    stopsAtFailure := false
    mindsMissing := false }
  streams := .serving
  gathered := []
  pending := []

end Machine

end LanguageClient.Shell
