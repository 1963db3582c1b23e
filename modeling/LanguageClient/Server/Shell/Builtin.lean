import LanguageClient.Server.Shell.Machine

/-!
# Commands that a shell carries out itself
-/

namespace LanguageClient.Shell

/-! ## Lines -/

/-- The characters of a line; behind a backslash they are quoted, unless the line is
taken as it is. -/
def lineCharacters (isRaw : Bool) : List Char → List (Char × Bool)
  | [] => []
  | [c] => [(c, false)]
  | c :: next :: rest =>
      if c = '\\' && !isRaw then (next, true) :: lineCharacters isRaw rest
      else (c, false) :: lineCharacters isRaw (next :: rest)

/-- Whether a line goes on in the next: it ends in a backslash that is not quoted. -/
def isContinued (line : List Char) : Bool :=
  (line.reverse.takeWhile (· = '\\')).length % 2 = 1

/-- Splits a line into the values of variables.  The last one takes what is left. -/
def splitLine (separators : List Char) :
    List (List Char) → List (Char × Bool) → List (List Char × List Char)
  | [], _ => []
  | name :: names, line =>
      let isSeparator := fun (c : Char × Bool) => !c.2 && separators.contains c.1
      let isSpace := fun (c : Char × Bool) => isSeparator c && c.1.isWhitespace
      let line := line.dropWhile isSpace
      if names.isEmpty then [(name, ((line.reverse.dropWhile isSpace).reverse).map Prod.fst)]
      else
        let (field, rest) := line.span fun c => !isSeparator c
        let rest := rest.dropWhile isSpace
        let rest := if (rest.head?.map isSeparator).getD false then rest.drop 1 else rest
        (name, field.map Prod.fst) :: splitLine separators names rest

/-- Whether a line is taken as it is, and the variables that it is read into. -/
def readArguments? (isRaw : Bool) : List (List Char) → Option (Bool × List (List Char))
  | ['-', 'r'] :: rest => readArguments? true rest
  | ['-', 'p'] :: _ :: rest => readArguments? isRaw rest
  | ['-', '-'] :: rest => some (isRaw, rest)
  | ('-' :: _ :: _) :: _ => none
  | rest => some (isRaw, rest)

/-! ## Arguments -/

def countOf? (argument : List Char) : Option Nat :=
  (Condition.number? argument).bind fun value =>
    if 0 ≤ value && value ≤ 2147483647 then some value.toNat else none

/-- The name and the value of an argument that may hold an assignment; `none` if the
name is none. -/
def declaration? (argument : List Char) : Option (List Char × Option (List Char)) :=
  let (name, behind) := argument.span (· != '=')
  if !isName name then none
  else
    match behind with
    | [] => some (name, none)
    | _ :: value => some (name, some value)

/-- The settings that may be chosen and play no part here. -/
def idleSettings : List Char := "abCEfhIilmnpsvVx".toList

def choose? (isOn : Bool) (environment : Environment) (letter : Char) : Option Environment :=
  if letter = 'e' then some { environment with stopsAtFailure := isOn }
  else if letter = 'u' then some { environment with mindsMissing := isOn }
  else if idleSettings.contains letter then some environment
  else none

def chooseNamed? (isOn : Bool) (environment : Environment) (name : List Char) :
    Option Environment :=
  match String.ofList name with
  | "errexit" => choose? isOn environment 'e'
  | "nounset" => choose? isOn environment 'u'
  | name =>
      if ["allexport", "noclobber", "noglob", "ignoreeof", "interactive", "monitor", "noexec",
          "stdin", "verbose", "vi", "emacs", "xtrace", "notify", "nolog", "debug"].contains name then
        some environment
      else none

def chooseAll? (environment : Environment) : List (List Char) → Option Environment
  | [] => some environment
  | ['-', '-'] :: rest => some { environment with arguments := rest }
  | ['-'] :: rest =>
      some (if rest.isEmpty then environment else { environment with arguments := rest })
  | ['-', 'o'] :: name :: rest => do chooseAll? (← chooseNamed? true environment name) rest
  | ['+', 'o'] :: name :: rest => do chooseAll? (← chooseNamed? false environment name) rest
  | ['-', 'o'] :: rest | ['+', 'o'] :: rest => chooseAll? environment rest
  | ('-' :: letters) :: rest => do
      chooseAll? (← letters.foldlM (choose? true) environment) rest
  | ('+' :: letters) :: rest => do
      chooseAll? (← letters.foldlM (choose? false) environment) rest
  | rest => some { environment with arguments := rest }

/-- The actions at signals after a change; `none` if one of the words names no
signal. -/
def trapAll? (environment : Environment) (action : Option (List Char)) (words : List (List Char)) :
    Option Environment :=
  words.foldlM (fun environment word =>
    (trapNumber? word).map fun number => environment.setTrap number action) environment

def systemDirectories : List String :=
  ["/", "/bin", "/dev", "/etc", "/home", "/root", "/tmp", "/usr", "/usr/bin", "/var"]

namespace Machine

/-- Sends a signal to processes, of which the shell knows no other than its own. -/
def sendSignal (machine : Machine) (signal : Signal) :
    (status : Nat) → List (List Char) → ProgramTurn Machine
  | status, [] => .goesOn [] (machine.conclude status)
  | status, receiver :: rest =>
      match Condition.number? receiver with
      | none => .goesOn [] (machine.conclude errorStatus)
      | some number =>
          if number = machine.environment.process || number = 0 then
            match machine.receive signal with
            | .passed machine => machine.sendSignal signal status rest
            | .stops => .goesOn [] { machine with control := .performing .idle }
            | .kills => machine.die signal
          else machine.sendSignal signal 1 rest

/-- Puts variables that a function changes on its frame. -/
def saveInCall (saved : List (List Char × Option (List Char))) : List Frame → Option (List Frame)
  | [] => none
  | .call arguments others :: frames => some (.call arguments (saved ++ others) :: frames)
  | frame :: frames =>
      if frame.isScript then none else (saveInCall saved frames).map (frame :: ·)

/-- Declares variables that keep their values, or just gives them values. -/
def declare (machine : Machine) (isFixed : Bool) (arguments : List (List Char)) : Machine :=
  let arguments := arguments.filter (· ≠ ['-', 'p'])
  match arguments.mapM declaration? with
  | none => machine.fail
  | some declarations =>
      let values := declarations.filterMap fun entry => entry.2.map (entry.1, ·)
      match assignAll? machine.environment values with
      | none => machine.fail
      | some environment =>
          let fixed := if isFixed then declarations.map Prod.fst else []
          { machine with
            environment := { environment with fixed := fixed ++ environment.fixed } }.finish 0

def declareInCall (machine : Machine) (arguments : List (List Char)) : Machine :=
  match arguments.mapM declaration? with
  | none => machine.fail
  | some declarations =>
      let saved := savedVariables machine.environment (declarations.map Prod.fst)
      let values := declarations.filterMap fun entry => entry.2.map (entry.1, ·)
      match saveInCall saved machine.frames, assignAll? machine.environment values with
      | some frames, some environment => { machine with frames, environment }.finish 0
      | _, _ => machine.fail

/-- Takes variables or functions away. -/
def unset (machine : Machine) (arguments : List (List Char)) : Machine :=
  let environment := machine.environment
  match arguments with
  | ['-', 'f'] :: names =>
      { machine with
        environment := { environment with
          functions := environment.functions.filter fun entry => !names.contains entry.1 } }.finish 0
  | arguments =>
      let names := if arguments.head? = some ['-', 'v'] then arguments.drop 1 else arguments
      if names.all fun name => isName name && !environment.fixed.contains name then
        { machine with environment := names.foldl Environment.forget environment }.finish 0
      else machine.fail

/-- Leaves the script, with the status of the last command unless another is given; an
action at the end leaves the status that it has found. -/
def exit (machine : Machine) (arguments : List (List Char)) : Machine :=
  match arguments with
  | [] =>
      let status := machine.frames.findSome? fun frame =>
        match frame with
        | .lastAction status | .resume status => some status
        | _ => none
      machine.leave (status.getD machine.environment.status)
  | argument :: _ =>
      match countOf? argument with
      | some status => machine.leave (status % 256)
      | none => machine.fail

def returnWith (machine : Machine) (arguments : List (List Char)) : Machine :=
  match arguments with
  | [] => { machine with control := .returning machine.environment.status }
  | argument :: _ =>
      match countOf? argument with
      | some status => { machine with control := .returning (status % 256) }
      | none => machine.fail

def breakLoops (machine : Machine) (goesOn : Bool) (arguments : List (List Char)) : Machine :=
  let levels := match arguments with | [] => some 1 | argument :: _ => countOf? argument
  match levels with
  | none | some 0 => machine.fail
  | some levels =>
      if machine.loops = 0 then machine.finish 0
      else { machine with control := .breaking (min levels machine.loops) goesOn }

def trap (machine : Machine) (arguments : List (List Char)) : Machine :=
  let arguments := if arguments.head? = some ['-', '-'] then arguments.drop 1 else arguments
  let changed :=
    match arguments with
    | [] => some machine.environment
    | [word] => trapAll? machine.environment none [word]
    | action :: words =>
        if action = ['-'] then trapAll? machine.environment none words
        else if !action.isEmpty && action.all Char.isDigit then
          trapAll? machine.environment none (action :: words)
        else trapAll? machine.environment (some action) words
  match changed with
  | some environment => { machine with environment }.finish 0
  | none => machine.conclude 1

def read (machine : Machine) (arguments : List (List Char)) : Machine :=
  match readArguments? false arguments with
  | some (isRaw, names) =>
      if names.isEmpty || !names.all isName then machine.conclude errorStatus
      else { machine with control := .reading isRaw names [] }
  | none => machine.conclude errorStatus

def shift (machine : Machine) (arguments : List (List Char)) : Machine :=
  let count := match arguments with | [] => some 1 | argument :: _ => countOf? argument
  let environment := machine.environment
  match count with
  | none => machine.fail
  | some count =>
      if environment.arguments.length < count then machine.fail
      else
        { machine with
          environment := { environment with
            arguments := environment.arguments.drop count } }.finish 0

/-- Writes what `printf` writes. -/
def sayFormat (outlook : Outlook) (machine : Machine) (arguments : List (List Char)) :
    ProgramTurn Machine :=
  let arguments := if arguments.head? = some ['-', '-'] then arguments.drop 1 else arguments
  match arguments with
  | [] => .goesOn [] (machine.conclude errorStatus)
  | format :: arguments =>
      if format.head? = some '-' && 1 < format.length then
        .goesOn [] (machine.conclude errorStatus)
      else
        let (output, status) := printed format arguments
        machine.say outlook output status

def isDirectory (outlook : Outlook) (name : List Char) : Bool :=
  systemDirectories.contains (String.ofList name) || testsFile outlook 'd' name

/-- Carries out a command that the shell knows by itself; `none` if it does not know
it. -/
def builtin? (outlook : Outlook) (machine : Machine) (name : String)
    (arguments : List (List Char)) : Option (ProgramTurn Machine) :=
  let stay := fun (machine : Machine) => some (.goesOn [] machine)
  match name with
  | ":" => stay (machine.finish 0)
  | "true" => stay (machine.conclude 0)
  | "false" => stay (machine.conclude 1)
  | "echo" => some (machine.say outlook (echoed arguments) 0)
  | "printf" => some (machine.sayFormat outlook arguments)
  | "read" => stay (machine.read arguments)
  | "exit" => stay (machine.exit arguments)
  | "return" => stay (machine.returnWith arguments)
  | "break" => stay (machine.breakLoops false arguments)
  | "continue" => stay (machine.breakLoops true arguments)
  | "kill" =>
      match arguments with
      | ['-', 'l'] :: _ => stay (machine.conclude 0)
      | arguments =>
          match signalAndReceivers? arguments with
          | some (signal, receivers) => some (machine.sendSignal signal 0 receivers)
          | none => stay (machine.conclude errorStatus)
  | "trap" => stay (machine.trap arguments)
  | "set" =>
      match chooseAll? machine.environment arguments with
      | some environment => stay ({ machine with environment }.finish 0)
      | none => stay machine.fail
  | "shift" => stay (machine.shift arguments)
  | "unset" => stay (machine.unset arguments)
  | "export" => stay (machine.declare false arguments)
  | "readonly" => stay (machine.declare true arguments)
  | "local" => stay (machine.declareInCall arguments)
  | "test" => stay (machine.conclude (Condition.status (testsFile outlook) arguments))
  | "[" =>
      if arguments.getLast? = some [']'] then
        stay (machine.conclude (Condition.status (testsFile outlook) arguments.dropLast))
      else stay (machine.conclude errorStatus)
  | "cd" =>
      match arguments with
      | name :: _ =>
          stay (machine.conclude (if isDirectory outlook name then 0 else errorStatus))
      | [] => stay (machine.conclude 0)
  | "pwd" =>
      some (machine.say outlook (charactersOf (Path.ofNames outlook.directory).bytes ++ ['\n']) 0)
  | "getopts" => stay (machine.conclude (if arguments.length < 2 then errorStatus else 1))
  | "fg" | "bg" => stay (machine.conclude errorStatus)
  | "wait" =>
      match arguments with
      | [] => stay (machine.conclude 0)
      | process :: _ =>
          stay (machine.conclude (if (countOf? process).isSome then 127 else errorStatus))
  | "alias" | "hash" | "jobs" | "times" | "ulimit" | "umask" | "unalias" =>
      stay (machine.conclude 0)
  | _ => none

end Machine

end LanguageClient.Shell
