import LanguageClient.Server.Shell.Expansion
import LanguageClient.Server.Shell.Word
import LanguageClient.Server.Shell.Task

/-!
# A shell at work

A shell is at a point of control, with the frames of the commands around it.  Its
descriptors lead to the client, to nowhere, to a text or to what it gathers itself.
-/

namespace LanguageClient.Shell

inductive Stream where
  | fromClient
  | toClient
  /-- Nothing comes from it, and what goes to it is lost. -/
  | nowhere
  /-- A text that is left to be read. -/
  | text (bytes : List UInt8)
  /-- What goes to it is kept for the command that asked for it. -/
  | gathered
deriving DecidableEq, Repr

abbrev Streams := List (Nat × Stream)

namespace Streams

def serving : Streams := [(0, .fromClient), (1, .toClient), (2, .nowhere)]

/-- What a descriptor leads to; `none` if it is closed. -/
def find? (streams : Streams) (descriptor : Nat) : Option Stream :=
  (List.find? (fun entry => entry.1 = descriptor) streams).map Prod.snd

def set (streams : Streams) (descriptor : Nat) (stream : Option Stream) : Streams :=
  (stream.map (descriptor, ·)).toList ++ streams.filter fun entry => entry.1 ≠ descriptor

def holds (streams : Streams) (stream : Stream) : Bool :=
  streams.any fun entry => entry.2 = stream

end Streams

inductive Control where
  | run (command : Command)
  | finished (status : Nat)
  /-- Reads a line into variables; a part of it may have been read. -/
  | reading (isRaw : Bool) (names : List (List Char)) (line : List Char)
  /-- Waits for a program. -/
  | performing (task : Task)
  /-- A program has ended. -/
  | ended (status : ExitStatus)
  /-- Leaves the script or the part of it that runs as one. -/
  | leaving (status : Nat)
  /-- Leaves loops, or goes on with the outermost of them. -/
  | breaking (levels : Nat) (goesOn : Bool)
  | returning (status : Nat)

inductive Frame where
  | next (second : Command)
  | onSuccess (second : Command)
  | onFailure (second : Command)
  | negation
  | branch (yes no : Command)
  /-- The condition of a loop, with the status of its body. -/
  | condition (isUntil : Bool) (condition body : Command) (status : Nat)
  | body (isUntil : Bool) (condition body : Command)
  | each (name : List Char) (rest : List (List Char)) (body : Command)
  /-- Descriptors as they were. -/
  | streams (saved : List (Nat × Option Stream))
  /-- Variables as they were. -/
  | bindings (saved : List (List Char × Option (List Char)))
  /-- A part of a script that runs as a script of its own. -/
  | subshell (environment : Environment) (streams : Streams)
  /-- Another script. -/
  | process (environment : Environment) (streams : Streams)
  /-- What was gathered belongs into a command. -/
  | output (command : Command)
  /-- What was gathered is read by a command. -/
  | feed (second : Command)
  /-- A function, with the arguments and variables as they were. -/
  | call (arguments : List (List Char)) (saved : List (List Char × Option (List Char)))
  /-- An action at a signal, and the status behind it. -/
  | resume (status : Nat)
  /-- The action at the end. -/
  | lastAction (status : Nat)
  /-- A program in the place of the script. -/
  | replaced

structure Machine where
  control : Control
  frames : List Frame
  environment : Environment
  streams : Streams
  /-- What was gathered, the innermost first. -/
  gathered : List (List UInt8)
  /-- Actions at signals that are still to be done. -/
  pending : List (List Char)

namespace Frame

def isTest : Frame → Bool
  | .onSuccess _ | .onFailure _ | .negation | .branch .. | .condition .. => true
  | _ => false

def isLoop : Frame → Bool
  | .condition .. | .body .. | .each .. => true
  | _ => false

def isScript : Frame → Bool
  | .subshell .. | .process .. => true
  | _ => false

def isProcess : Frame → Bool
  | .process .. => true
  | _ => false

def isCall : Frame → Bool
  | .call .. => true
  | _ => false

def gathers : Frame → Bool
  | .output _ | .feed _ => true
  | _ => false

def holds (stream : Stream) : Frame → Bool
  | .streams saved => saved.any fun entry => entry.2 = some stream
  | .subshell _ outer | .process _ outer => outer.holds stream
  | _ => false

end Frame

namespace Machine

/-! ## Ends of commands -/

def finish (machine : Machine) (status : Nat) : Machine :=
  { machine with
    control := .finished status
    environment := { machine.environment with status } }

/-- A command without parts has ended; its failure may end the script. -/
def conclude (machine : Machine) (status : Nat) : Machine :=
  if status ≠ 0 && machine.environment.stopsAtFailure && !machine.frames.any Frame.isTest then
    { machine with
      control := .leaving status
      environment := { machine.environment with status } }
  else machine.finish status

def leave (machine : Machine) (status : Nat) : Machine :=
  { machine with
    control := .leaving status
    environment := { machine.environment with status } }

def errorStatus : Nat := 2

def fail (machine : Machine) : Machine := machine.leave errorStatus

def enter (machine : Machine) (frame : Frame) (command : Command) : Machine :=
  { machine with control := .run command, frames := frame :: machine.frames }

/-- The status by which a script knows how a program has ended. -/
def statusOf : ExitStatus → Nat
  | .code value => value
  | .signalled signal => 128 + signal.number

/-! ## Streams -/

/-- Whether the shell or something around it keeps a stream open. -/
def holds (machine : Machine) (stream : Stream) : Bool :=
  machine.streams.holds stream || machine.frames.any (Frame.holds stream)

/-- The streams to the client that are open before, but not after. -/
def closings (before after : Machine) : List Deed :=
  (if before.holds .fromClient && !after.holds .fromClient then [.closesInput] else []) ++
    if before.holds .toClient && !after.holds .toClient then [.closesOutput] else []

/-- Goes on, with the streams closed that are closed by it. -/
def proceed (before after : Machine) : ProgramTurn Machine :=
  .goesOn (closings before after) after

def restoreStreams (machine : Machine) (saved : List (Nat × Option Stream)) : Machine :=
  { machine with
    streams := saved.foldl (fun streams entry => Streams.set streams entry.1 entry.2)
      machine.streams }

def view (machine : Machine) (outlook : Outlook) : Outlook :=
  let inward :=
    match machine.streams.find? 0 with
    | some .fromClient => outlook
    | some (.text bytes) => { outlook with held := bytes, isClosed := true }
    | _ => { outlook with held := [], isClosed := true }
  { inward with
    takesBytes := outlook.takesBytes || machine.streams.find? 1 ≠ some .toClient }

/-- What of the deeds of a program at the descriptors of the shell reaches the client,
and the shell afterwards. -/
def carry (machine : Machine) : List Deed → List Deed × Machine
  | [] => ([], machine)
  | deed :: rest =>
      let (mine, machine) : List Deed × Machine :=
        match deed with
        | .takes count =>
            match machine.streams.find? 0 with
            | some .fromClient => ([deed], machine)
            | some (.text bytes) =>
                ([], { machine with
                  streams := machine.streams.set 0 (some (.text (bytes.drop count))) })
            | _ => ([], machine)
        | .writes bytes =>
            match machine.streams.find? 1, machine.gathered with
            | some .toClient, _ => ([deed], machine)
            | some .gathered, inner :: outer =>
                ([], { machine with gathered := (inner ++ bytes) :: outer })
            | _, _ => ([], machine)
        | .closesInput | .closesOutput => ([], machine)
      let (others, machine) := machine.carry rest
      (mine ++ others, machine)

/-! ## Variables -/

def restoreVariables (environment : Environment)
    (saved : List (List Char × Option (List Char))) : Environment :=
  saved.foldl (fun environment entry =>
    match entry.2 with
    | some value => (environment.assign? entry.1 value).getD environment
    | none => environment.forget entry.1) environment

/-- Gives variables values; `none` if one keeps its own. -/
def assignAll? (environment : Environment) (values : List (List Char × List Char)) :
    Option Environment :=
  values.foldlM (fun environment entry => environment.assign? entry.1 entry.2) environment

def savedVariables (environment : Environment) (names : List (List Char)) :
    List (List Char × Option (List Char)) :=
  names.map fun name => (name, environment.stored? name)

/-! ## Frames -/

/-- Takes back what the front frame has set, and drops it. -/
def discard (machine : Machine) : Machine :=
  match machine.frames with
  | [] => machine
  | frame :: frames =>
      let machine := { machine with frames }
      match frame with
      | .streams saved => machine.restoreStreams saved
      | .bindings saved =>
          { machine with environment := restoreVariables machine.environment saved }
      | .call arguments saved =>
          { machine with
            environment := { restoreVariables machine.environment saved with arguments } }
      | .output _ | .feed _ => { machine with gathered := machine.gathered.drop 1 }
      | .subshell environment streams | .process environment streams =>
          { machine with environment, streams }
      | _ => machine

/-- The loops around, up to a function or a script. -/
def loops (machine : Machine) : Nat :=
  ((machine.frames.takeWhile fun frame => !frame.isScript && !frame.isCall).filter
    Frame.isLoop).length

def framesOfScript (machine : Machine) : List Frame :=
  machine.frames.dropWhile fun frame => !frame.isScript

def die (machine : Machine) (signal : Signal) : ProgramTurn Machine :=
  match machine.frames.dropWhile fun frame => !frame.isProcess with
  | [] => .ends [] (.signalled signal)
  | frames => .goesOn [] (({ machine with frames }.discard).conclude (128 + signal.number))

/-- The settings of the process that runs: those of the script, and not of a part of
it. -/
def processEnvironment (machine : Machine) : Environment :=
  let inside := machine.frames.takeWhile fun frame => !frame.isProcess
  (inside.reverse.findSome? fun frame =>
    match frame with
    | .subshell environment _ => some environment
    | _ => none).getD machine.environment

inductive Blow where
  /-- The shell goes on, with an action to be done or not. -/
  | passed (machine : Machine)
  | stops
  | kills

def receive (machine : Machine) (signal : Signal) : Blow :=
  if signal.number = 0 then .passed machine
  else
    let action :=
      if isFinal signal then none else machine.processEnvironment.trap? signal.number
    match action, signal.effect with
    | some [], _ | none, .nothing => .passed machine
    | some action, _ => .passed { machine with pending := machine.pending ++ [action] }
    | none, .stops => .stops
    | none, .ends => .kills

def say (outlook : Outlook) (machine : Machine) (characters : List Char) (status : Nat) :
    ProgramTurn Machine :=
  let bytes := bytesOf characters
  match machine.streams.find? 1 with
  | none => .goesOn [] (machine.conclude (if bytes.isEmpty then status else 1))
  | some .toClient =>
      if bytes.isEmpty then .goesOn [] (machine.conclude status)
      else if outlook.takesBytes then .goesOn [.writes bytes] (machine.conclude status)
      else if machine.frames.any Frame.isScript then
        .goesOn [] (machine.leave (128 + Signal.brokenPipe.number))
      else
        match machine.receive .brokenPipe with
        | .passed machine => .goesOn [] (machine.conclude 1)
        | _ => .ends [] (.signalled .brokenPipe)
  | some _ =>
      let (_, machine) := machine.carry (Deed.writing bytes)
      .goesOn [] (machine.conclude status)

end Machine

end LanguageClient.Shell
