import LanguageClient.Server.Shell.Evaluation
import LanguageClient.Session.Schedule

/-!
# Launching servers

The executable of a command is found, its program started, and a client connected
to it.  A text is executable if its first line names an interpreter.
-/

namespace LanguageClient

/-!
## Server programs

A program that serves a session.  It sees what the client has written and the time, and
acts on the session in turn.
-/

inductive ServerProgram where
  | running (machine : Shell.Machine)
  | ended

namespace ServerProgram

def outlook (session : Session) : Outlook where
  held := session.client.pipe.held
  isClosed := session.client.pipe.isClosed
  takesBytes := session.takesBytes
  now := session.client.now
  files := session.client.files
  directory := session.client.directory

def closing (session : Session) : List Action :=
  if session.inbound.ending = .open then [.serverEnds .closed] else []

def release (session : Session) : List Action :=
  closing session ++ [.serverStopsReading]

def actions (session : Session) : Deed → List Action
  | .takes count => [.serverTakes count]
  | .writes bytes => [.serverWrites bytes]
  | .closesInput => [.serverStopsReading]
  | .closesOutput => closing session

/-- The turn of a program.  One whose process the client has ended just lets its
streams go. -/
def turn : ServerTurn ServerProgram := fun program session =>
  match program with
  | .ended => none
  | .running machine =>
      if session.client.server ≠ some .running then some (release session, .ended)
      else
        match machine.turn (outlook session) with
        | .waits => none
        | .goesOn deeds next => some (deeds.flatMap (actions session), .running next)
        | .ends deeds status =>
            some (deeds.flatMap (actions session) ++ release session ++ [.serverExits status],
              .ended)

def wakeTime? : ServerProgram → Option Nat
  | .running machine => machine.wakeTime?
  | .ended => none

end ServerProgram

/-! ## Launching -/

namespace ServerProgram

def isInterpreter (surroundings : Surroundings) (path : List Char) : Bool :=
  match Shell.utilityAt? path with
  | some name => name.isSome
  | none => surroundings.isExecutable ⟨Shell.bytesOf path⟩

def ofFile (surroundings : Surroundings) (path : Path) (file : FileTree)
    (arguments : List String) : Except FileError ServerProgram :=
  let fields := arguments.map fun argument => Shell.charactersOf (Text.Utf8.encode argument)
  let start := Shell.Machine.start surroundings.searchPath
  let place := Shell.charactersOf path.bytes
  if arguments.any fun argument => argument.toList.contains '\x00' then
    .error .nulByteInArgument
  else
    match file with
    | .program => .ok (.running (start place fields))
    | .file content _ =>
        match Shell.interpreter? content with
        | none => .error .execFormat
        | some (interpreter, options) =>
            if isInterpreter surroundings interpreter then
              .ok (.running (start interpreter (options ++ place :: fields)))
            else .error .notFound
    | .directory _ => .error .notFound

end ServerProgram

namespace Client

/-- The number of bytes that a pipe between two processes holds. -/
def pipeCapacity : Nat := 65536

/-- A client whose server has just been started from an executable. -/
def launched (options : ClientOptions) (surroundings : Surroundings) (executable : Path) : Client :=
  { connect options pipeCapacity surroundings.files surroundings.directory with
    family := .ofExecutable executable
    pipe := .empty pipeCapacity Pipe.outerFailure
    server := some .running }

end Client

def launch (surroundings : Surroundings) (command : String) (arguments : List String)
    (options : ClientOptions) : Except ClientError (Schedule ServerProgram) :=
  match surroundings.executable? command with
  | none => .error (.commandNotFound command)
  | some executable =>
      match surroundings.files.locate surroundings.directory executable with
      | .error _ => .error (.commandNotFound command)
      | .ok place =>
          match ServerProgram.ofFile surroundings executable place.tree arguments with
          | .error error => .error (.spawn command error)
          | .ok program =>
              let client := Client.launched options surroundings executable
              .ok { session := .connect client, server := program }

end LanguageClient
