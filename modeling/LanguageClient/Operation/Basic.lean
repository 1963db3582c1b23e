import LanguageClient.Operation.Answering
import LanguageClient.Operation.Closing
import LanguageClient.Operation.Initializing
import LanguageClient.Operation.Step

/-!
# Operations of a client

All that a client can be asked to do, and the answers it owes the server, each as
the stage it has come to.
-/

namespace LanguageClient

/-!
## Waiting for the server

The server is given some time, after which the connection has to be alive.
-/

inductive Waiting where
  | starting (milliseconds : Nat)
  | resting (wakeTime : Nat)
deriving DecidableEq, Repr

namespace Waiting

def step (client : Client) : Waiting → Step Waiting Unit
  | .starting milliseconds => .running client (.resting (client.now + milliseconds))
  | .resting wakeTime =>
      if client.now < wakeTime then .blocked
      else if client.calls.isClosed || client.state.isTerminal then
        .finished client (.error .connectionClosed)
      else .finished client (.ok ())

end Waiting

/-! ## Operations -/

inductive OperationValue where
  | nothing
  | json (value : Json)
  | count (value : Nat)
  | initialized (result : InitializeResult)
  | exited (status : Option ExitStatus)
deriving DecidableEq

abbrev OperationResult := Except ClientError OperationValue

inductive Operation where
  | openSession (stage : Initializing)
  | call (stage : Calling)
  | timedCall (stage : TimedCall)
  | notify (stage : Sending)
  | openFile (stage : Opening)
  | changeFile (stage : Changing)
  | closeFile (path : Path)
  | closeDocument (stage : ClosingDocument)
  | closeAll (stage : ClosingAll)
  | waitReady (stage : Waiting)
  | shutdown (stage : TimedCall)
  | exit (stage : Exiting)
  | close (stage : Closing)
  | preload (stage : Preloading)
  | answer (stage : Answering)

namespace Operation

def step (turn : Turn) (client : Client) : Operation → Step Operation OperationValue
  | .openSession stage => (stage.step turn client).map .openSession .initialized
  | .call stage => (stage.step turn client).map .call .json
  | .timedCall stage => (stage.step turn client).map .timedCall .json
  | .notify stage => (stage.step turn client).map .notify fun _ => .nothing
  | .openFile stage => (stage.step turn client).map .openFile fun _ => .nothing
  | .changeFile stage => (stage.step turn client).map .changeFile fun _ => .nothing
  | .closeFile path =>
      match Client.uriOf path with
      | .error error => .finished client (.error error)
      | .ok uri => .running client (.closeDocument (.starting uri false))
  | .closeDocument stage => (stage.step turn client).map .closeDocument fun _ => .nothing
  | .closeAll stage => (stage.step turn client).map .closeAll .count
  | .waitReady stage => (stage.step client).map .waitReady fun _ => .nothing
  | .shutdown stage => (stage.step turn client).map .shutdown fun _ => .nothing
  | .exit stage => (stage.step turn client).map .exit fun _ => .nothing
  | .close stage => (stage.step turn client).map .close .exited
  | .preload stage => (stage.step turn client).map .preload fun _ => .nothing
  | .answer stage => (stage.step turn client).map .answer fun _ => .nothing

/-- The client after an operation was given up: what it held is given back. -/
def abandon (task : TaskId) (client : Client) : Operation → Client
  | .openSession stage => stage.abandon task client
  | .call stage => stage.abandon task client
  | .timedCall stage => stage.abandon task client
  | .shutdown stage => stage.abandon task client
  | .notify stage => stage.abandon task client
  | .openFile stage => stage.abandon task client
  | .changeFile stage => stage.abandon task client
  | .closeFile _ | .waitReady _ => client
  | .closeDocument stage => stage.abandon task client
  | .closeAll stage => stage.abandon task client
  | .exit stage => stage.abandon task client
  | .close stage => stage.abandon task client
  | .preload stage => stage.abandon task client
  | .answer stage => stage.abandon task client

/-! ## Time -/

def wakeTime? : Operation → Option Nat
  | .openSession (.calling _ timed) => timed.deadline?
  | .timedCall timed | .shutdown timed => timed.deadline?
  | .exit timed => timed.deadline?
  | .waitReady (.resting wakeTime) => some wakeTime
  | .close (.closingFiles timed) => timed.deadline?
  | .close (.shuttingDown timed) => timed.deadline?
  | .close (.exiting timed) => timed.deadline?
  | .close (.closingInput timed) => timed.deadline?
  | .close (.awaiting deadline) => some deadline
  | .answer (.resting _ wakeTime _) => some wakeTime
  | _ => none

/-- Whether the next step of an operation works on files, which takes longer than
other steps. -/
def isSlow : Operation → Bool
  | .openFile (.reading _ _) | .changeFile (.reading _ _ _) => true
  | .openSession (.preloading _ (.finding _)) | .preload (.finding _) => true
  | .openSession (.preloading _ (.opening (.reading _ _) _))
  | .preload (.opening (.reading _ _) _) => true
  | .answer (.working _ (.editing progress)) => progress.outcome?.isNone
  | _ => false

end Operation

/-!
## Commands

What the users of a client ask of it.  A command begins an operation at its first
stage.
-/

inductive Command where
  | openSession (workspace : Path) (custom : Option Json.Members)
  | call (request : CallRequest)
  | timedCall (method : String) (params : Option Json) (limit : Nat)
  | notify (method : String) (params : Option Json)
  | openFile (path : Path)
  | changeFile (path : Path)
  | closeFile (path : Path)
  | closeAll
  | waitReady (milliseconds : Nat)
  | shutdown
  | exit
  | close
  | preload (family : ServerFamily) (workspace : Path)
deriving DecidableEq

namespace Command

def begin (client : Client) : Command → Operation
  | .openSession workspace custom => .openSession (.starting workspace custom)
  | .call request => .call (.starting request)
  | .timedCall method params limit => .timedCall (.start method params limit)
  | .notify method params => .notify (.start (.notification method params))
  | .openFile path => .openFile (.starting path)
  | .changeFile path => .changeFile (.starting path)
  | .closeFile path => .closeFile path
  | .closeAll => .closeAll .starting
  | .waitReady milliseconds => .waitReady (.starting milliseconds)
  | .shutdown => .shutdown (shutdownCall client)
  | .exit => .exit (.start client)
  | .close => .close .starting
  | .preload family workspace => .preload (.starting family workspace)

end Command

end LanguageClient
