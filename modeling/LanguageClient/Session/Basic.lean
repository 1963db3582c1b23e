import LanguageClient.Frame.Reader
import LanguageClient.Operation.Basic

/-!
# Sessions

A client with the operations under way, the stream of bytes from the server and
the loop that reads it.  Everything that happens to a session is one of its
actions; between two actions of an operation any others may come.
-/

namespace LanguageClient

inductive ReadLoop where
  | reading
  /-- The stream has ended. -/
  | lost (reason : String)
  /-- The calls that waited have been told. -/
  | leaving (reason : String)
  | finished
deriving DecidableEq, Repr

structure Session where
  client : Client
  /-- The bytes of the server that were not read yet. -/
  inbound : ByteStream
  loop : ReadLoop
  /-- The operations under way, the oldest first. -/
  tasks : List (TaskId × Operation)
  /-- The results of the operations that are over, the latest first. -/
  results : List (TaskId × OperationResult)
  nextTask : TaskId
  /-- What handlers have recorded, the latest first. -/
  records : List (Json × Option Json)

inductive Action where
  /-- A user of the client begins an operation. -/
  | start (command : Command)
  /-- An operation takes a step, in which it writes no more than some bytes: a file whose text
  needs more cannot be replaced. -/
  | advance (task : TaskId) (portion : Nat)
  /-- The user of an operation gives it up. -/
  | abandon (task : TaskId)
  /-- The read loop takes a step. -/
  | read
  | cancel (token : TokenId)
  | registerNotification (method : String) (handler : NotificationHandler)
  | registerRequest (method : String) (handler : RequestHandler)
  /-- The server takes bytes out of the pipe. -/
  | serverTakes (count : Nat)
  /-- The server writes bytes. -/
  | serverWrites (bytes : List UInt8)
  /-- The stream from the server ends. -/
  | serverEnds (ending : StreamEnd)
  /-- The server closes the stream from the client. -/
  | serverStopsReading
  /-- The process of the server ends. -/
  | serverExits (status : ExitStatus)
  | elapse (milliseconds : Nat)
  /-- Somebody else changes files. -/
  | changeFiles (files : FileTree)

namespace Session

def connect (client : Client) : Session where
  client := client
  inbound := ⟨[], .open⟩
  loop := .reading
  tasks := []
  results := []
  nextTask := 0
  records := []

/-! ## Tasks -/

def task? (session : Session) (task : TaskId) : Option Operation :=
  (session.tasks.find? fun entry => entry.1 = task).map Prod.snd

/-- Adds a task behind the others. -/
def spawn (session : Session) (operation : Operation) : Session :=
  { session with
    tasks := session.tasks ++ [(session.nextTask, operation)]
    nextTask := session.nextTask + 1 }

def setTask (session : Session) (task : TaskId) (operation : Operation) : Session :=
  { session with
    tasks := session.tasks.map fun entry =>
      if entry.1 = task then (task, operation) else entry }

def dropTask (session : Session) (task : TaskId) : Session :=
  { session with tasks := session.tasks.filter fun entry => entry.1 ≠ task }

def taskStep (session : Session) (task : TaskId) (portion : Nat) :
    Step Operation OperationValue :=
  match session.task? task with
  | none => .blocked
  | some operation => operation.step ⟨task, portion⟩ session.client

def advance (session : Session) (task : TaskId) (portion : Nat) : Option Session :=
  match session.taskStep task portion with
  | .blocked => none
  | .running client operation => some ({ session with client }.setTask task operation)
  | .finished client result =>
      some { { session with client }.dropTask task with
        results := (task, result) :: session.results }

/-- Gives a task up.  The answers owed to the server are nobody's to give up. -/
def abandon (session : Session) (task : TaskId) : Option Session :=
  match session.task? task with
  | none | some (.answer _) => none
  | some operation =>
      some { session.dropTask task with client := operation.abandon task session.client }

/-! ## Reading -/

def endReason : String := "language server closed its output"

/-- Delivers the answer to a call.  One that nobody waits for is dropped. -/
def deliver (session : Session) (id : Json) (answer : Answer) : Session :=
  match id.nat? with
  | none => session
  | some id =>
      { session with
        client := { session.client with calls := (session.client.calls.complete id answer).2 } }

/-- The work on a request of the server: that of the handler of its method, or the
error that there is none. -/
def requestWork (session : Session) (method : String) (params : Option Json) : RequestWork :=
  match session.client.handlers.request? method with
  | some handler => handler.start params
  | none => .answered (.error (.methodNotFound method))

/-- Calls the handler of a request; the answer is a task of its own. -/
def handleRequest (session : Session) (id : Json) (method : String) (params : Option Json) :
    Session :=
  let tag := (session.client.handlers.request? method).bind RequestHandler.tag?
  let records := (tag.map fun tag => (tag, params)).toList ++ session.records
  { session with records }.spawn (.answer (.working id (session.requestWork method params)))

/-- Calls the handler of a notification; without one, or when it fails, nothing
happens. -/
def handleNotification (session : Session) (method : String) (params : Option Json) : Session :=
  match session.client.handlers.notification? method with
  | none => session
  | some handler =>
      match handler.handle session.client.diagnostics params with
      | .error _ | .ok (.logged _ _) => session
      | .ok (.published diagnostics) =>
          { session with client := { session.client with diagnostics } }
      | .ok (.recorded tag params _) =>
          { session with records := (tag, params) :: session.records }

/-- Acts on a frame of the server; a frame that is no message has no effect. -/
def dispatch (session : Session) (frame : Json) : Session :=
  match Incoming.ofJson? frame with
  | none => session
  | some (.response id answer) => session.deliver id answer
  | some (.request id method params) => session.handleRequest id method params
  | some (.notification method params) => session.handleNotification method params

/-- A step of the read loop; `none` if it has to wait or is over. -/
def readStep (session : Session) : Option Session :=
  match session.loop with
  | .reading =>
      let pass (rest : List UInt8) := { session with inbound := ⟨rest, session.inbound.ending⟩ }
      match Frame.read session.inbound with
      | .frame value rest => some ((pass rest).dispatch value)
      | .malformed _ rest => some (pass rest)
      | .fatal error => some { session with loop := .lost error.message }
      | .finished => some { session with loop := .lost endReason }
      | .blocked => none
  | .lost reason =>
      some { session with
        loop := .leaving reason
        client := { session.client with calls := session.client.calls.close.2 } }
  | .leaving reason =>
      some { session with
        loop := .finished
        client := { session.client with state := session.client.state.lose reason } }
  | .finished => none

def takesBytes (session : Session) : Bool :=
  session.loop = .reading && session.inbound.ending = .open

/-! ## Actions -/

/-- The session after an action; `none` if the action cannot happen. -/
def apply (session : Session) : Action → Option Session
  | .start command => some (session.spawn (command.begin session.client))
  | .advance task portion => session.advance task portion
  | .abandon task => session.abandon task
  | .read => session.readStep
  | .cancel token =>
      some { session with
        client := { session.client with cancelled := token :: session.client.cancelled } }
  | .registerNotification method handler =>
      some { session with
        client := { session.client with
          handlers := session.client.handlers.registerNotification method handler } }
  | .registerRequest method handler =>
      some { session with
        client := { session.client with
          handlers := session.client.handlers.registerRequest method handler } }
  | .serverTakes count =>
      if session.client.pipe.isBroken then none
      else
        some { session with
          client := { session.client with pipe := session.client.pipe.take count } }
  | .serverWrites bytes =>
      if session.takesBytes then
        some { session with
          inbound := { session.inbound with bytes := session.inbound.bytes ++ bytes } }
      else none
  | .serverEnds ending =>
      if session.inbound.ending = .open then
        some { session with inbound := { session.inbound with ending } }
      else none
  | .serverStopsReading =>
      some { session with client := { session.client with pipe := session.client.pipe.abandon } }
  | .serverExits status =>
      match session.client.server with
      | some .running =>
          some { session with client := { session.client with server := some (.ended status) } }
      | _ => none
  | .elapse milliseconds =>
      some { session with
        client := { session.client with now := session.client.now + milliseconds } }
  | .changeFiles files => some { session with client := { session.client with files } }

/-- The session after several actions; `none` if one of them cannot happen. -/
def run (session : Session) (actions : List Action) : Option Session :=
  actions.foldlM Session.apply session

end Session

end LanguageClient
