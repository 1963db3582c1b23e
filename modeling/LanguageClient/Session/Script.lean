import LanguageClient.Client.Basic
import LanguageClient.Session.Schedule

/-!
# Scripts

A session led step by step from outside, with an entry for each step: what was
done, what the server received, what ended and what the handlers recorded.
-/

namespace LanguageClient

inductive ScriptStep where
  /-- Begins an operation. -/
  | command (command : Command)
  /-- Begins a call with a token, which may have been cancelled before. -/
  | cancellableCall (method : String) (params : Option Json) (isCancelled : Bool)
  /-- The server writes frames. -/
  | send (frames : List Json)
  /-- The server writes any bytes, up to a failure if there is one. -/
  | sendBytes (stream : ByteStream)
  | endOutput
  | stopReading
  | startReading
  | advance (milliseconds : Nat)
  /-- Cancels the token of the call that a step began. -/
  | cancel (step : Nat)
  /-- Gives up the operation that a step began. -/
  | abandon (step : Nat)
  | onNotification (method : String) (handler : NotificationHandler)
  | onRequest (method : String) (handler : RequestHandler)
  | ask (query : ClientQuery)
  | changeFiles (change : FileTree → FileTree)
  | removeFile (path : Path)

/-- What a step gives by itself. -/
inductive ScriptValue where
  | nothing
  | flag (value : Bool)
  | fact (fact : ClientFact)

inductive Received where
  | frame (value : Json)
  | error (error : FrameError)
  /-- The client has closed the stream. -/
  | finished
deriving DecidableEq

structure ScriptEntry where
  state : Lifecycle
  received : List Received
  /-- The operations that have ended, by the step that began them. -/
  ended : List (Nat × OperationResult)
  records : List (Json × Option Json)
  value : Option ScriptValue

/-! ## The server -/

/-- What a server makes of the bytes it receives, the bytes that are left of a frame that
is not whole, and whether it reads on: at the first error it does not. -/
def Received.decode : (fuel : Nat) → ByteStream → List Received × List UInt8 × Bool
  | 0, stream => ([], stream.bytes, true)
  | fuel + 1, stream =>
      match Frame.read stream with
      | .frame value rest =>
          let (received, left, readsOn) := decode fuel ⟨rest, stream.ending⟩
          (.frame value :: received, left, readsOn)
      | .malformed fault _ | .fatal fault => ([.error fault], [], false)
      | .finished => ([.finished], [], false)
      | .blocked => ([], stream.bytes, true)

/-- A server that does nothing but read, or not even that. -/
structure Listener where
  isReading : Bool
  /-- The bytes that it has taken of a frame that is not whole yet. -/
  taken : List UInt8 := []
  received : List Received := []
deriving DecidableEq

/-- The turn of such a server: it takes all that is in the pipe.  Behind the end of what
it receives, or behind an error, it goes. -/
def Listener.turn : ServerTurn Listener := fun listener session =>
  let pipe := session.client.pipe
  if listener.isReading && !pipe.isBroken && (pipe.isClosed || !pipe.held.isEmpty) then
    let bytes := listener.taken ++ pipe.held
    let (received, taken, readsOn) :=
      Received.decode (bytes.length + 1) ⟨bytes, if pipe.isClosed then .closed else .open⟩
    some
      (.serverTakes pipe.held.length :: (if readsOn then [] else [.serverStopsReading]),
        { listener with taken, received := listener.received ++ received })
  else none

structure Script where
  schedule : Schedule Listener
  /-- The number of the next step. -/
  next : Nat
  /-- The steps that began operations, with their tasks. -/
  begun : List (Nat × TaskId)
  /-- How much of what the server has received, of the results and of the records
  entries have shown. -/
  shownReceived : Nat := 0
  shownResults : Nat := 0
  shownRecords : Nat := 0

namespace Script

def start (client : Client) (isReading : Bool) : Script where
  schedule := { session := .connect client, server := { isReading } }
  next := 0
  begun := []

def session (script : Script) : Session := script.schedule.session

def client (script : Script) : Client := script.session.client

/-- Takes an action and lets everybody run. -/
def act (script : Script) (action : Action) : Script :=
  { script with schedule := script.schedule.act Listener.turn action }

def taskOf? (script : Script) (step : Nat) : Option TaskId :=
  (script.begun.find? fun entry => entry.1 = step).map Prod.snd

def begin (script : Script) (command : Command) : Script :=
  { script with begun := script.begun ++ [(script.next, script.session.nextTask)] }.act
    (.start command)

/-- The server writes bytes; tells whether they could be written. -/
def write (script : Script) (bytes : List UInt8) : Bool × Script :=
  (script.session.takesBytes, script.act (.serverWrites bytes))

def perform (script : Script) : ScriptStep → Option ScriptValue × Script
  | .command command => (none, script.begin command)
  | .cancellableCall method params isCancelled =>
      let script := if isCancelled then script.act (.cancel script.next) else script
      (none, script.begin (.call { method, params, token := some script.next }))
  | .send frames =>
      let (written, script) := script.write (frames.flatMap Frame.encode)
      (some (.flag written), script)
  | .sendBytes stream =>
      let (written, script) := script.write stream.bytes
      match stream.ending with
      | .failed message => (some (.flag written), script.act (.serverEnds (.failed message)))
      | _ => (some (.flag written), script)
  | .endOutput => (none, script.act (.serverEnds .closed))
  | .stopReading => (none, script.act .serverStopsReading)
  | .startReading =>
      let server := { script.schedule.server with isReading := true }
      (none, { script with schedule := { script.schedule with server } }.act (.elapse 0))
  | .advance milliseconds =>
      (none, { script with schedule := script.schedule.pass Listener.turn milliseconds })
  | .cancel step => (none, script.act (.cancel step))
  | .abandon step =>
      match script.taskOf? step with
      | some task => (none, script.act (.abandon task))
      | none => (none, script)
  | .onNotification method handler =>
      (none, script.act (.registerNotification method handler))
  | .onRequest method handler => (none, script.act (.registerRequest method handler))
  | .ask query => (some (.fact (script.client.ask query)), script)
  | .changeFiles change =>
      (some .nothing, script.act (.changeFiles (change script.client.files)))
  | .removeFile path =>
      let (removed, files) := script.client.files.remove script.client.directory path
      (some (.flag removed), script.act (.changeFiles files))

/-! ## Entries -/

def closedDocument? : Received → Option String
  | .frame value =>
      if value.member? "method" = some (.string "textDocument/didClose") then
        (value.member? "params").bind fun params =>
          (params.member? "textDocument").bind fun document =>
            (document.member? "uri").bind Json.string?
      else none
  | _ => none

/-- Puts the notices of closed documents in the order of their URIs wherever they
follow each other, since their order means nothing.  Those in front of the rest are
kept apart until another frame comes. -/
def sortClosed (closed : List (String × Received)) : List Received → List Received
  | [] => (closed.mergeSort fun a b => !(b.1 < a.1)).map Prod.snd
  | received :: rest =>
      match closedDocument? received with
      | some uri => sortClosed (closed ++ [(uri, received)]) rest
      | none =>
          (closed.mergeSort fun a b => !(b.1 < a.1)).map Prod.snd ++
            received :: sortClosed [] rest

/-- The entry for what has happened since the last one. -/
def entry (script : Script) (value : Option ScriptValue) : ScriptEntry × Script :=
  let received := script.schedule.server.received
  let results := script.session.results.take (script.session.results.length - script.shownResults)
  let ended := script.begun.filterMap fun (step, task) =>
    (results.find? fun result => result.1 = task).map fun result => (step, result.2)
  let records := script.session.records.take (script.session.records.length - script.shownRecords)
  ({ state := script.client.state
     received := sortClosed [] (received.drop script.shownReceived)
     ended, records := records.reverse, value },
    { script with
      shownReceived := received.length
      shownResults := script.session.results.length
      shownRecords := script.session.records.length })

def run (script : Script) (step : ScriptStep) : ScriptEntry × Script :=
  let (value, script) := script.perform step
  let (entry, script) := script.entry value
  (entry, { script with next := script.next + 1 })

end Script

end LanguageClient
