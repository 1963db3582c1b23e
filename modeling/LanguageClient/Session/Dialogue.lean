import LanguageClient.Client.Basic
import LanguageClient.Server.Launch

/-!
# Dialogues

A session with a server program, whose user waits for the end of each operation
before the next.
-/

namespace LanguageClient

structure Dialogue where
  schedule : Schedule ServerProgram

inductive DialogueStep where
  | command (command : Command)
  /-- A call with a token, which may have been cancelled before. -/
  | cancellableCall (method : String) (params : Option Json) (isCancelled : Bool)
  | ask (query : ClientQuery)
  | changeFiles (change : FileTree → FileTree)
  | removeFile (path : Path)

inductive DialogueValue where
  | nothing
  | flag (value : Bool)
  | fact (fact : ClientFact)
  | result (result : OperationResult)
  /-- The operation never ends. -/
  | endless

namespace Dialogue

def session (dialogue : Dialogue) : Session := dialogue.schedule.session

def client (dialogue : Dialogue) : Client := dialogue.session.client

/-- Takes an action and lets everybody run. -/
def act (dialogue : Dialogue) (action : Action) : Dialogue :=
  ⟨dialogue.schedule.act ServerProgram.turn action⟩

/-- The next time at which something happens by itself. -/
def nextTime? (dialogue : Dialogue) : Option Nat :=
  let times := dialogue.session.tasks.filterMap (fun entry => entry.2.wakeTime?) ++
    dialogue.schedule.server.wakeTime?.toList
  (times.filter (dialogue.client.now < ·)).min?

/-- Lets time pass until a task has a result. -/
def await (task : TaskId) : (fuel : Nat) → Dialogue → DialogueValue × Dialogue
  | 0, dialogue => (.endless, dialogue)
  | fuel + 1, dialogue =>
      match dialogue.session.results.find? fun result => result.1 = task with
      | some result => (.result result.2, dialogue)
      | none =>
          match dialogue.nextTime? with
          | none => (.endless, dialogue)
          | some time => await task fuel (dialogue.act (.elapse (time - dialogue.client.now)))

def greatestWait : Nat := 100000

/-- Begins an operation and waits for its end. -/
def perform (dialogue : Dialogue) (command : Command) : DialogueValue × Dialogue :=
  await dialogue.session.nextTask greatestWait (dialogue.act (.start command))

def run (dialogue : Dialogue) : DialogueStep → DialogueValue × Dialogue
  | .command command => dialogue.perform command
  | .cancellableCall method params isCancelled =>
      let token := dialogue.session.nextTask
      let dialogue := if isCancelled then dialogue.act (.cancel token) else dialogue
      dialogue.perform (.call { method, params, token := some token })
  | .ask query => (.fact (dialogue.client.ask query), dialogue)
  | .changeFiles change =>
      (.nothing, dialogue.act (.changeFiles (change dialogue.client.files)))
  | .removeFile path =>
      let (removed, files) := dialogue.client.files.remove dialogue.client.directory path
      (.flag removed, dialogue.act (.changeFiles files))

end Dialogue

end LanguageClient
