import LanguageClient.Operation.Sending

/-!
# Answering requests of the server

What is left of a request when its handler has been called: the rest of the work,
and the sending of the answer under the identifier of the request.
-/

namespace LanguageClient

inductive Answering where
  | working (id : Json) (work : RequestWork)
  /-- The answer is held back up to a time. -/
  | resting (id : Json) (wakeTime : Nat) (answer : Answer)
  | sending (frame : Sending)

namespace Answering

def reply (id : Json) (answer : Answer) : Answering :=
  .sending (.start (.response id answer))

def step (turn : Turn) (client : Client) : Answering → Step Answering Unit
  | .working id (.answered answer) => .running client (reply id answer)
  | .working id (.delayed milliseconds answer) =>
      .running client (.resting id (client.now + milliseconds) answer)
  | .working id (.editing progress) =>
      match progress.outcome? with
      | some outcome => .running client (reply id (.ok (WorkspaceEdit.resultOf outcome)))
      | none =>
          let (progress, files) := progress.step (some turn.portion) client.files
          .running { client with files } (.working id (.editing progress))
  | .resting id wakeTime answer =>
      if wakeTime ≤ client.now then .running client (reply id answer) else .blocked
  | .sending frame => (frame.step turn client).map .sending id

def abandon (task : TaskId) (client : Client) : Answering → Client
  | .working _ _ | .resting _ _ _ => client
  | .sending frame => frame.abandon task client

end Answering

end LanguageClient
