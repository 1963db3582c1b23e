import LanguageClient.Frame.Writer
import LanguageClient.Message.Basic
import LanguageClient.Operation.Step

/-!
# Sending a frame

A sender waits for the writer, then writes its frame, as much at a time as the
pipe takes, and gives the writer back.
-/

namespace LanguageClient

def Outgoing.frame (message : Outgoing) : List UInt8 := Frame.encode message.toJson

inductive Sending where
  /-- The writer has not been asked for. -/
  | asking (message : Outgoing)
  /-- The sender is in the queue of the writer. -/
  | queued (message : Outgoing)
  /-- The sender holds the writer; some bytes are still to be written. -/
  | writing (message : Outgoing) (rest : List UInt8)
deriving DecidableEq

namespace Sending

def start (message : Outgoing) : Sending := .asking message

def step (turn : Turn) (client : Client) : Sending → Step Sending Unit
  | .asking message => .running (client.askWriter turn.task) (.queued message)
  | .queued message =>
      if client.writer.isHeldBy turn.task then
        if client.isInputOpen then .running client (.writing message message.frame)
        else .finished (client.releaseWriter turn.task) (.error .connectionClosed)
      else .blocked
  | .writing _ [] => .finished (client.releaseWriter turn.task) (.ok ())
  | .writing message rest =>
      if client.pipe.isBroken then
        .finished (client.releaseWriter turn.task) (.error (.frame (.io client.pipe.failure)))
      else
        let count := min (max 1 turn.portion) client.pipe.room
        if count = 0 then .blocked
        else
          .running { client with pipe := client.pipe.put (rest.take count) }
            (.writing message (rest.drop count))

/-- Gives up: the writer is given back, whatever part of the frame was written. -/
def abandon (task : TaskId) (client : Client) (_ : Sending) : Client :=
  client.releaseWriter task

end Sending

end LanguageClient
