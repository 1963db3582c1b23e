import LanguageClient.Operation.Calling
import LanguageClient.Operation.Documents

/-!
# Closing a client

The steps of closing a client.  Each has a limit of time, and none stops those
behind it.
-/

namespace LanguageClient

/-! ## The last messages -/

def shutdownCall (client : Client) : TimedCall :=
  .start "shutdown" none client.options.limits.shutdownRequest

abbrev Exiting := Timed Sending

namespace Exiting

def start (client : Client) : Exiting :=
  .waiting client.options.limits.exitNotification (.start (.notification "exit" none))

def step (turn : Turn) (client : Client) (exiting : Exiting) : Step Exiting Unit :=
  Timed.step (Sending.step turn) (Sending.abandon turn.task) (.timedOut "exit") client exiting

def abandon (task : TaskId) (client : Client) (exiting : Exiting) : Client :=
  exiting.stage.abandon task client

end Exiting

/-! ## Closing the stream -/

inductive ClosingInput where
  | asking
  | queued
deriving DecidableEq, Repr

namespace ClosingInput

/-- A step of closing the stream; nothing can be written afterwards. -/
def step (turn : Turn) (client : Client) : ClosingInput → Step ClosingInput Unit
  | .asking => .running (client.askWriter turn.task) .queued
  | .queued =>
      if client.writer.isHeldBy turn.task then
        let client := client.releaseWriter turn.task
        if client.isInputOpen then
          .finished { client with isInputOpen := false, pipe := client.pipe.close } (.ok ())
        else .finished client (.ok ())
      else .blocked

def abandon (task : TaskId) (client : Client) (_ : ClosingInput) : Client :=
  client.releaseWriter task

end ClosingInput

/-! ## The whole -/

inductive Closing where
  | starting
  | closingFiles (files : Timed ClosingAll)
  | shuttingDown (call : TimedCall)
  | exiting (notice : Exiting)
  | closingInput (input : Timed ClosingInput)
  /-- The client takes charge of the process of the server. -/
  | reaping
  /-- The process may end by itself up to a deadline. -/
  | awaiting (deadline : Nat)
  | settling (status : Option ExitStatus)
deriving DecidableEq

namespace Closing

/-- A step of closing a client.  Only the first one to begin gets beyond the first
step. -/
def step (turn : Turn) (client : Client) : Closing → Step Closing (Option ExitStatus)
  | .starting =>
      if client.state.isClosing then .finished client (.error .alreadyClosed)
      else
        .running { client with state := .shuttingDown }
          (.closingFiles (.waiting client.options.limits.closeFiles .starting))
  | .closingFiles files =>
      let step := Timed.step (ClosingAll.step turn) (ClosingAll.abandon turn.task)
        (.timedOut "textDocument/didClose") client files
      step.lift .closingFiles fun client _ => .running client (.shuttingDown (shutdownCall client))
  | .shuttingDown call =>
      (call.step turn client).lift .shuttingDown fun client _ =>
        .running client (.exiting (.start client))
  | .exiting notice =>
      (notice.step turn client).lift .exiting fun client _ =>
        .running client (.closingInput (.waiting client.options.limits.exitNotification .asking))
  | .closingInput input =>
      let step := Timed.step (ClosingInput.step turn) (ClosingInput.abandon turn.task)
        (.timedOut "exit") client input
      step.lift .closingInput fun client _ => .running client .reaping
  | .reaping =>
      match client.server with
      | none => .running client (.settling none)
      | some _ => .running client (.awaiting (client.now + client.options.limits.exitGrace))
  | .awaiting deadline =>
      match client.server with
      | none => .running client (.settling none)
      | some (.ended status) => .running client (.settling (some status))
      | some .running =>
          if deadline ≤ client.now then
            let status := ExitStatus.signalled .kill
            .running { client with server := some (.ended status) } (.settling (some status))
          else .blocked
  | .settling status => .finished { client with state := .closed } (.ok status)

/-- Gives up; the state stays as it is. -/
def abandon (task : TaskId) (client : Client) : Closing → Client
  | .starting | .reaping | .awaiting _ | .settling _ => client
  | .closingFiles files => files.stage.abandon task client
  | .shuttingDown call => call.abandon task client
  | .exiting notice => notice.abandon task client
  | .closingInput input => input.stage.abandon task client

end Closing

end LanguageClient
