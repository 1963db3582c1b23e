import LanguageClient.Client.Basic

/-!
# Steps of operations

An operation goes through stages, and each step takes it from one to the next or
to its result.  Between two steps of an operation others may take theirs.
-/

namespace LanguageClient

/-- The turn of a task: its number, and the greatest number of bytes it may write at
once, into the pipe or to a file. -/
structure Turn where
  task : TaskId
  portion : Nat
deriving DecidableEq, Repr

inductive Step (σ α : Type) where
  /-- It has to wait. -/
  | blocked
  /-- It goes on with a stage. -/
  | running (client : Client) (stage : σ)
  /-- It is over. -/
  | finished (client : Client) (result : Except ClientError α)

namespace Step

variable {σ τ α β : Type}

/-- The step of an operation as a step of one that it is a part of: the stages of
the part are stages of the whole, and its result leads on. -/
def lift (step : Step σ α) (stage : σ → τ) (next : Client → Except ClientError α → Step τ β) :
    Step τ β :=
  match step with
  | .blocked => .blocked
  | .running client inner => .running client (stage inner)
  | .finished client result => next client result

def map (step : Step σ α) (stage : σ → τ) (value : α → β) : Step τ β :=
  step.lift stage fun client result => .finished client (result.map value)

end Step

/-! ## Limits of time -/

/-- A part of an operation that has a limit of time: not yet begun, with the limit
in milliseconds, or on its way up to a deadline. -/
inductive Timed (σ : Type) where
  | waiting (limit : Nat) (stage : σ)
  | underway (deadline : Nat) (stage : σ)
deriving DecidableEq, Repr

namespace Timed

variable {σ α : Type}

/-- A step of the part.  Once its deadline has come it is given up where it has to
wait. -/
def step (inner : Client → σ → Step σ α) (abandon : Client → σ → Client) (error : ClientError)
    (client : Client) : Timed σ → Step (Timed σ) α
  | .waiting limit stage => .running client (.underway (client.now + limit) stage)
  | .underway deadline stage =>
      match inner client stage with
      | .blocked =>
          if deadline ≤ client.now then .finished (abandon client stage) (.error error)
          else .blocked
      | .running client stage => .running client (.underway deadline stage)
      | .finished client result => .finished client result

def stage : Timed σ → σ
  | .waiting _ stage | .underway _ stage => stage

def deadline? : Timed σ → Option Nat
  | .waiting _ _ => none
  | .underway deadline _ => some deadline

end Timed

end LanguageClient
