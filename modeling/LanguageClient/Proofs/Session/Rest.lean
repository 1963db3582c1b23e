import LanguageClient.Proofs.Operation.Blocked
import LanguageClient.Proofs.Wire.Log

/-!
# Sessions at rest

A session is at rest when nobody on the side of the client can take a step: it goes on
only when time passes, the server does something, or a user does.  Whoever waits for the
writer then waits for a task that finds the pipe full in the middle of its frame.
-/

namespace LanguageClient

namespace Session

/-- No operation can take a step, nor can the read loop. -/
structure IsAtRest (session : Session) : Prop where
  tasks : ∀ task portion, session.apply (.advance task portion) = none
  loop : session.apply .read = none

namespace IsAtRest

variable {session : Session}

theorem step_eq_blocked
    (atRest : session.IsAtRest) {task : TaskId} {operation : Operation}
    (found : session.task? task = some operation) (portion : Nat) :
    operation.step ⟨task, portion⟩ session.client = .blocked := by
  have noStep := atRest.tasks task portion
  simp only [apply, advance, taskStep, found] at noStep
  split at noStep
  · assumption
  · cases noStep
  · cases noStep

/-- The read loop waits for the server, or it is over. -/
theorem reading_or_finished (atRest : session.IsAtRest) :
    session.loop = .reading ∧ Frame.read session.inbound = .blocked ∨
      session.loop = .finished := by
  have noStep := atRest.loop
  simp only [apply, readStep] at noStep
  split at noStep
  · rename_i reading
    cases read : Frame.read session.inbound with
    | blocked => exact Or.inl ⟨reading, rfl⟩
    | _ => simp only [read, reduceCtorEq] at noStep
  · cases noStep
  · cases noStep
  · rename_i finished
    exact Or.inr finished

/-- A session with a single operation is at rest when this operation has to wait. -/
theorem of_tasks
    {task : TaskId} {operation : Operation} (tasks : session.tasks = [(task, operation)])
    (blocked : ∀ portion, operation.step ⟨task, portion⟩ session.client = .blocked)
    (noRead : session.readStep = none) : session.IsAtRest := by
  refine ⟨fun other portion => ?_, noRead⟩
  by_cases same : task = other
  · subst same
    simp [apply, advance, taskStep, task?, tasks, blocked]
  · simp [apply, advance, taskStep, task?, tasks, same]

end IsAtRest

end Session

/-- At rest a task that uses the writer is held up by one that has filled the pipe in the
middle of its frame. -/
theorem Run.exists_stalled_of_isAtRest
    {client : Client} {session : Session} {past : List Transition}
    (run : Run (Session.connect client) past session) (fresh : client.HasFreshOutlet)
    (atRest : session.IsAtRest) {task : TaskId} (uses : session.use task ≠ .apart) :
    session.client.pipe.isBroken = false ∧ session.client.pipe.room = 0 ∧
      ∃ holder message rest, session.use holder = .writing message rest ∧ rest ≠ [] := by
  have invariant := run.wireInvariant fresh
  cases queue : session.client.writer.queue with
  | nil =>
      have queued := (invariant.queued task).mpr uses
      have noQueue : session.client.outlet.writer.queue = [] := queue
      simp [noQueue] at queued
  | cons first others =>
      -- The first in the queue holds the writer, so that only the pipe can hold it up.
      obtain ⟨holder, mode⟩ := first
      have wholeQueue : session.client.outlet.writer.queue = (holder, mode) :: others := queue
      have alone : mode = .exclusive := invariant.alone (holder, mode) (by simp [wholeQueue])
      subst alone
      have led : session.client.outlet.writer.IsLedBy holder := ⟨others, wholeQueue⟩
      have holderUses : session.use holder ≠ .apart :=
        (invariant.queued holder).mp (by simp [wholeQueue])
      obtain ⟨operation, found, sameUse⟩ := Session.found_of_view rfl holderUses
      have heldUp := Operation.isHeldUp_of_blocked (atRest.step_eq_blocked found 0)
      rw [sameUse] at heldUp
      change (session.use holder).IsHeldUp holder session.client.outlet at heldUp
      cases use : session.use holder with
      | apart => exact absurd use holderUses
      | waiting message =>
          rw [use] at heldUp
          exact absurd (heldUp.symm.trans led.isHeldBy) Bool.false_ne_true
      | closing =>
          rw [use] at heldUp
          exact absurd (heldUp.symm.trans led.isHeldBy) Bool.false_ne_true
      | writing message rest =>
          rw [use] at heldUp
          obtain ⟨unfinished, unbroken, full⟩ := heldUp
          exact ⟨unbroken, full, holder, message, rest, use, unfinished⟩

end LanguageClient
