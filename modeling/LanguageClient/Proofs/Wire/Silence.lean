import LanguageClient.Proofs.Operation.Message
import LanguageClient.Proofs.Wire.Log

/-!
# Tasks that do not write

An operation may end before it has asked for the writer.  A task whose operation does
has no frame on the stream, whatever comes before and behind.
-/

namespace LanguageClient

/-- Whether a task has never waited for the writer in a run. -/
def IsSilent (past : List Transition) (task : TaskId) : Prop :=
  ∀ transition, transition ∈ past → transition.before.use task = .apart

private theorem IsSilent.concat
    {past : List Transition} {task : TaskId} (silent : IsSilent past task)
    {latest : Transition} (apart : latest.before.use task = .apart) :
    IsSilent (past ++ [latest]) task := by
  intro transition member
  rcases List.mem_append.mp member with earlier | isLatest
  · exact silent transition earlier
  · rw [List.mem_singleton.mp isLatest]
    exact apart

theorem IsSilent.not_mem_wireLog
    {past : List Transition} {task : TaskId} (silent : IsSilent past task) {segment : Segment}
    (member : segment ∈ wireLog past) : segment.task ≠ task := by
  rintro rfl
  obtain ⟨transition, inPast, message, waits⟩ := exists_waiting_of_mem_wireLog member
  exact nomatch (silent transition inPast).symm.trans waits

/-- Operations at stages in front of the first use of the writer, to which no operation
comes back from a later one. -/
structure AreEarly (early : Operation → Bool) : Prop where
  apart : ∀ operation, early operation = true → operation.use = .apart
  steps : ∀ turn client operation, (Operation.step turn client operation).Keeps fun next =>
    early next = true → early operation = true

section Early

variable {early : Operation → Bool} {client : Client} {session after : Session}
  {past : List Transition} {task : TaskId}

private theorem early_before
    (areEarly : AreEarly early) {action : Action} (effect : Session.Effect session action after)
    (fresh : session.HasFreshTask) (isEarly : after.view early false task = true) :
    session.view early false task = true ∨ session.nextTask ≤ task := by
  obtain ⟨next, found, nextEarly⟩ := Session.found_of_view isEarly nofun
  cases effect.origin fresh found with
  | kept same => exact Or.inl ((Session.view_of_found same).trans nextEarly)
  | begun command isAction new => exact Or.inr new
  | asked id work new => exact Or.inr new
  | @stepped portion operation next client isAction before step =>
      have keeps := areEarly.steps ⟨task, portion⟩ session.client operation
      rw [step] at keeps
      exact Or.inl ((Session.view_of_found before).trans (keeps nextEarly))

private theorem use_of_early
    (areEarly : AreEarly early) (isEarly : session.view early false task = true) :
    session.use task = .apart := by
  obtain ⟨operation, found, operationEarly⟩ := Session.found_of_view isEarly nofun
  exact (Session.view_of_found found).trans (areEarly.apart operation operationEarly)

def Transition.EndsEarly (early : Operation → Bool) (transition : Transition) (task : TaskId) :
    Prop :=
  transition.before.view early false task = true ∧ transition.after.task? task = none

/-- Tasks that have no number yet, that are at an early stage, or that ended at one, have
never waited for the writer. -/
private structure SilenceInvariant
    (early : Operation → Bool) (past : List Transition) (session : Session) : Prop where
  unborn : ∀ task, session.nextTask ≤ task → IsSilent past task
  unsent : ∀ task, session.view early false task = true → IsSilent past task
  ended : ∀ transition, transition ∈ past → ∀ task, transition.EndsEarly early task →
    session.task? task = none ∧ task < session.nextTask ∧ IsSilent past task

private theorem Run.silenceInvariant
    (areEarly : AreEarly early) (run : Run (Session.connect client) past session) :
    SilenceInvariant early past session := by
  induction run with
  | refl =>
      have silent (task : TaskId) : IsSilent [] task := fun _ member => nomatch member
      exact ⟨fun task _ => silent task, fun task _ => silent task, fun _ member => nomatch member⟩
  | @step past session after action run applied invariant =>
      have effect := Session.effect_of_apply applied
      have fresh := run.hasFreshTask
      have unbornApart (task : TaskId) (new : session.nextTask ≤ task) :
          session.use task = .apart :=
        Session.view_of_absent (fresh.task?_of_le new)
      constructor
      · intro task new
        have newBefore := effect.nextTask_le.trans new
        exact (invariant.unborn task newBefore).concat (unbornApart task newBefore)
      · intro task isEarly
        rcases early_before areEarly effect fresh isEarly with before | new
        · exact (invariant.unsent task before).concat (use_of_early areEarly before)
        · exact (invariant.unborn task new).concat (unbornApart task new)
      · intro transition member task endsEarly
        rcases List.mem_append.mp member with earlier | isLatest
        · obtain ⟨ended, old, silent⟩ := invariant.ended transition earlier task endsEarly
          exact ⟨effect.task?_of_over fresh ended old, old.trans_le effect.nextTask_le,
            silent.concat (Session.view_of_absent ended)⟩
        · obtain rfl := List.mem_singleton.mp isLatest
          obtain ⟨isEarly, ended⟩ := endsEarly
          obtain ⟨operation, found, _⟩ := Session.found_of_view isEarly nofun
          exact ⟨ended, (fresh.lt found).trans_le effect.nextTask_le,
            (invariant.unsent task isEarly).concat (use_of_early areEarly isEarly)⟩

/-- A task that is at an early stage has no frame on the stream. -/
theorem Run.isSilent_of_early
    (areEarly : AreEarly early) (run : Run (Session.connect client) past session)
    (isEarly : session.view early false task = true) : IsSilent past task :=
  (run.silenceInvariant areEarly).unsent task isEarly

/-- A task whose operation ended at an early stage has no frame on the stream. -/
theorem Run.isSilent_of_endsEarly
    (areEarly : AreEarly early) (run : Run (Session.connect client) past session)
    {transition : Transition} (member : transition ∈ past)
    (endsEarly : transition.EndsEarly early task) : IsSilent past task :=
  ((run.silenceInvariant areEarly).ended transition member task endsEarly).2.2

end Early

end LanguageClient
