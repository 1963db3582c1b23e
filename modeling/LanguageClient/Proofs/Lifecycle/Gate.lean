import LanguageClient.Proofs.Lifecycle.Course
import LanguageClient.Proofs.Session.Phase

/-!
# The one that closes

One task at most gets beyond the first stage of closing the client, and it got there by
passing the gate.
-/

namespace LanguageClient

def Transition.closer? (transition : Transition) : Option TaskId :=
  if transition.passesGate then transition.action.task? else none

def closers (past : List Transition) : List TaskId :=
  past.filterMap Transition.closer?

theorem mem_closers_concat {past : List Transition} {transition : Transition} {task : TaskId} :
    task ∈ closers (past ++ [transition]) ↔
      task ∈ closers past ∨ transition.closer? = some task := by
  simp [closers]

theorem closers_subset (earlier later : List Transition) :
    closers earlier ⊆ closers (earlier ++ later) := by
  unfold closers
  rw [List.filterMap_append]
  exact List.subset_append_left _ _

theorem Transition.closer?_eq_some_iff {transition : Transition} {task : TaskId} :
    transition.closer? = some task ↔
      transition.passesGate = true ∧ transition.action.task? = some task := by
  unfold closer?
  cases transition.passesGate <;> simp

theorem mem_closers_iff {past : List Transition} {task : TaskId} :
    task ∈ closers past ↔
      ∃ gate, gate ∈ past ∧ gate.passesGate = true ∧ gate.action.task? = some task := by
  simp only [closers, List.mem_filterMap, Transition.closer?_eq_some_iff]

/-- What becomes the closing of a client was it before. -/
theorem Operation.close_of_step_running
    {turn : Turn} {client client' : Client} {operation : Operation} {next : Closing}
    (step : operation.step turn client = .running client' (.close next)) :
    ∃ stage, operation = .close stage ∧ stage.step turn client = .running client' next := by
  cases operation with
  | close stage =>
      obtain ⟨next', inside, same⟩ := Step.map_eq_running_iff.mp step
      cases same
      exact ⟨stage, rfl, inside⟩
  | closeFile path =>
      simp only [Operation.step] at step
      split at step <;> cases step
  | _ =>
      obtain ⟨_, _, same⟩ := Step.map_eq_running_iff.mp step
      cases same

/-- Behind a step of an operation the client is what the step made of it. -/
theorem Session.Effect.client_of_step
    {session after : Session} {action : Action} (effect : Session.Effect session action after)
    {task : TaskId} {portion : Nat} {operation next : Operation} {client : Client}
    (advances : action = .advance task portion) (found : session.task? task = some operation)
    (step : operation.step ⟨task, portion⟩ session.client = .running client next) :
    after.client = client := by
  subst advances
  cases effect with
  | advanced found' step' =>
      obtain rfl := Option.some.inj (found.symm.trans found')
      exact (Step.running.inj (step'.symm.trans step)).1
  | ended found' step' =>
      obtain rfl := Option.some.inj (found.symm.trans found')
      exact nomatch step'.symm.trans step
  | handled handlers noTask => cases noTask

/-- Where the closing of a client comes from: it was at its stage before, it begins, or it has
taken a step. -/
theorem Session.Effect.closing_cases
    {session after : Session} {action : Action} (effect : Session.Effect session action after)
    (fresh : session.HasFreshTask) {task : TaskId} {stage : Closing}
    (found : after.task? task = some (.close stage)) :
    session.task? task = some (.close stage) ∨ stage = .starting ∨
      ∃ portion before, action = .advance task portion ∧
        session.task? task = some (.close before) ∧
          before.step ⟨task, portion⟩ session.client = .running after.client stage := by
  generalize isOperation : Operation.close stage = operation at found
  cases effect.origin fresh found with
  | kept same => exact Or.inl (isOperation ▸ same)
  | begun command isAction new =>
      cases command with
      | close =>
          cases isOperation
          exact Or.inr (Or.inl rfl)
      | _ => cases isOperation
  | asked id work new => cases isOperation
  | @stepped portion _ _ _ isAction before step =>
      subst isOperation
      obtain ⟨stage', rfl, inside⟩ := Operation.close_of_step_running step
      refine Or.inr (Or.inr ⟨portion, stage', isAction, before, ?_⟩)
      rw [effect.client_of_step isAction before step]
      exact inside

/-- The only stage at which the closing of a client comes to an end, once it has begun. -/
theorem Closing.eq_settling_of_finished
    {turn : Turn} {client client' : Client} {stage : Closing}
    {result : Except ClientError (Option ExitStatus)}
    (step : stage.step turn client = .finished client' result) (beyond : stage ≠ .starting) :
    ∃ status, stage = .settling status ∧ client' = { client with state := .closed } ∧
      result = .ok status := by
  cases stage with
  | starting => exact absurd rfl beyond
  | settling status =>
      cases step
      exact ⟨status, rfl, rfl, rfl⟩
  | reaping =>
      simp only [Closing.step] at step
      split at step <;> cases step
  | awaiting deadline =>
      simp only [Closing.step] at step
      split at step
      · cases step
      · cases step
      · split at step <;> cases step
  | closingFiles | shuttingDown | exiting | closingInput =>
      obtain ⟨_, _, _, behind⟩ := Step.lift_eq_finished_iff.mp step
      cases behind

/-- The step with which the closing of a client comes to its end. -/
theorem Session.settling_of_ended
    {session after : Session} {task : TaskId} {portion : Nat} {stage : Closing}
    (applied : session.apply (.advance task portion) = some after)
    (found : session.task? task = some (.close stage)) (beyond : stage ≠ .starting)
    (ended : after.task? task = none) :
    ∃ status, stage = .settling status ∧
      after.client = { session.client with state := .closed } ∧
        after.results = (task, .ok (.exited status)) :: session.results := by
  cases Session.effect_of_apply applied with
  | @advanced _ _ operation next client' found' step =>
      have found'' : ({ session with client := client' } : Session).task? task = some operation :=
        found'
      rw [Session.task?_setTask, if_pos rfl, found''] at ended
      cases ended
  | @ended _ _ operation client' result found' step =>
      obtain rfl := Option.some.inj (found.symm.trans found')
      obtain ⟨result', inside, rfl⟩ := Step.map_eq_finished_iff.mp step
      obtain ⟨status, rfl, sameClient, rfl⟩ := Closing.eq_settling_of_finished inside beyond
      exact ⟨status, rfl, sameClient, rfl⟩
  | handled handlers noTask => cases noTask

/-- With the last step of closing the client the operation is over. -/
theorem Session.task?_of_settling
    {session after : Session} {task : TaskId} {portion : Nat} {status : Option ExitStatus}
    (applied : session.apply (.advance task portion) = some after)
    (found : session.task? task = some (.close (.settling status))) :
    after.task? task = none := by
  simp only [apply, advance, taskStep, found] at applied
  cases applied
  exact (task?_dropTask _ task task).trans (if_pos rfl)

namespace Run

variable {client : Client} {session : Session} {past : List Transition}

/-- The gate is passed once at most. -/
theorem countP_passesGate_le_one (run : Run (Session.connect client) past session) :
    past.countP Transition.passesGate ≤ 1 ∧
      (session.client.state.isClosing = false → past.countP Transition.passesGate = 0) := by
  obtain ⟨once, never⟩ : past.countP Transition.passesGate ≤ 1 ∧
      (¬ 4 ≤ session.client.state.rank → past.countP Transition.passesGate = 0) := by
    apply run.countP_le_one (rank_kept 4)
    intro past session action after run applied passes
    obtain ⟨wasOpen, isShut⟩ := closes_of_passesGate applied passes
    rw [← Lifecycle.isClosing_iff_rank, ← Lifecycle.isClosing_iff_rank, wasOpen]
    exact ⟨Bool.false_ne_true, isShut⟩
  refine ⟨once, fun working => never ?_⟩
  rw [← Lifecycle.isClosing_iff_rank, working]
  exact Bool.false_ne_true

/-- No two tasks get to close the client. -/
theorem closer_unique
    (run : Run (Session.connect client) past session) {task other : TaskId}
    (closes : task ∈ closers past) (otherCloses : other ∈ closers past) : other = task := by
  have few : (closers past).length ≤ 1 := by
    have fewer : (closers past).length ≤ past.countP Transition.passesGate := by
      unfold closers
      rw [List.length_filterMap_eq_countP]
      apply List.countP_mono_left
      intro transition _ isCloser
      obtain ⟨task, isTask⟩ := Option.isSome_iff_exists.mp isCloser
      exact (Transition.closer?_eq_some_iff.mp isTask).1
    exact fewer.trans run.countP_passesGate_le_one.1
  obtain ⟨only, isOnly⟩ : ∃ only, closers past = [only] := by
    apply List.length_eq_one_iff.mp
    exact Nat.le_antisymm few (List.length_pos_of_mem closes)
  rw [isOnly, List.mem_singleton] at closes otherCloses
  rw [closes, otherCloses]

/-- A client that somebody has got to close is being closed or closed. -/
theorem isClosing_of_closers
    (run : Run (Session.connect client) past session) {task : TaskId}
    (closes : task ∈ closers past) : session.client.state.isClosing = true := by
  obtain ⟨gate, member, passes, _⟩ := mem_closers_iff.mp closes
  by_contra working
  have never := run.countP_passesGate_le_one.2 (Bool.eq_false_iff.mpr working)
  exact List.countP_eq_zero.mp never gate member passes

/-- Who is beyond the first stage of closing the client has passed the gate. -/
theorem mem_closers
    (run : Run (Session.connect client) past session) {task : TaskId} {stage : Closing}
    (found : session.task? task = some (.close stage)) (beyond : stage ≠ .starting) :
    task ∈ closers past := by
  induction run generalizing stage with
  | refl => cases found
  | @step past session after action run applied inductionHypothesis =>
      rw [mem_closers_concat]
      rcases (Session.effect_of_apply applied).closing_cases run.hasFreshTask found with
        same | first | ⟨portion, before, isAction, found', inside⟩
      · exact Or.inl (inductionHypothesis same beyond)
      · exact absurd first beyond
      · by_cases first : before = .starting
        · subst first
          right
          rw [Transition.closer?_eq_some_iff]
          simp only [Transition.passesGate, isAction, found', found, Action.task?, and_self]
        · exact Or.inl (inductionHypothesis found' first)

/-- No two tasks are beyond the first stage of closing the client. -/
theorem closing_unique
    (run : Run (Session.connect client) past session) {task other : TaskId}
    {stage stage' : Closing} (found : session.task? task = some (.close stage))
    (beyond : stage ≠ .starting) (found' : session.task? other = some (.close stage'))
    (beyond' : stage' ≠ .starting) : other = task :=
  run.closer_unique (run.mem_closers found beyond) (run.mem_closers found' beyond')

end Run

end LanguageClient
