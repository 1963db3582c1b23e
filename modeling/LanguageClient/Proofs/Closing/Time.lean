import LanguageClient.Proofs.Closing.Deadline
import LanguageClient.Proofs.Lifecycle.Gate
import LanguageClient.Proofs.Wire.Framing

/-!
# The time of closing

On a virtual clock the closing of a client is over when its limits of time have passed,
whoever else holds up the client and whatever the server does.
-/

namespace LanguageClient

structure Closing.IsInTime (limits : CloseLimits) (now last : Nat) (stage : Closing) : Prop where
  awake : stage.IsAwake now
  latest : stage.latest limits now ≤ last

namespace Run

variable {client : Client} {session after : Session} {past : List Transition} {action : Action}

/-- The operation that a user has begun has got its number. -/
theorem lt_nextTask_of_start
    (run : Run (Session.connect client) past session) {begun : Transition} {command : Command}
    (member : begun ∈ past) (isStart : begun.action = .start command) :
    begun.before.nextTask < session.nextTask := by
  obtain ⟨earlier, later, rfl⟩ := List.append_of_mem member
  obtain ⟨_, applied⟩ := run.before_transition
  rw [isStart] at applied
  have spawned : begun.before.spawn (command.begin begun.before.client) = begun.after :=
    Option.some.inj applied
  apply run.from_transition (motive := fun _ session => begun.before.nextTask < session.nextTask)
  · rw [← spawned]
    exact Nat.lt_succ_self _
  · intro past session action after _ applied old
    exact old.trans_le (Session.effect_of_apply applied).nextTask_le

/-- Time passes while the closing waits, and no further than to its deadline. -/
private theorem isInTime_of_kept
    {limits : CloseLimits} {last : Nat} {stage : Closing} {task : TaskId}
    (inTime : stage.IsInTime limits session.client.now last)
    (found : session.task? task = some (.close stage))
    (applied : session.apply action = some after)
    (timely : Transition.IsTimely ⟨session, action, after⟩) :
    stage.IsInTime limits after.client.now last := by
  rcases (Session.effect_of_apply applied).now with same | ⟨milliseconds, elapses, later⟩
  · rw [same]
    exact inTime
  · have blocked : stage.step ⟨task, 0⟩ session.client = .blocked := by
      have atRest := timely.atRest milliseconds elapses
      exact Step.eq_blocked_of_map (atRest.step_eq_blocked found 0)
    obtain ⟨wakeTime, waits, _⟩ := Closing.wakeTime_of_blocked blocked
    have reached := timely.wakes milliseconds elapses task _ wakeTime found waits
    rw [later]
    constructor
    · intro wakeTime' waits'
      obtain rfl := Option.some.inj (waits.symm.trans waits')
      exact reached
    · rw [(Closing.le_latest_of_wakeTime waits limits session.client.now _).2]
      exact inTime.latest

/-- The closing of a client is over when its limits have passed since it was begun. -/
theorem isInTime
    (run : Run (Session.connect client) past session) (noServer : client.server = none)
    (timely : IsTimely past) {begun : Transition} (member : begun ∈ past)
    (isClose : begun.action = .start .close) {operation : Operation}
    (found : session.task? begun.before.nextTask = some operation) :
    ∃ stage, operation = .close stage ∧
      stage.IsInTime client.options.limits session.client.now
        (begun.before.client.now + client.options.limits.longest) := by
  induction run generalizing operation with
  | refl => cases member
  | @step past session after action run applied inductionHypothesis =>
      rcases List.mem_append.mp member with earlier | isLatest
      · have inTime {operation : Operation}
            (found : session.task? begun.before.nextTask = some operation) :=
          inductionHypothesis timely.left earlier found
        have old := run.lt_nextTask_of_start earlier isClose
        cases (Session.effect_of_apply applied).origin run.hasFreshTask found with
        | kept same =>
            obtain ⟨stage, rfl, stageInTime⟩ := inTime same
            exact ⟨stage, rfl, isInTime_of_kept stageInTime same applied timely.last⟩
        | begun command isAction new => exact absurd old (Nat.not_lt.mpr new)
        | asked id work new => exact absurd old (Nat.not_lt.mpr new)
        | @stepped portion before next client' isAction found' step =>
            obtain ⟨stage, rfl, stageInTime⟩ := inTime found'
            obtain ⟨nextStage, inside, rfl⟩ := Step.map_eq_running_iff.mp step
            obtain ⟨awake, sooner⟩ := Closing.latest_of_step_running inside
              (run.server_eq_none noServer) stageInTime.awake
            have sameTime : after.client.now = session.client.now := by
              rcases (Session.effect_of_apply applied).now with same | ⟨_, elapses, _⟩
              · exact same
              · cases isAction.symm.trans elapses
            rw [run.options_eq] at sooner
            refine ⟨nextStage, rfl, ?_⟩
            rw [sameTime]
            exact ⟨awake, sooner.trans stageInTime.latest⟩
      · obtain rfl := List.mem_singleton.mp isLatest
        dsimp only at isClose found
        subst isClose
        obtain rfl : session.spawn (.close .starting) = after := Option.some.inj applied
        rw [Session.task?_spawn run.hasFreshTask, if_pos rfl] at found
        obtain rfl := Option.some.inj found
        have awake : Closing.starting.IsAwake session.client.now := by
          intro wakeTime waits
          cases waits
        exact ⟨.starting, rfl, awake, Nat.le_refl _⟩

end Run

/-- The closing of a client that was connected to streams keeps its time: it is over when its
limits have passed since it was begun, and then the client is closed. -/
structure ClosesInTime (limits : CloseLimits) (past : List Transition) (session : Session) :
    Prop where
  unfinished : ∀ begun, begun ∈ past → begun.action = .start .close →
    session.task? begun.before.nextTask ≠ none →
      session.client.now ≤ begun.before.client.now + limits.longest
  /-- It does not even wait any more when its limits have passed. -/
  waiting : ∀ begun, begun ∈ past → begun.action = .start .close →
    session.task? begun.before.nextTask ≠ none → session.IsAtRest →
      session.client.now < begun.before.client.now + limits.longest
  closed : ∀ transition, transition ∈ past → ∀ task portion stage,
    transition.action = .advance task portion →
      transition.before.task? task = some (.close stage) → stage ≠ .starting →
        transition.after.task? task = none → transition.after.client.state = .closed

/-- On a virtual clock the closing of a client keeps its time in every run, whatever else is
under way, whatever the pipe holds and whatever the server does. -/
theorem Run.closesInTime
    {options : ClientOptions} {capacity : Nat} {files : FileTree} {directory : List EntryName}
    {session : Session} {past : List Transition}
    (run : Run (Session.connect (.connect options capacity files directory)) past session)
    (timely : IsTimely past) : ClosesInTime options.limits past session := by
  constructor
  case unfinished =>
    intro begun member isClose isOn
    obtain ⟨operation, found⟩ := Option.ne_none_iff_exists'.mp isOn
    obtain ⟨stage, rfl, inTime⟩ := run.isInTime rfl timely member isClose found
    exact (inTime.awake.le_latest options.limits).trans inTime.latest
  case waiting =>
    intro begun member isClose isOn atRest
    obtain ⟨operation, found⟩ := Option.ne_none_iff_exists'.mp isOn
    obtain ⟨stage, rfl, inTime⟩ := run.isInTime rfl timely member isClose found
    have blocked := Step.eq_blocked_of_map (atRest.step_eq_blocked found 0)
    obtain ⟨wakeTime, waits, early⟩ := Closing.wakeTime_of_blocked blocked
    have last := (Closing.le_latest_of_wakeTime waits options.limits session.client.now 0).1
    exact early.trans_le (last.trans inTime.latest)
  case closed =>
    intro transition member task portion stage advances found beyond ended
    obtain ⟨earlier, later, rfl⟩ := List.append_of_mem member
    obtain ⟨_, applied⟩ := run.before_transition
    rw [advances] at applied
    obtain ⟨_, _, sameClient, _⟩ := Session.settling_of_ended applied found beyond ended
    rw [sameClient]

/-! ## A silent server -/

/-- The client is closed and its request to shut down is read, but not answered. -/
def silentServer : List Action :=
  .start .close :: List.replicate 11 (.advance 0 1024)

/-- The only operation is the closing of a client that waits for the answer of the server. -/
private def Session.awaitsShutdown (session : Session) : Bool :=
  match session.tasks with
  | [(0, .close (.shuttingDown (.underway 500 (.waiting request id))))] =>
      session.client.calls.mailbox? id = some .empty &&
        !Calling.isCancelled session.client request && session.readStep.isNone &&
          session.client.now = 0
  | _ => false

/-- A closing whose request is not answered ends when its limit has passed. -/
theorem Run.closesInTime_silentServer :
    ∃ past session,
      Run (Session.connect (.connect { processId := 1 } 1024 (.directory []) [])) past session ∧
        past.map Transition.action =
            silentServer ++ .elapse 500 :: List.replicate 11 (.advance 0 1024) ∧
          session.results = [(0, .ok (.exited none))] ∧ session.client.state = .closed ∧
            IsTimely past ∧ ClosesInTime {} past session := by
  let start := Session.connect (.connect { processId := 1 } 1024 (.directory []) [])
  let rest := List.replicate 11 (Action.advance 0 1024)
  have waits : (start.run silentServer).any Session.awaitsShutdown = true := by
    decide +kernel
  have ends :
      ((start.run silentServer).bind fun session =>
          (session.apply (.elapse 500)).bind fun later => later.run rest).map
            (fun session => (session.results, session.client.state)) =
        some ([(0, .ok (.exited none))], .closed) := by
    decide +kernel
  obtain ⟨session, ran, waits⟩ := (Option.any_eq_true _ _).mp waits
  obtain ⟨last, ranOn, ended⟩ := Option.map_eq_some_iff.mp ends
  injection ended with results state
  rw [ran, Option.bind_some] at ranOn
  obtain ⟨later, elapsed, ranOn⟩ := Option.bind_eq_some_iff.mp ranOn
  have noTime : IsTimely (start.transitions silentServer) :=
    isTimely_transitions (by simp [silentServer])
  have noMoreTime : IsTimely (later.transitions rest) := isTimely_transitions (by simp [rest])
  have half : Transition.IsTimely ⟨session, .elapse 500, later⟩ := by
    unfold Session.awaitsShutdown at waits
    split at waits
    · rename_i request id tasks
      simp only [Bool.and_eq_true, Bool.not_eq_true', decide_eq_true_eq,
        Option.isNone_iff_eq_none] at waits
      obtain ⟨⟨⟨empty, notCancelled⟩, noRead⟩, isStart⟩ := waits
      constructor
      · intro milliseconds _
        refine .of_tasks tasks (fun portion => ?_) noRead
        simp [Operation.step, Closing.step, TimedCall.step, Timed.step, Calling.step, Step.map,
          Step.lift, empty, notCancelled, isStart]
      · intro milliseconds elapses task operation wakeTime found wakes
        obtain rfl : 500 = milliseconds := Action.elapse.inj elapses
        by_cases isFirst : 0 = task
        · simp only [Session.task?, tasks, isFirst, List.find?_cons, decide_true, Option.map_some,
            Option.some.injEq] at found
          subst found
          obtain rfl : 500 = wakeTime := Option.some.inj wakes
          exact Nat.le_of_eq (by rw [isStart])
        · simp [Session.task?, tasks, isFirst] at found
    · cases waits
  have run := Run.of_run ranOn ((Run.of_run ran .refl).step elapsed)
  have timely := (noTime.append fun transition isHalf =>
    List.mem_singleton.mp isHalf ▸ half).append noMoreTime
  refine ⟨_, last, run, ?_, results, state, timely, run.closesInTime timely⟩
  rw [List.nil_append, List.map_append, List.map_append, Session.map_action_transitions ran,
    Session.map_action_transitions ranOn, List.append_assoc]
  rfl

end LanguageClient
