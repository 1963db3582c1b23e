import LanguageClient.Proofs.Lifecycle.Change
import LanguageClient.Proofs.Wire.Framing
import LanguageClient.Proofs.Wire.Silence

/-!
# The course of a lifecycle

What the state of a client does over a run of its session.  The state changes along the
arrows only; who comes too late to open the session or to close the client is turned
away at the first step.
-/

namespace LanguageClient

/-! ## Effects -/

namespace Session

/-- Whoever closes the client beyond the first stage finds it being closed. -/
def IsGuarded (session : Session) : Prop :=
  ∀ task operation, session.task? task = some operation → operation.IsGuarded session.client

/-- Every action leaves the state as it is or changes it along an arrow. -/
theorem Effect.follows
    {session after : Session} {action : Action} (effect : Effect session action after)
    (guarded : session.IsGuarded) : session.client.state.Follows after.client.state := by
  cases effect with
  | @advanced task portion operation next client found step =>
      exact (Operation.step_follows (guarded task operation found)).of_running step
  | @ended task portion operation client result found step =>
      exact (Operation.step_follows (guarded task operation found)).of_finished step
  | @abandoned task operation found noAnswer => exact Or.inl operation.abandon_fixes_state
  | @dispatched value rest reading read =>
      obtain ⟨_, calls, diagnostics, sameClient⟩ :=
        dispatch_leaves { session with inbound := ⟨rest, session.inbound.ending⟩ } value
      have sameState := congrArg Client.state sameClient
      exact Or.inl sameState
  | @left reason leaving => exact session.client.state.follows_lose reason
  | _ => exact Or.inl rfl

theorem IsGuarded.effect
    {session after : Session} {action : Action} (guarded : session.IsGuarded)
    (fresh : session.HasFreshTask) (effect : Effect session action after) : after.IsGuarded := by
  -- A client that is being closed is so afterwards.
  have closing : session.client.state.isClosing = true → after.client.state.isClosing = true := by
    rw [Lifecycle.isClosing_iff_rank, Lifecycle.isClosing_iff_rank]
    exact fun far => far.trans (effect.follows guarded).rank_le
  have stays {operation : Operation} (wasGuarded : operation.IsGuarded session.client) :
      operation.IsGuarded after.client := by
    cases operation with
    | close stage => exact fun beyond => closing (wasGuarded beyond)
    | _ => trivial
  intro task operation found
  cases effect.origin fresh found with
  | kept same => exact stays (guarded task operation same)
  | begun command isAction new => exact stays (Operation.isGuarded_begin command)
  | asked id work new => trivial
  | @stepped portion before next client isAction found' step =>
      subst isAction
      have nextGuarded :=
        (Operation.step_guards (guarded task before found')).of_running step
      cases effect with
      | @advanced _ _ other next' client' foundOther stepOther =>
          obtain rfl := Option.some.inj (found'.symm.trans foundOther)
          obtain ⟨rfl, rfl⟩ := Step.running.inj (step.symm.trans stepOther)
          exact nextGuarded
      | @ended _ _ other client' result foundOther stepOther =>
          obtain rfl := Option.some.inj (found'.symm.trans foundOther)
          cases step.symm.trans stepOther
      | handled handlers noTask _ => cases noTask

/-- The read loop is over only when the client has been told. -/
theorem Effect.rank_of_finished
    {session after : Session} {action : Action} (effect : Effect session action after)
    (ended : after.loop = .finished) :
    session.loop = .finished ∨ 3 ≤ after.client.state.rank := by
  cases effect with
  | @left reason leaving =>
      right
      dsimp only
      unfold Lifecycle.lose
      cases closing : session.client.state.isClosing with
      | true => exact Nat.le_of_succ_le ((Lifecycle.isClosing_iff_rank _).mp closing)
      | false => exact Nat.le_refl 3
  | dispatched reading read =>
      rw [(dispatch_leaves _ _).1] at ended
      exact Or.inl ended
  | lost reason reading unread => cases ended
  | drained lost => cases ended
  | _ => exact Or.inl ended

end Session

/-! ## Runs -/

namespace Run

variable {client : Client} {session : Session} {past : List Transition}

theorem isGuarded (run : Run (Session.connect client) past session) : session.IsGuarded := by
  induction run with
  | refl =>
      intro task operation found
      cases found
  | step run applied inductionHypothesis =>
      exact inductionHypothesis.effect run.hasFreshTask (Session.effect_of_apply applied)

theorem follows
    (run : Run (Session.connect client) past session) {after : Session} {action : Action}
    (applied : session.apply action = some after) :
    session.client.state.Follows after.client.state :=
  (Session.effect_of_apply applied).follows run.isGuarded

/-- The state never falls back. -/
theorem rank_kept
    (least : Nat) (past : List Transition) (session : Session) (action : Action) (after : Session)
    (run : Run (Session.connect client) past session)
    (applied : session.apply action = some after) (reached : least ≤ session.client.state.rank) :
    least ≤ after.client.state.rank :=
  reached.trans (run.follows applied).rank_le

theorem rank_of_finished
    (run : Run (Session.connect client) past session) (ended : session.loop = .finished) :
    3 ≤ session.client.state.rank := by
  induction run with
  | refl => cases ended
  | @step past session after action run applied inductionHypothesis =>
      rcases (Session.effect_of_apply applied).rank_of_finished ended with wasOver | reached
      · exact rank_kept 3 past session action after run applied (inductionHypothesis wasOver)
      · exact reached

end Run

/-! ## The first step of opening and of closing -/

def Operation.isAtGate : Operation → Bool
  | .openSession (.starting _ _) | .close .starting => true
  | _ => false

private theorem Initializing.step_passes (turn : Turn) (client : Client) (stage : Initializing) :
    (stage.step turn client).Keeps fun next => (Operation.openSession next).isAtGate = false := by
  cases stage with
  | starting workspace custom =>
      simp only [step]
      split <;> trivial
  | preparing workspace custom =>
      simp only [step, prepare]
      split <;> exact rfl
  | registering workspace rootUri options registered =>
      simp only [step, register]
      split <;> exact rfl
  | calling workspace call =>
      apply (Step.Keeps.trivial _).lift
      · exact fun _ _ => rfl
      · intro client' answer
        cases answer with
        | error error => exact rfl
        | ok value =>
            simp only [announce]
            split <;> exact rfl
  | announcing workspace result frame =>
      apply (Step.Keeps.trivial _).lift
      · exact fun _ _ => rfl
      · intro client' sent
        cases sent <;> exact rfl
  | settling workspace result =>
      simp only [step]
      split <;> exact rfl
  | preloading result files =>
      apply (Step.Keeps.trivial _).lift
      · exact fun _ _ => rfl
      · intro client' loaded
        cases loaded with
        | ok value => trivial
        | error error => exact rfl
  | failing error => trivial

private theorem Closing.step_passes (turn : Turn) (client : Client) (stage : Closing) :
    (stage.step turn client).Keeps fun next => (Operation.close next).isAtGate = false := by
  cases stage with
  | starting =>
      simp only [step]
      split
      · trivial
      · exact rfl
  | closingFiles files =>
      apply (Step.Keeps.trivial _).lift
      · exact fun _ _ => rfl
      · exact fun _ _ => rfl
  | shuttingDown call =>
      apply (Step.Keeps.trivial _).lift
      · exact fun _ _ => rfl
      · exact fun _ _ => rfl
  | exiting notice =>
      apply (Step.Keeps.trivial _).lift
      · exact fun _ _ => rfl
      · exact fun _ _ => rfl
  | closingInput input =>
      apply (Step.Keeps.trivial _).lift
      · exact fun _ _ => rfl
      · exact fun _ _ => rfl
  | reaping =>
      simp only [step]
      split <;> exact rfl
  | awaiting deadline =>
      simp only [step]
      split
      · exact rfl
      · exact rfl
      · split
        · exact rfl
        · trivial
  | settling status => trivial

/-- No operation comes back to the gate. -/
private theorem Operation.step_passes (turn : Turn) (client : Client) (operation : Operation) :
    (operation.step turn client).Keeps fun next => next.isAtGate = false := by
  cases operation with
  | openSession stage => exact (stage.step_passes turn client).map fun _ passes => passes
  | close stage => exact (stage.step_passes turn client).map fun _ passes => passes
  | closeFile path =>
      simp only [step]
      split
      · trivial
      · exact rfl
  | _ => exact (Step.Keeps.trivial _).map fun _ _ => rfl

theorem areEarly_isAtGate : AreEarly Operation.isAtGate where
  apart operation atGate := by
    cases operation with
    | openSession stage =>
        cases stage with
        | starting workspace custom => rfl
        | _ => cases atGate
    | close stage =>
        cases stage with
        | starting => rfl
        | _ => cases atGate
    | _ => cases atGate
  steps turn client operation :=
    (operation.step_passes turn client).mono
      (fun _ _ passes atGate => absurd (passes.symm.trans atGate) Bool.false_ne_true)
      fun _ _ _ => trivial

/-- The session behind the first step of an operation that is turned away: the operation is
over, and all else is as before. -/
def Session.turnAway (session : Session) (task : TaskId) (error : ClientError) : Session :=
  { session.dropTask task with results := (task, .error error) :: session.results }

/-- The operation of a task is turned away with an error, and its task has no frame on
the stream. -/
structure Transition.TurnsAway
    (past : List Transition) (transition : Transition) (task : TaskId) (error : ClientError) :
    Prop where
  returns : transition.after = transition.before.turnAway task error
  silent : ∀ segment, segment ∈ wireLog past → segment.task ≠ task

/-- Whether the closing of the client gets beyond its first stage. -/
def Transition.passesGate (transition : Transition) : Bool :=
  match transition.action with
  | .advance task _ =>
      match transition.before.task? task, transition.after.task? task with
      | some (.close .starting), some _ => true
      | _, _ => false
  | _ => false

def Transition.entersReady (transition : Transition) : Bool :=
  transition.before.client.state ≠ .ready && transition.after.client.state = .ready

/-- The first step of closing the client: it is turned away if the client is being closed
already. -/
theorem Session.advance_closing
    {session : Session} {task : TaskId} (found : session.task? task = some (.close .starting))
    (portion : Nat) :
    ∃ after, session.apply (.advance task portion) = some after ∧
      (session.client.state.isClosing = true → after = session.turnAway task .alreadyClosed) ∧
      (session.client.state.isClosing = false →
        after.client.state = .shuttingDown ∧ ∃ stage, after.task? task = some (.close stage)) := by
  cases closing : session.client.state.isClosing with
  | true =>
      refine ⟨session.turnAway task .alreadyClosed, ?_, fun _ => rfl, by simp⟩
      simp only [apply, advance, taskStep, found, Operation.step, Closing.step, closing, if_true]
      rfl
  | false =>
      let shutting : Session :=
        { session with client := { session.client with state := .shuttingDown } }
      let files : Closing :=
        .closingFiles (.waiting session.client.options.limits.closeFiles .starting)
      refine ⟨shutting.setTask task (.close files), ?_, by simp, fun _ => ⟨rfl, files, ?_⟩⟩
      · simp only [apply, advance, taskStep, found, Operation.step, Closing.step, closing,
          Bool.false_eq_true, if_false]
        rfl
      · have found' : shutting.task? task = some (.close .starting) := found
        rw [task?_setTask, if_pos rfl, found']
        rfl

/-- The first step of opening a session: it is turned away unless nobody has begun. -/
theorem Session.advance_opening
    {session : Session} {task : TaskId} {workspace : Path} {custom : Option Json.Members}
    (found : session.task? task = some (.openSession (.starting workspace custom)))
    (portion : Nat) :
    ∃ after, session.apply (.advance task portion) = some after ∧
      (session.client.state ≠ .starting →
        after = session.turnAway task (.invalidState session.client.state)) := by
  by_cases isStarting : session.client.state = .starting
  · let claimed : Session :=
      { session with client := { session.client with state := .initializing } }
    refine ⟨claimed.setTask task (.openSession (.preparing workspace custom)), ?_,
      fun notStarting => absurd isStarting notStarting⟩
    simp only [apply, advance, taskStep, found, Operation.step, Initializing.step, isStarting,
      if_true]
    rfl
  · refine ⟨session.turnAway task (.invalidState session.client.state), ?_, fun _ => rfl⟩
    simp only [apply, advance, taskStep, found, Operation.step, Initializing.step, isStarting,
      if_false]
    rfl

theorem Transition.exists_gate
    {transition : Transition} (passes : transition.passesGate = true) :
    ∃ task portion, transition.action = .advance task portion ∧
      transition.before.task? task = some (.close .starting) ∧
        transition.after.task? task ≠ none := by
  unfold passesGate at passes
  split at passes
  · rename_i task portion advances
    split at passes
    · rename_i stage before afterwards
      exact ⟨task, portion, advances, before, by simp [afterwards]⟩
    · cases passes
  · cases passes

theorem Session.task?_turnAway
    (session : Session) (task : TaskId) (error : ClientError) :
    (session.turnAway task error).task? task = none := by
  have dropped := session.task?_dropTask task task
  rw [if_pos rfl] at dropped
  exact dropped

namespace Run

variable {client : Client} {session : Session} {past : List Transition}

theorem closes_of_passesGate
    {after : Session} {action : Action} (applied : session.apply action = some after)
    (passes : Transition.passesGate ⟨session, action, after⟩ = true) :
    session.client.state.isClosing = false ∧ after.client.state.isClosing = true := by
  obtain ⟨task, portion, advances, found, goesOn⟩ := Transition.exists_gate passes
  dsimp only at advances found goesOn
  subst advances
  obtain ⟨after', applied', refused, accepted⟩ := Session.advance_closing found portion
  obtain rfl := Option.some.inj (applied.symm.trans applied')
  cases closing : session.client.state.isClosing with
  | true =>
      rw [refused closing] at goesOn
      exact absurd (session.task?_turnAway task .alreadyClosed) goesOn
  | false =>
      refine ⟨rfl, ?_⟩
      rw [(accepted closing).1]
      rfl

/-- Ready is reached from the handshake only. -/
private theorem rank_of_entersReady
    {state next : Lifecycle} (follows : state.Follows next) (notReady : state ≠ .ready)
    (isReady : next = .ready) : state.rank < 2 := by
  subst isReady
  rcases follows with same | arrow
  · exact absurd same.symm notReady
  · cases arrow
    decide

/-- An operation that is turned away has not written and will not. -/
private theorem turnsAway
    (run : Run (Session.connect client) past session) {transition : Transition}
    (member : transition ∈ past) {task : TaskId} {operation : Operation}
    (found : transition.before.task? task = some operation)
    (atGate : operation.isAtGate = true) {error : ClientError}
    (returns : transition.after = transition.before.turnAway task error) :
    transition.TurnsAway past task error := by
  have endsEarly : transition.EndsEarly Operation.isAtGate task :=
    ⟨(Session.view_of_found found).trans atGate, returns ▸ Session.task?_turnAway _ task error⟩
  exact ⟨returns, fun segment logged =>
    (run.isSilent_of_endsEarly areEarly_isAtGate member endsEarly).not_mem_wireLog logged⟩

end Run

/-! ## The whole -/

structure KeepsLifecycle (past : List Transition) (session : Session) : Prop where
  follows : ∀ transition, transition ∈ past →
    transition.before.client.state.Follows transition.after.client.state
  ready_once : past.countP Transition.entersReady ≤ 1
  /-- A client that has failed is never ready again. -/
  failed : ∀ earlier failure later reason, past = earlier ++ failure :: later →
    failure.after.client.state = .error reason →
      ∀ transition, transition ∈ later → transition.after.client.state ≠ .ready
  closed : ∀ earlier last later, past = earlier ++ last :: later →
    last.after.client.state = .closed →
      ∀ transition, transition ∈ later → transition.after.client.state = .closed
  closes_once : past.countP Transition.passesGate ≤ 1
  /-- Who does not get to close the client is turned away. -/
  closes : ∀ transition, transition ∈ past → ∀ task portion,
    transition.action = .advance task portion →
      transition.before.task? task = some (.close .starting) →
        transition.passesGate = true ∨ transition.TurnsAway past task .alreadyClosed
  /-- Who opens the session too late is turned away. -/
  opens : ∀ transition, transition ∈ past → ∀ task portion workspace custom,
    transition.action = .advance task portion →
      transition.before.task? task = some (.openSession (.starting workspace custom)) →
        transition.before.client.state ≠ .starting →
          transition.TurnsAway past task (.invalidState transition.before.client.state)
  /-- Neither of them has to wait for its first step. -/
  prompt : ∀ task operation, session.task? task = some operation →
    operation.isAtGate = true →
      ∀ portion, (session.apply (.advance task portion)).isSome = true
  /-- Once the read loop is over the client is not in use any more. -/
  lost : ∀ earlier last later, past = earlier ++ last :: later →
    last.after.loop = .finished →
      ∀ transition, transition ∈ last :: later →
        (∃ reason, transition.after.client.state = .error reason) ∨
          transition.after.client.state = .shuttingDown ∨
            transition.after.client.state = .closed

theorem Lifecycle.eq_closed_of_rank
    {state : Lifecycle} (last : 5 ≤ state.rank) : state = .closed := by
  cases state <;> simp [rank] at last ⊢

theorem Lifecycle.of_rank
    {state : Lifecycle} (far : 3 ≤ state.rank) :
    (∃ reason, state = .error reason) ∨ state = .shuttingDown ∨ state = .closed := by
  cases state <;> simp [rank] at far ⊢

/-- The lifecycle of a client, over all that can happen to its session. -/
theorem Run.lifecycle
    {client : Client} {session : Session} {past : List Transition}
    (run : Run (Session.connect client) past session) : KeepsLifecycle past session := by
  have before {transition : Transition} (member : transition ∈ past) :
      ∃ earlier, Run (Session.connect client) earlier transition.before ∧
        transition.before.apply transition.action = some transition.after := by
    obtain ⟨earlier, later, split⟩ := List.append_of_mem member
    exact ⟨earlier, (split ▸ run).before_transition⟩
  constructor
  case follows =>
    intro transition member
    obtain ⟨earlier, runBefore, applied⟩ := before member
    exact runBefore.follows applied
  case ready_once =>
    refine (run.countP_le_one (rank_kept 2) ?_).1
    intro past session action after run applied enters
    simp only [Transition.entersReady, Bool.and_eq_true, decide_eq_true_eq] at enters
    obtain ⟨notReady, isReady⟩ := enters
    have low := rank_of_entersReady (run.follows applied) notReady isReady
    rw [isReady]
    exact ⟨Nat.not_le.mpr low, Nat.le_refl 2⟩
  case failed =>
    rintro earlier failure later reason rfl isError transition member isReady
    have reached : 3 ≤ failure.after.client.state.rank := by
      rw [isError]
      exact Nat.le_refl 3
    have far := run.behind_transition reached (rank_kept 3) member
    rw [isReady] at far
    exact absurd far (by decide)
  case closed =>
    rintro earlier last later rfl isClosed transition member
    have reached : 5 ≤ last.after.client.state.rank := by
      rw [isClosed]
      exact Nat.le_refl 5
    exact Lifecycle.eq_closed_of_rank (run.behind_transition reached (rank_kept 5) member)
  case closes_once =>
    refine (run.countP_le_one (rank_kept 4) ?_).1
    intro past session action after run applied passes
    obtain ⟨wasOpen, isShut⟩ := closes_of_passesGate applied passes
    rw [← Lifecycle.isClosing_iff_rank, ← Lifecycle.isClosing_iff_rank, wasOpen]
    exact ⟨Bool.false_ne_true, isShut⟩
  case closes =>
    intro transition member task portion advances found
    obtain ⟨earlier, runBefore, applied⟩ := before member
    obtain ⟨after, applied', refused, accepted⟩ := Session.advance_closing found portion
    rw [advances, applied', Option.some.injEq] at applied
    cases closing : transition.before.client.state.isClosing with
    | true =>
        exact Or.inr (run.turnsAway member found rfl (applied.symm.trans (refused closing)))
    | false =>
        obtain ⟨_, stage, goesOn⟩ := accepted closing
        rw [applied] at goesOn
        left
        simp only [Transition.passesGate, advances, found, goesOn]
  case opens =>
    intro transition member task portion workspace custom advances found notStarting
    obtain ⟨earlier, runBefore, applied⟩ := before member
    obtain ⟨after, applied', refused⟩ := Session.advance_opening found portion
    rw [advances, applied', Option.some.injEq] at applied
    exact run.turnsAway member found rfl (applied.symm.trans (refused notStarting))
  case prompt =>
    intro task operation found atGate portion
    cases operation with
    | openSession stage =>
        cases stage with
        | starting workspace custom =>
            obtain ⟨after, applied, _⟩ := Session.advance_opening found portion
            rw [applied]
            rfl
        | _ => cases atGate
    | close stage =>
        cases stage with
        | starting =>
            obtain ⟨after, applied, _⟩ := Session.advance_closing found portion
            rw [applied]
            rfl
        | _ => cases atGate
    | _ => cases atGate
  case lost =>
    rintro earlier last later rfl ended transition member
    obtain ⟨runBefore, applied⟩ := run.before_transition
    have reached := (runBefore.step applied).rank_of_finished ended
    rcases List.mem_cons.mp member with rfl | later
    · exact Lifecycle.of_rank reached
    · exact Lifecycle.of_rank (run.behind_transition reached (rank_kept 3) later)

/-- Two tasks open the session, the connection is lost, and two tasks close the client. -/
def lateArrivals : List Action :=
  [.start (.openSession (.ofString "/") none), .start (.openSession (.ofString "/") none),
    .advance 0 1, .advance 1 1, .serverEnds .closed, .read, .read, .read, .start .close,
    .start .close, .advance 2 1, .advance 3 1]

theorem Run.lifecycle_lateArrivals :
    ∃ past session, Run (Session.connect .narrow) past session ∧
      past.map Transition.action = lateArrivals ∧
        session.client.state = .shuttingDown ∧
          session.results = [(3, .error .alreadyClosed), (1, .error (.invalidState .initializing))] ∧
            KeepsLifecycle past session := by
  have computed :
      ((Session.connect .narrow).run lateArrivals).map
          (fun session => (session.client.state, session.results)) =
        some (.shuttingDown,
          [(3, .error .alreadyClosed), (1, .error (.invalidState .initializing))]) := by
    decide +kernel
  obtain ⟨session, ran, reached⟩ := Option.map_eq_some_iff.mp computed
  injection reached with state results
  have run := Run.of_run ran .refl
  exact ⟨_, session, run, Session.map_action_transitions ran, state, results, run.lifecycle⟩

end LanguageClient
