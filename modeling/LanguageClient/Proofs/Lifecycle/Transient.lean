import LanguageClient.Proofs.Lifecycle.Order

/-!
# The transient states

Opening a session and closing the client take the client through a state that they are to
lead it out of again.  In such a state the operation that has brought the client there is at
work, or it was given up on its way: nobody else does its part.  A handshake that was given
up leaves a client that can still be closed; a closing that was given up leaves one that
cannot.
-/

namespace LanguageClient

/-! ## Who leads out of a state -/

/-- Whether the opening of a session has claimed the client and has still to report. -/
def Initializing.isHandshaking : Initializing → Bool
  | .starting _ _ | .preloading _ _ => false
  | .preparing _ _ | .registering _ _ _ _ | .calling _ _ | .announcing _ _ _ | .settling _ _
  | .failing _ => true

namespace Operation

def leadsOut (state : Lifecycle) : Operation → Bool
  | .openSession stage => state = .initializing && stage.isHandshaking
  | .close stage => state = .shuttingDown && stage ≠ .starting
  | _ => false

theorem leadsOut_shuttingDown_iff {operation : Operation} :
    operation.leadsOut .shuttingDown = true ↔
      ∃ stage, operation = .close stage ∧ stage ≠ .starting := by
  cases operation with
  | close stage => simp [leadsOut]
  | _ => simp [leadsOut]

theorem leadsOut_initializing_iff {operation : Operation} :
    operation.leadsOut .initializing = true ↔
      ∃ stage, operation = .openSession stage ∧ stage.isHandshaking = true := by
  cases operation with
  | openSession stage => simp [leadsOut]
  | _ => simp [leadsOut]

end Operation

/-- The states in which a client does not stay. -/
def Lifecycle.isTransient : Lifecycle → Bool
  | .initializing | .shuttingDown => true
  | _ => false

theorem Lifecycle.eq_shuttingDown_of_transient
    {state : Lifecycle} (transient : state.isTransient = true) (far : 4 ≤ state.rank) :
    state = .shuttingDown := by
  cases state with
  | shuttingDown => rfl
  | initializing => exact absurd far (by decide)
  | starting | ready | closed | error => cases transient

/-- Behind its first step nobody is at the first stage of closing the client. -/
theorem Closing.ne_starting_of_phase {stage : Closing} (beyond : 0 < stage.phase) :
    stage ≠ .starting := by
  rintro rfl
  exact absurd beyond (Nat.lt_irrefl 0)

theorem Closing.phase_pos {stage : Closing} (beyond : stage ≠ .starting) : 0 < stage.phase := by
  cases stage with
  | starting => exact absurd rfl beyond
  | shuttingDown | exiting => simp only [phase]; omega
  | _ => simp [phase]

/-! ## Steps -/

/-- Who takes the client to a state, or has it to lead out of there, goes on to lead it out as
long as it is there, and is not over before. -/
def Step.LeadsOut (state : Lifecycle) (client : Client) (operation : Operation)
    (step : Step Operation OperationValue) : Prop :=
  operation.leadsOut state = true ∨ client.state ≠ state →
    step.Holds (fun client' next => client'.state = state → next.leadsOut state = true)
      fun client' _ => client'.state ≠ state

section Steps

variable {turn : Turn} {client : Client} {state : Lifecycle}

/-- A step that leaves the state as it is leaves the part of its operation as it is. -/
theorem Step.LeadsOut.of_stays
    {operation : Operation} {step : Step Operation OperationValue}
    (stays : step.Holds
      (fun client' next => client'.state = client.state ∧
        (operation.leadsOut state = true → next.leadsOut state = true))
      fun client' _ => client'.state = client.state ∧ operation.leadsOut state = false) :
    step.LeadsOut state client operation := by
  intro part
  refine stays.mono ?_ ?_
  · rintro client' next ⟨same, goesOn⟩ isThere
    rcases part with leads | elsewhere
    · exact goesOn leads
    · exact absurd (same.symm.trans isThere) elsewhere
  · rintro client' _ ⟨same, apart⟩ isThere
    rcases part with leads | elsewhere
    · exact absurd (apart.symm.trans leads) Bool.false_ne_true
    · exact absurd (same.symm.trans isThere) elsewhere

theorem Step.LeadsOut.of_fixes
    {operation : Operation} {step : Step Operation OperationValue}
    (fixes : step.Fixes Client.state client) (apart : operation.leadsOut state = false) :
    step.LeadsOut state client operation :=
  .of_stays <| fixes.mono
    (fun _ _ same => ⟨same, fun leads => absurd (apart.symm.trans leads) Bool.false_ne_true⟩)
    fun _ _ same => ⟨same, apart⟩

theorem Initializing.step_leadsOut (transient : state.isTransient = true) (stage : Initializing) :
    ((stage.step turn client).map .openSession .initialized).LeadsOut state client
      (.openSession stage) := by
  cases stage with
  | starting workspace custom =>
      intro part
      have elsewhere : client.state ≠ state := by simpa [Operation.leadsOut, isHandshaking] using part
      simp only [step]
      split
      · rintro rfl
        rfl
      · exact elsewhere
  | preparing workspace custom =>
      apply Step.LeadsOut.of_stays
      simp only [step, prepare]
      split <;> exact ⟨rfl, id⟩
  | registering workspace rootUri options registered =>
      apply Step.LeadsOut.of_stays
      simp only [step, register]
      split <;> exact ⟨rfl, id⟩
  | calling workspace call =>
      apply Step.LeadsOut.of_stays
      simp only [step, Step.holds_map, Step.holds_lift]
      refine (call.step_fixes ignoresOutlet_state ignoresCalls_state).mono
        (fun _ _ same => ⟨same, id⟩) fun client' answer same => ?_
      cases answer with
      | error error => exact ⟨same, id⟩
      | ok value =>
          simp only [announce]
          split <;> exact ⟨same, id⟩
  | announcing workspace result frame =>
      apply Step.LeadsOut.of_stays
      simp only [step, Step.holds_map, Step.holds_lift]
      refine (frame.step_fixes ignoresOutlet_state).mono
        (fun _ _ same => ⟨same, id⟩) fun client' sent same => ?_
      cases sent <;> exact ⟨same, id⟩
  | settling workspace result =>
      by_cases isInitializing : client.state = .initializing
      · intro part
        simp only [step, isInitializing, if_true]
        rintro rfl
        cases transient
      · apply Step.LeadsOut.of_stays
        simp only [step, isInitializing, if_false]
        exact ⟨rfl, id⟩
  | preloading result files =>
      refine .of_fixes (Step.Fixes.map ?_) (Bool.and_false _)
      refine (files.step_fixes ignoresOutlet_state ignoresDocuments_state).lift ?_
      intro client' loaded
      cases loaded <;> rfl
  | failing error =>
      rintro part (isThere : client.state.failHandshake error.message = state)
      cases before : client.state with
      | initializing | ready =>
          rw [before] at isThere
          rw [← isThere] at transient
          cases transient
      | starting | shuttingDown | closed | error =>
          rw [before] at isThere part
          obtain rfl := isThere
          simp [Operation.leadsOut, Lifecycle.failHandshake] at part

theorem Closing.step_leadsOut
    (transient : state.isTransient = true) {stage : Closing} (guarded : stage.IsGuarded client) :
    ((stage.step turn client).map .close .exited).LeadsOut state client (.close stage) := by
  by_cases first : stage = .starting
  · subst first
    intro part
    have elsewhere : client.state ≠ state := by simpa [Operation.leadsOut] using part
    simp only [step]
    split
    · exact elsewhere
    · rintro rfl
      rfl
  · have closing := (Lifecycle.isClosing_iff_rank _).mp (guarded first)
    have follows : (stage.step turn client).FollowsArrows client := Closing.step_follows guarded
    have phase : (stage.step turn client).Keeps fun next => stage.phase ≤ next.phase :=
      stage.step_phase
    rintro -
    cases inside : stage.step turn client with
    | blocked => trivial
    | running client' next =>
        rintro rfl
        have far := closing.trans (follows.of_running inside).rank_le
        have beyond : next ≠ .starting := Closing.ne_starting_of_phase
          ((Closing.phase_pos first).trans_le (phase.of_running inside))
        simp [Operation.leadsOut, Lifecycle.eq_shuttingDown_of_transient transient far, beyond]
    | finished client' result =>
        obtain ⟨status, _, rfl, _⟩ := Closing.eq_settling_of_finished inside first
        rintro rfl
        cases transient

/-- Every operation does its part in leading the client out of a transient state. -/
theorem Operation.step_leadsOut
    (turn : Turn) (transient : state.isTransient = true) {operation : Operation}
    (guarded : operation.IsGuarded client) :
    (operation.step turn client).LeadsOut state client operation := by
  cases operation with
  | openSession stage => exact stage.step_leadsOut transient
  | close stage => exact Closing.step_leadsOut transient guarded
  | _ => exact .of_fixes (Operation.step_takesTo turn _) rfl

end Steps

/-! ## Effects -/

/-- A task that has taken a step has what it goes on with. -/
theorem Session.task?_setTask_self
    {session : Session} {client : Client} {task : TaskId} {operation next : Operation}
    (found : session.task? task = some operation) :
    (({ session with client } : Session).setTask task next).task? task = some next := by
  rw [task?_setTask, if_pos rfl]
  exact congrArg (Option.map fun _ => next) found

namespace Session.Effect

variable {session after : Session} {action : Action} {state : Lifecycle}

/-- Only a step of an operation takes the client to a transient state, and this one is to lead
it out again. -/
theorem exists_leadsOut
    (effect : Effect session action after) (guarded : session.IsGuarded)
    (transient : state.isTransient = true) (elsewhere : session.client.state ≠ state)
    (isThere : after.client.state = state) :
    ∃ task operation, after.task? task = some operation ∧ operation.leadsOut state = true := by
  cases effect with
  | @advanced task portion operation next client found step =>
      have part := operation.step_leadsOut ⟨task, portion⟩ transient (guarded task operation found)
      exact ⟨task, next, task?_setTask_self found, (part (Or.inr elsewhere)).of_running step isThere⟩
  | @ended task portion operation client result found step =>
      have part := operation.step_leadsOut ⟨task, portion⟩ transient (guarded task operation found)
      exact absurd isThere ((part (Or.inr elsewhere)).of_finished step)
  | @abandoned task operation found noAnswer =>
      exact absurd (operation.abandon_fixes_state.symm.trans isThere) elsewhere
  | @dispatched value rest reading read =>
      obtain ⟨_, calls, diagnostics, sameClient⟩ :=
        dispatch_leaves { session with inbound := ⟨rest, session.inbound.ending⟩ } value
      exact absurd ((congrArg Client.state sameClient).symm.trans isThere) elsewhere
  | @left reason leaving =>
      dsimp only at isThere
      unfold Lifecycle.lose at isThere
      split at isThere
      · exact absurd isThere elsewhere
      · rw [← isThere] at transient
        cases transient
  | _ => exact absurd isThere elsewhere

/-- Who is to lead the client out of a transient state is still to do it behind an action
that leaves it there, unless it was given up. -/
theorem leadsOut
    (effect : Effect session action after) (fresh : session.HasFreshTask)
    (guarded : session.IsGuarded) (transient : state.isTransient = true) {task : TaskId}
    {operation : Operation} (found : session.task? task = some operation)
    (leads : operation.leadsOut state = true) (isThere : after.client.state = state) :
    action = .abandon task ∨
      ∃ next, after.task? task = some next ∧ next.leadsOut state = true := by
  by_cases isTask : action.task? = some task
  · cases effect with
    | @advanced _ portion operation' next client found' step =>
        cases isTask
        obtain rfl := Option.some.inj (found.symm.trans found')
        have part := operation.step_leadsOut ⟨task, portion⟩ transient (guarded task operation found)
        exact Or.inr ⟨next, task?_setTask_self found,
          (part (Or.inl leads)).of_running step isThere⟩
    | @ended _ portion operation' client result found' step =>
        cases isTask
        obtain rfl := Option.some.inj (found.symm.trans found')
        have part := operation.step_leadsOut ⟨task, portion⟩ transient (guarded task operation found)
        exact absurd isThere ((part (Or.inl leads)).of_finished step)
    | abandoned found' noAnswer =>
        cases isTask
        exact Or.inl rfl
    | handled handlers noTask => cases noTask.symm.trans isTask
    | _ => cases isTask
  · refine Or.inr ⟨operation, ?_, leads⟩
    rw [effect.task?_of_ne fresh (fresh.lt found) isTask]
    exact found

end Session.Effect

/-! ## Runs -/

/-- The operation of a task is given up that was to lead the client out of a state. -/
def Transition.GivesUp (transition : Transition) (state : Lifecycle) (task : TaskId) : Prop :=
  transition.action = .abandon task ∧
    ∃ operation, transition.before.task? task = some operation ∧ operation.leadsOut state = true

/-- The operation of a task is to lead the client out of a state, or was given up on its way. -/
def IsLedOut (past : List Transition) (session : Session) (state : Lifecycle) (task : TaskId) :
    Prop :=
  (∃ operation, session.task? task = some operation ∧ operation.leadsOut state = true) ∨
    ∃ dropped, dropped ∈ past ∧ dropped.GivesUp state task

namespace Run

variable {client : Client} {session : Session} {past : List Transition}

/-- In a transient state somebody is to lead the client out of it, or was given up. -/
theorem exists_isLedOut
    (run : Run (Session.connect client) past session) {state : Lifecycle}
    (transient : state.isTransient = true) (elsewhere : client.state ≠ state)
    (isThere : session.client.state = state) :
    ∃ task, IsLedOut past session state task := by
  induction run with
  | refl => exact absurd isThere elsewhere
  | @step past session after action run applied inductionHypothesis =>
      have effect := Session.effect_of_apply applied
      by_cases wasThere : session.client.state = state
      · obtain ⟨task, ⟨operation, found, leads⟩ | ⟨dropped, member, gives⟩⟩ :=
          inductionHypothesis wasThere
        · refine ⟨task, (effect.leadsOut run.hasFreshTask run.isGuarded transient found leads
            isThere).symm.imp_right fun isAction => ?_⟩
          exact ⟨_, List.mem_append_right past List.mem_cons_self, isAction, operation, found, leads⟩
        · exact ⟨task, Or.inr ⟨dropped, List.mem_append_left _ member, gives⟩⟩
      · obtain ⟨task, operation, found, leads⟩ :=
          effect.exists_leadsOut run.isGuarded transient wasThere isThere
        exact ⟨task, Or.inl ⟨operation, found, leads⟩⟩

end Run

/-! ## A closing that is given up -/

/-- A client that is being closed stays so behind every step but the last one of closing it. -/
theorem Operation.stateAfter_shuttingDown (operation : Operation) :
    operation.stateAfter .shuttingDown = .shuttingDown ∨
      ∃ status, operation = .close (.settling status) := by
  cases operation with
  | openSession stage =>
      cases stage with
      | starting | preparing | registering | calling | announcing | settling | preloading
      | failing =>
          exact Or.inl rfl
  | close stage =>
      cases stage with
      | settling status => exact Or.inr ⟨status, rfl⟩
      | starting | closingFiles | shuttingDown | exiting | closingInput | reaping | awaiting =>
          exact Or.inl rfl
  | _ => exact Or.inl rfl

namespace Session

variable {session after : Session} {action : Action}

theorem Effect.closes_of_shuttingDown
    (effect : Effect session action after) (isThere : session.client.state = .shuttingDown) :
    after.client.state = .shuttingDown ∨
      ∃ task portion status, action = .advance task portion ∧
        session.task? task = some (.close (.settling status)) := by
  cases effect with
  | @advanced task portion operation next client found step =>
      have takes := (operation.step_takesTo ⟨task, portion⟩).of_running step
      rw [isThere] at takes
      rcases operation.stateAfter_shuttingDown with same | ⟨status, rfl⟩
      · exact Or.inl (takes.trans same)
      · exact Or.inr ⟨task, portion, status, rfl, found⟩
  | @ended task portion operation client result found step =>
      have takes := (operation.step_takesTo ⟨task, portion⟩).of_finished step
      rw [isThere] at takes
      rcases operation.stateAfter_shuttingDown with same | ⟨status, rfl⟩
      · exact Or.inl (takes.trans same)
      · exact Or.inr ⟨task, portion, status, rfl, found⟩
  | @abandoned task operation found noAnswer =>
      exact Or.inl (operation.abandon_fixes_state.trans isThere)
  | @dispatched value rest reading read =>
      obtain ⟨_, calls, diagnostics, sameClient⟩ :=
        dispatch_leaves { session with inbound := ⟨rest, session.inbound.ending⟩ } value
      exact Or.inl ((congrArg Client.state sameClient).trans isThere)
  | @left reason leaving =>
      left
      simp only [isThere]
      rfl
  | _ => exact Or.inl isThere

end Session

namespace Run

variable {client : Client} {session : Session} {past : List Transition}

/-- While somebody is beyond the first stage of closing the client, it is being closed and
not closed yet. -/
theorem shuttingDown_of_closing
    (run : Run (Session.connect client) past session) {task : TaskId} {stage : Closing}
    (found : session.task? task = some (.close stage)) (beyond : stage ≠ .starting) :
    session.client.state = .shuttingDown := by
  induction run generalizing stage with
  | refl => cases found
  | @step past session after action run applied inductionHypothesis =>
      have effect := Session.effect_of_apply applied
      by_cases closing : ∃ stage', session.task? task = some (.close stage') ∧ stage' ≠ .starting
      · obtain ⟨stage', found', beyond'⟩ := closing
        rcases effect.closes_of_shuttingDown (inductionHypothesis found' beyond') with
          stays | ⟨other, portion, status, rfl, settles⟩
        · exact stays
        · obtain rfl := run.closing_unique found' beyond' settles (by simp)
          exact nomatch (Session.task?_of_settling applied settles).symm.trans found
      · rcases effect.closing_cases run.hasFreshTask found with
          same | first | ⟨portion, before, rfl, found', inside⟩
        · exact absurd ⟨stage, same, beyond⟩ closing
        · exact absurd first beyond
        · obtain rfl : before = .starting := by
            by_contra first
            exact closing ⟨before, found', first⟩
          obtain ⟨after', applied', refused, accepted⟩ := Session.advance_closing found' portion
          obtain rfl := Option.some.inj (applied.symm.trans applied')
          cases isClosing : session.client.state.isClosing with
          | false => exact (accepted isClosing).1
          | true =>
              rw [refused isClosing, Session.task?_turnAway] at found
              cases found

/-- Once a closing is given up on its way the client stays where it is, and nobody is beyond
the first stage of closing it any more. -/
theorem abandoned_of_givesUp
    {earlier later : List Transition} {dropped : Transition} {task : TaskId}
    (run : Run (Session.connect client) (earlier ++ dropped :: later) session)
    (gives : dropped.GivesUp .shuttingDown task) :
    session.client.state = .shuttingDown ∧
      ∀ other stage, session.task? other = some (.close stage) → stage = .starting := by
  obtain ⟨runBefore, applied⟩ := run.before_transition
  obtain ⟨isAction, operation, found, leads⟩ := gives
  obtain ⟨stage, rfl, beyond⟩ := Operation.leadsOut_shuttingDown_iff.mp leads
  have wasThere := runBefore.shuttingDown_of_closing found beyond
  refine run.from_transition
    (motive := fun _ session => session.client.state = .shuttingDown ∧
      ∀ other stage, session.task? other = some (.close stage) → stage = .starting) ?_ ?_
  · generalize dropped.action = action at isAction applied
    subst isAction
    have effect := Session.effect_of_apply applied
    generalize dropped.after = after at effect
    cases effect with
    | @abandoned _ operation found' noAnswer =>
        refine ⟨operation.abandon_fixes_state.trans wasThere, fun other stage' foundOther => ?_⟩
        by_contra beyond'
        have before : (dropped.before.dropTask task).task? other = some (.close stage') := foundOther
        rw [Session.task?_dropTask] at before
        split at before
        · cases before
        · rename_i different
          exact different (runBefore.closing_unique found beyond before beyond')
    | handled handlers noTask => cases noTask
  · rintro past session action after run applied ⟨isThere, nobody⟩
    have effect := Session.effect_of_apply applied
    constructor
    · rcases effect.closes_of_shuttingDown isThere with stays | ⟨other, _, status, _, settles⟩
      · exact stays
      · cases nobody other _ settles
    · intro other stage found
      rcases effect.closing_cases run.hasFreshTask found with
        same | first | ⟨portion, before, isAction, found', inside⟩
      · exact nobody other stage same
      · exact first
      · obtain rfl := nobody other before found'
        simp [Closing.step, isThere, Lifecycle.isClosing] at inside

end Run

/-! ## The whole -/

structure LeavesTransientStates (past : List Transition) (session : Session) : Prop where
  /-- While the session is being opened, the opening that has claimed the client is at work, or
  it was given up. -/
  initializing : session.client.state = .initializing →
    ∃ task, task ∈ claims past ∧
      ((∃ stage, session.task? task = some (.openSession stage) ∧ stage.isHandshaking = true) ∨
        ∃ dropped, dropped ∈ past ∧ dropped.GivesUp .initializing task)
  /-- While the client is being closed, the closing that has passed the gate is at work, or it
  was given up. -/
  shuttingDown : session.client.state = .shuttingDown →
    ∃ task, task ∈ closers past ∧
      ((∃ stage, session.task? task = some (.close stage) ∧ stage ≠ .starting) ∨
        ∃ dropped, dropped ∈ past ∧ dropped.GivesUp .shuttingDown task)
  /-- Behind a closing that was given up the client is never closed: everybody else who is to
  close it is turned away. -/
  stuck : ∀ dropped, dropped ∈ past → ∀ task, dropped.GivesUp .shuttingDown task →
    session.client.state = .shuttingDown ∧
      ∀ other stage, session.task? other = some (.close stage) →
        stage = .starting ∧ ∀ portion,
          session.apply (.advance other portion) = some (session.turnAway other .alreadyClosed)
  /-- As long as nobody has begun to close the client, the first to try gets to do it, also
  behind an opening that was given up. -/
  closable : session.client.state.isClosing = false →
    ∀ task, session.task? task = some (.close .starting) → ∀ portion,
      ∃ after stage, session.apply (.advance task portion) = some after ∧
        after.client.state = .shuttingDown ∧ after.task? task = some (.close stage)

namespace Run

variable {client : Client} {session : Session} {past : List Transition}

private theorem mem_claims_of_leadsOut
    (run : Run (Session.connect client) past session) {task : TaskId} {operation : Operation}
    (found : session.task? task = some operation)
    (leads : operation.leadsOut .initializing = true) :
    task ∈ claims past ∧
      ∃ stage, session.task? task = some (.openSession stage) ∧ stage.isHandshaking = true := by
  obtain ⟨stage, rfl, handshaking⟩ := Operation.leadsOut_initializing_iff.mp leads
  refine ⟨run.mem_claims found ?_, stage, found, handshaking⟩
  rintro workspace custom rfl
  cases handshaking

private theorem mem_closers_of_leadsOut
    (run : Run (Session.connect client) past session) {task : TaskId} {operation : Operation}
    (found : session.task? task = some operation)
    (leads : operation.leadsOut .shuttingDown = true) :
    task ∈ closers past ∧
      ∃ stage, session.task? task = some (.close stage) ∧ stage ≠ .starting := by
  obtain ⟨stage, rfl, beyond⟩ := Operation.leadsOut_shuttingDown_iff.mp leads
  exact ⟨run.mem_closers found beyond, stage, found, beyond⟩

/-- A client that is to be opened stays in no transient state, unless somebody gives up. -/
theorem leavesTransientStates
    (run : Run (Session.connect client) past session) (unopened : client.state = .starting) :
    LeavesTransientStates past session := by
  have before {dropped : Transition} (member : dropped ∈ past) :
      ∃ earlier later, past = earlier ++ dropped :: later ∧
        Run (Session.connect client) earlier dropped.before := by
    obtain ⟨earlier, later, rfl⟩ := List.append_of_mem member
    exact ⟨earlier, later, rfl, run.before_transition.1⟩
  constructor
  case initializing =>
    intro isThere
    obtain ⟨task, ⟨operation, found, leads⟩ | ⟨dropped, member, gives⟩⟩ :=
      run.exists_isLedOut rfl (by simp [unopened]) isThere
    · obtain ⟨isClaimed, atWork⟩ := run.mem_claims_of_leadsOut found leads
      exact ⟨task, isClaimed, Or.inl atWork⟩
    · obtain ⟨earlier, later, rfl, runBefore⟩ := before member
      have ⟨_, operation, found, leads⟩ := gives
      have isClaimed := (runBefore.mem_claims_of_leadsOut found leads).1
      exact ⟨task, claims_subset _ _ isClaimed, Or.inr ⟨dropped, member, gives⟩⟩
  case shuttingDown =>
    intro isThere
    obtain ⟨task, ⟨operation, found, leads⟩ | ⟨dropped, member, gives⟩⟩ :=
      run.exists_isLedOut rfl (by simp [unopened]) isThere
    · obtain ⟨closes, atWork⟩ := run.mem_closers_of_leadsOut found leads
      exact ⟨task, closes, Or.inl atWork⟩
    · obtain ⟨earlier, later, rfl, runBefore⟩ := before member
      have ⟨_, operation, found, leads⟩ := gives
      have closes := (runBefore.mem_closers_of_leadsOut found leads).1
      exact ⟨task, closers_subset _ _ closes, Or.inr ⟨dropped, member, gives⟩⟩
  case stuck =>
    intro dropped member task gives
    obtain ⟨earlier, later, rfl, _⟩ := before member
    obtain ⟨isThere, nobody⟩ := run.abandoned_of_givesUp gives
    refine ⟨isThere, fun other stage found => ?_⟩
    obtain rfl := nobody other stage found
    refine ⟨rfl, fun portion => ?_⟩
    obtain ⟨after, applied, refused, _⟩ := Session.advance_closing found portion
    rw [applied, refused (by rw [isThere]; rfl)]
  case closable =>
    intro isOpen task found portion
    obtain ⟨after, applied, _, accepted⟩ := Session.advance_closing found portion
    obtain ⟨isThere, stage, goesOn⟩ := accepted isOpen
    exact ⟨after, stage, applied, isThere, goesOn⟩

end Run

/-- The opening of the session and the closing of the client are given up, each behind its
first step, and somebody else tries to close the client. -/
def givenUpTwice : List Action :=
  [.start (.openSession (.ofString "/") none), .advance 0 1024, .abandon 0, .start .close,
    .advance 1 1024, .abandon 1, .start .close, .advance 2 1024]

theorem Run.leavesTransientStates_givenUpTwice :
    ∃ past session,
      Run (Session.connect (.connect { processId := 1 } 1024 (.directory []) [])) past session ∧
        past.map Transition.action = givenUpTwice ∧ session.client.state = .shuttingDown ∧
          session.results = [(2, .error .alreadyClosed)] ∧
            LeavesTransientStates past session := by
  have outcome :
      ((Session.connect (.connect { processId := 1 } 1024 (.directory []) [])).run
        givenUpTwice).map (fun session => (session.client.state, session.results)) =
          some (.shuttingDown, [(2, .error .alreadyClosed)]) := by
    decide +kernel
  obtain ⟨session, ran, outcome⟩ := Option.map_eq_some_iff.mp outcome
  obtain ⟨state, results⟩ := Prod.ext_iff.mp outcome
  have run := Run.of_run ran .refl
  exact ⟨_, session, run, Session.map_action_transitions ran, state, results,
    run.leavesTransientStates rfl⟩

/-- In a transient state somebody is at work who leads the client out of it. -/
def Session.IsAttended (session : Session) : Prop :=
  (session.client.state = .initializing →
      ∃ task stage, session.task? task = some (.openSession stage)) ∧
    (session.client.state = .shuttingDown →
      ∃ task stage, session.task? task = some (.close stage))

/-- Behind the closing that was given up nobody is at work. -/
theorem Run.not_isAttended_givenUpTwice :
    ∃ past session,
      Run (Session.connect (.connect { processId := 1 } 1024 (.directory []) [])) past session ∧
        past.map Transition.action = givenUpTwice.take 6 ∧
          session.client.state = .shuttingDown ∧ ¬ session.IsAttended := by
  have outcome :
      ((Session.connect (.connect { processId := 1 } 1024 (.directory []) [])).run
        (givenUpTwice.take 6)).map
          (fun session => (session.client.state, session.tasks.isEmpty)) =
            some (.shuttingDown, true) := by
    decide +kernel
  obtain ⟨session, ran, outcome⟩ := Option.map_eq_some_iff.mp outcome
  obtain ⟨state, noTask⟩ := Prod.ext_iff.mp outcome
  refine ⟨_, session, Run.of_run ran .refl, Session.map_action_transitions ran, state, ?_⟩
  rintro ⟨_, closing⟩
  obtain ⟨task, stage, found⟩ := closing state
  rw [Session.task?, List.isEmpty_iff.mp noTask] at found
  cases found

end LanguageClient
