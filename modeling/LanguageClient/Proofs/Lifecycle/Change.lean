import LanguageClient.Proofs.Operation.Message
import LanguageClient.Proofs.Operation.Untouched

/-!
# Changes of the state

The arrows between the states of a client, and who takes them: opening a session and
closing the client take one step in which the state changes at a time, all other
operations leave it as it is.
-/

namespace LanguageClient

/-! ## Arrows -/

namespace Lifecycle

inductive Arrow : Lifecycle → Lifecycle → Prop
  | claim : Arrow .starting .initializing
  | fail {state : Lifecycle} (reason : String) :
      state.isClosing = false → Arrow state (.error reason)
  | «open» : Arrow .initializing .ready
  | close {state : Lifecycle} : state.isClosing = false → Arrow state .shuttingDown
  | finish : Arrow .shuttingDown .closed

/-- The state is as before, or it has changed along an arrow. -/
def Follows (state next : Lifecycle) : Prop :=
  next = state ∨ Arrow state next

/-- How far a state is on the way; no arrow leads back. -/
def rank : Lifecycle → Nat
  | .starting => 0
  | .initializing => 1
  | .ready => 2
  | .error _ => 3
  | .shuttingDown => 4
  | .closed => 5

theorem rank_lt_of_open {state : Lifecycle} (working : state.isClosing = false) :
    state.rank ≤ 3 := by
  cases state with
  | shuttingDown | closed => cases working
  | error reason => exact Nat.le_refl 3
  | starting | initializing | ready => decide

theorem Arrow.rank_le {state next : Lifecycle} (arrow : Arrow state next) :
    state.rank ≤ next.rank := by
  cases arrow with
  | claim => decide
  | fail reason working => exact rank_lt_of_open working
  | «open» => decide
  | close working => exact (rank_lt_of_open working).trans (by decide)
  | finish => decide

theorem Follows.rank_le {state next : Lifecycle} (follows : Follows state next) :
    state.rank ≤ next.rank := by
  rcases follows with rfl | arrow
  · exact Nat.le_refl _
  · exact arrow.rank_le

theorem isClosing_iff_rank (state : Lifecycle) : state.isClosing = true ↔ 4 ≤ state.rank := by
  cases state <;> simp [isClosing, rank]

theorem follows_lose (state : Lifecycle) (reason : String) : Follows state (state.lose reason) := by
  unfold lose
  cases working : state.isClosing with
  | true => exact Or.inl rfl
  | false => exact Or.inr (.fail reason working)

theorem follows_failHandshake (state : Lifecycle) (reason : String) :
    Follows state (state.failHandshake reason) := by
  cases state with
  | initializing | ready => exact Or.inr (.fail reason rfl)
  | _ => exact Or.inl rfl

/-- A handshake that fails on its way takes the client out of use. -/
theorem rank_of_failHandshake
    {state : Lifecycle} (claimed : 1 ≤ state.rank) (reason : String) :
    3 ≤ (state.failHandshake reason).rank := by
  cases state with
  | starting => cases claimed
  | initializing | ready => exact Nat.le_refl 3
  | error | shuttingDown | closed => simp [failHandshake, rank]

end Lifecycle

/-! ## Steps of operations -/

variable {turn : Turn} {task : TaskId} {client : Client}

theorem ignoresOutlet_state : IgnoresOutlet Client.state :=
  fun _ _ _ _ => rfl

theorem ignoresDocuments_state : IgnoresDocuments Client.state :=
  fun _ _ _ => rfl

theorem ignoresCalls_state : IgnoresCalls Client.state :=
  fun _ _ => rfl

/-- Whatever a step comes to, the client is in a given state behind it. -/
def Step.TakesTo {σ α : Type} (state : Lifecycle) (step : Step σ α) : Prop :=
  step.Holds (fun client' _ => client'.state = state) fun client' _ => client'.state = state

/-- Whatever a step comes to, the state of the client is as before or has changed along
an arrow. -/
def Step.FollowsArrows {σ α : Type} (client : Client) (step : Step σ α) : Prop :=
  step.Holds (fun client' _ => client.state.Follows client'.state)
    (fun client' _ => client.state.Follows client'.state)

namespace Step.TakesTo

variable {σ τ α β : Type} {state : Lifecycle} {step : Step σ α}

theorem map
    {stage : σ → τ} {value : α → β} (takes : step.TakesTo state) :
    (step.map stage value).TakesTo state := by
  unfold Step.TakesTo
  rw [Step.holds_map]
  exact takes

theorem follows (takes : step.TakesTo state) (follows : client.state.Follows state) :
    step.FollowsArrows client :=
  takes.mono (fun _ _ same => same ▸ follows) fun _ _ same => same ▸ follows

end Step.TakesTo

/-! ## Opening a session -/

namespace Initializing

/-- The state behind a step of opening a session. -/
def stateAfter (state : Lifecycle) : Initializing → Lifecycle
  | .starting _ _ => if state = .starting then .initializing else state
  | .settling _ _ => if state = .initializing then .ready else state
  | .failing error => state.failHandshake error.message
  | .preparing _ _ | .registering _ _ _ _ | .calling _ _ | .announcing _ _ _
  | .preloading _ _ => state

theorem step_takesTo (stage : Initializing) :
    (stage.step turn client).TakesTo (stage.stateAfter client.state) := by
  cases stage with
  | starting workspace custom =>
      by_cases isStarting : client.state = .starting <;>
        simp [step, Step.TakesTo, stateAfter, isStarting]
  | settling workspace result =>
      by_cases isInitializing : client.state = .initializing <;>
        simp [step, Step.TakesTo, stateAfter, isInitializing]
  | failing error => exact rfl
  | preparing workspace custom =>
      simp only [step, prepare]
      split <;> exact rfl
  | registering workspace rootUri options registered =>
      simp only [step, register]
      split <;> exact rfl
  | calling workspace call =>
      apply (call.step_fixes ignoresOutlet_state ignoresCalls_state).lift
      intro client' answer
      cases answer with
      | error error => rfl
      | ok value =>
          simp only [announce]
          split <;> rfl
  | announcing workspace result frame =>
      apply (frame.step_fixes ignoresOutlet_state).lift
      intro client' sent
      cases sent <;> rfl
  | preloading result files =>
      apply (files.step_fixes ignoresOutlet_state ignoresDocuments_state).lift
      intro client' loaded
      cases loaded <;> rfl

theorem follows_stateAfter (state : Lifecycle) (stage : Initializing) :
    state.Follows (stage.stateAfter state) := by
  cases stage with
  | starting workspace custom =>
      simp only [stateAfter]
      split
      · rename_i isStarting
        exact Or.inr (isStarting ▸ .claim)
      · exact Or.inl rfl
  | settling workspace result =>
      simp only [stateAfter]
      split
      · rename_i isInitializing
        exact Or.inr (isInitializing ▸ .open)
      · exact Or.inl rfl
  | failing error => exact state.follows_failHandshake error.message
  | preparing | registering | calling | announcing | preloading => exact Or.inl rfl

end Initializing

/-! ## Closing the client -/

/-- A client that is being closed stays so; the first step of closing it takes it there. -/
def Closing.IsGuarded (client : Client) (stage : Closing) : Prop :=
  stage ≠ .starting → client.state.isClosing = true

namespace Closing

def stateAfter (state : Lifecycle) : Closing → Lifecycle
  | .starting => if state.isClosing then state else .shuttingDown
  | .settling _ => .closed
  | .closingFiles _ | .shuttingDown _ | .exiting _ | .closingInput _ | .reaping | .awaiting _ =>
      state

theorem step_takesTo (stage : Closing) :
    (stage.step turn client).TakesTo (stage.stateAfter client.state) := by
  cases stage with
  | starting =>
      cases closing : client.state.isClosing <;> simp [step, Step.TakesTo, stateAfter, closing]
  | settling status => exact rfl
  | closingFiles files =>
      have inside :
          (Timed.step (ClosingAll.step turn) (ClosingAll.abandon turn.task)
            (.timedOut "textDocument/didClose") client files).Fixes Client.state client :=
        .timed (fun stage => stage.step_fixes ignoresOutlet_state ignoresDocuments_state)
          fun stage => stage.abandon_fixes ignoresOutlet_state ignoresDocuments_state.lock
      exact inside.lift fun _ _ => rfl
  | shuttingDown call =>
      exact (call.step_fixes ignoresOutlet_state ignoresCalls_state).lift fun _ _ => rfl
  | exiting notice => exact (notice.step_fixes ignoresOutlet_state).lift fun _ _ => rfl
  | closingInput input =>
      have inside :
          (Timed.step (ClosingInput.step turn) (ClosingInput.abandon turn.task)
            (.timedOut "exit") client input).Fixes Client.state client :=
        .timed (fun stage => stage.step_fixes ignoresOutlet_state)
          fun stage => stage.abandon_fixes ignoresOutlet_state
      exact inside.lift fun _ _ => rfl
  | reaping =>
      simp only [step]
      split <;> exact rfl
  | awaiting deadline =>
      simp only [step]
      split
      · exact rfl
      · exact rfl
      · split
        · exact rfl
        · trivial

theorem follows_stateAfter {stage : Closing} (guarded : stage.IsGuarded client) :
    client.state.Follows (stage.stateAfter client.state) := by
  cases stage with
  | starting =>
      cases closing : client.state.isClosing with
      | true => exact Or.inl (if_pos closing)
      | false => exact Or.inr (by simpa [stateAfter, closing] using .close closing)
  | settling status =>
      have closing := guarded (by simp)
      have follows : client.state.Follows .closed := by
        cases state : client.state with
        | shuttingDown => exact Or.inr .finish
        | closed => exact Or.inl rfl
        | _ => rw [state] at closing; cases closing
      exact follows
  | closingFiles | shuttingDown | exiting | closingInput | reaping | awaiting => exact Or.inl rfl

theorem step_follows {stage : Closing} (guarded : stage.IsGuarded client) :
    (stage.step turn client).FollowsArrows client :=
  stage.step_takesTo.follows (follows_stateAfter guarded)

end Closing

/-- Behind its first stage the closing of a client finds the client being closed. -/
theorem Closing.step_guards {stage : Closing} (guarded : stage.IsGuarded client) :
    (stage.step turn client).Holds (fun client' _ => client'.state.isClosing = true)
      fun _ _ => True := by
  cases stage with
  | starting =>
      simp only [step]
      split
      · trivial
      · exact rfl
  | _ =>
      apply (Closing.step_follows guarded).mono
      · intro client' next follows
        have closing := guarded (by simp)
        rw [Lifecycle.isClosing_iff_rank] at closing ⊢
        exact closing.trans follows.rank_le
      · intros
        trivial

namespace Operation

/-- An operation that closes the client beyond its first stage does so while the client
is being closed. -/
def IsGuarded (client : Client) : Operation → Prop
  | .close stage => stage.IsGuarded client
  | _ => True

/-- The state behind a step of an operation: only opening a session and closing the client
change it. -/
def stateAfter (state : Lifecycle) : Operation → Lifecycle
  | .openSession stage => stage.stateAfter state
  | .close stage => stage.stateAfter state
  | _ => state

theorem step_takesTo (turn : Turn) (operation : Operation) :
    (operation.step turn client).TakesTo (operation.stateAfter client.state) := by
  cases operation with
  | openSession stage => exact stage.step_takesTo.map
  | close stage => exact stage.step_takesTo.map
  | call stage => exact (stage.step_fixes ignoresOutlet_state ignoresCalls_state).map
  | timedCall stage | shutdown stage =>
      exact (TimedCall.step_fixes ignoresOutlet_state ignoresCalls_state stage).map
  | notify stage => exact (stage.step_fixes ignoresOutlet_state).map
  | openFile stage => exact (stage.step_fixes ignoresOutlet_state ignoresDocuments_state).map
  | changeFile stage => exact (stage.step_fixes ignoresOutlet_state ignoresDocuments_state).map
  | closeFile path =>
      simp only [step]
      split <;> rfl
  | closeDocument stage =>
      exact (stage.step_fixes ignoresOutlet_state ignoresDocuments_state).map
  | closeAll stage => exact (stage.step_fixes ignoresOutlet_state ignoresDocuments_state).map
  | waitReady stage => exact stage.step_fixes.map
  | exit stage => exact (Exiting.step_fixes ignoresOutlet_state stage).map
  | preload stage => exact (stage.step_fixes ignoresOutlet_state ignoresDocuments_state).map
  | answer stage => exact (stage.step_fixes ignoresOutlet_state fun _ _ => rfl).map

/-- An operation changes the state of the client along the arrows only. -/
theorem step_follows {operation : Operation} (guarded : operation.IsGuarded client) :
    (operation.step turn client).FollowsArrows client := by
  apply (operation.step_takesTo turn).follows
  cases operation with
  | openSession stage => exact stage.follows_stateAfter client.state
  | close stage => exact Closing.follows_stateAfter guarded
  | _ => exact Or.inl rfl

/-- What an operation goes on with is guarded again. -/
theorem step_guards {operation : Operation} (guarded : operation.IsGuarded client) :
    (operation.step turn client).Holds (fun client' next => next.IsGuarded client')
      fun _ _ => True := by
  cases operation with
  | close stage =>
      simp only [step, Step.holds_map]
      exact (Closing.step_guards guarded).mono (fun _ _ closing _ => closing) fun _ _ _ => trivial
  | closeFile path =>
      simp only [step]
      split <;> trivial
  | _ =>
      simp only [step, Step.holds_map]
      exact (Step.Keeps.trivial _).mono (fun _ _ _ => trivial) fun _ _ _ => trivial

theorem isGuarded_begin (command : Command) : (command.begin client).IsGuarded client := by
  cases command with
  | close => exact fun beyond => absurd rfl beyond
  | _ => trivial

/-- Giving an operation up leaves the state as it is. -/
theorem abandon_fixes_state (operation : Operation) :
    (operation.abandon task client).state = client.state :=
  operation.abandon_fixes ignoresOutlet_state ignoresDocuments_state.lock ignoresCalls_state

end Operation

end LanguageClient
