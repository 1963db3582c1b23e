import LanguageClient.Proofs.Operation.Untouched
import LanguageClient.Proofs.Session.Effect

/-!
# The calls inside operations

Opening a session and closing a client make calls of their own.  Every operation is
seen through the call that it is in the middle of, if any; all that it does to the
table of calls is what that call does.
-/

namespace LanguageClient

def Operation.calling? : Operation → Option Calling
  | .openSession (.calling _ timed) => some timed.stage
  | .call stage => some stage
  | .timedCall timed | .shutdown timed => some timed.stage
  | .close (.shuttingDown timed) => some timed.stage
  | _ => none

/-- What an operation does to the table of calls in one step, and the call it is in the
middle of before and after. -/
inductive CallMove (turn : Turn) (client : Client) :
    Option Calling → PendingCalls → Option Calling → Prop
  | apart : CallMove turn client none client.calls none
  | begins (request : CallRequest) :
      CallMove turn client none client.calls (some (.starting request))
  | rests (call : Calling) : CallMove turn client (some call) client.calls (some call)
  | steps {call next : Calling} {client' : Client} :
      call.step turn client = .running client' next →
      CallMove turn client (some call) client'.calls (some next)
  | returns {call : Calling} {client' : Client} {result : Except ClientError Json} :
      call.step turn client = .finished client' result →
      CallMove turn client (some call) client'.calls none
  | givenUp (call : Calling) :
      CallMove turn client (some call) (call.abandon turn.task client).calls none

def Step.CallMoves
    {σ α : Type} (turn : Turn) (client : Client) (before : Option Calling)
    (calling? : σ → Option Calling) (step : Step σ α) : Prop :=
  step.Holds
    (fun client' stage => CallMove turn client before client'.calls (calling? stage))
    (fun client' _ => CallMove turn client before client'.calls none)

namespace Step.CallMoves

variable {σ τ α β : Type} {turn : Turn} {client : Client} {before : Option Calling}
  {calling? : σ → Option Calling} {step : Step σ α}

/-- What moves as a part moves as the whole, if what follows the part is not in the
middle of a call. -/
theorem lift
    {calling?' : τ → Option Calling} {stage : σ → τ}
    {next : Client → Except ClientError α → Step τ β}
    (moves : step.CallMoves turn client before calling?)
    (sameCall : ∀ inner, calling?' (stage inner) = calling? inner)
    (quiet : ∀ client result,
      (next client result).Holds
        (fun client' stage' => client'.calls = client.calls ∧ calling?' stage' = none)
        (fun client' _ => client'.calls = client.calls)) :
    (step.lift stage next).CallMoves turn client before calling?' := by
  unfold Step.CallMoves
  rw [Step.holds_lift]
  apply moves.mono
  · intro client' inner move
    rw [sameCall]
    exact move
  · intro client' result move
    apply (quiet client' result).mono
    · rintro client'' stage' ⟨sameCalls, noCall⟩
      rw [sameCalls, noCall]
      exact move
    · intro client'' _ sameCalls
      rw [sameCalls]
      exact move

theorem map
    {calling?' : τ → Option Calling} {stage : σ → τ} {value : α → β}
    (moves : step.CallMoves turn client before calling?)
    (sameCall : ∀ inner, calling?' (stage inner) = calling? inner) :
    (step.map stage value).CallMoves turn client before calling?' :=
  moves.lift sameCall fun _ _ => rfl

/-- Operations that are not in the middle of a call leave the table alone. -/
theorem of_fixes
    (fixes : step.Fixes Client.calls client) :
    step.CallMoves turn client none fun _ => none := by
  apply fixes.mono
  · intro client' _ same
    rw [same]
    exact .apart
  · intro client' _ same
    rw [same]
    exact .apart

end Step.CallMoves

theorem ignoresOutlet_calls : IgnoresOutlet Client.calls :=
  fun _ _ _ _ => rfl

theorem ignoresDocuments_calls : IgnoresDocuments Client.calls :=
  fun _ _ _ => rfl

variable (turn : Turn) (task : TaskId) (client : Client)

theorem Calling.step_callMoves (call : Calling) :
    (call.step turn client).CallMoves turn client (some call) some := by
  cases step : call.step turn client with
  | blocked => trivial
  | running client' next => exact .steps step
  | finished client' result => exact .returns step

theorem TimedCall.step_callMoves (call : TimedCall) :
    (call.step turn client).CallMoves turn client (some call.stage)
      fun call => some call.stage := by
  apply Timed.step_holds
  · rintro limit stage rfl
    exact .rests stage
  · rintro deadline stage rfl
    exact stage.step_callMoves turn client
  · rintro deadline stage rfl _ _
    exact .givenUp stage

theorem Initializing.step_callMoves (stage : Initializing) :
    (stage.step turn client).CallMoves turn client (Operation.openSession stage).calling?
      fun stage => (Operation.openSession stage).calling? := by
  cases stage with
  | starting workspace custom =>
      simp only [step]
      split
      · exact .apart
      · exact .apart
  | preparing workspace custom =>
      simp only [step, prepare]
      split
      · exact .apart
      · exact .apart
  | registering workspace rootUri options registered =>
      simp only [step, register]
      split
      · exact .apart
      · exact .begins _
  | calling workspace call =>
      apply (call.step_callMoves turn client).lift
      · intro inner
        rfl
      · intro client' answer
        unfold announce
        split
        · exact ⟨rfl, rfl⟩
        · split
          · exact ⟨rfl, rfl⟩
          · exact ⟨rfl, rfl⟩
  | announcing workspace result frame =>
      apply (Step.CallMoves.of_fixes (frame.step_fixes ignoresOutlet_calls)).lift
      · intro inner
        rfl
      · intro client' sent
        cases sent <;> exact ⟨rfl, rfl⟩
  | settling workspace result =>
      simp only [step]
      split
      · exact .apart
      · exact .apart
  | preloading result files =>
      apply (Step.CallMoves.of_fixes
        (files.step_fixes ignoresOutlet_calls ignoresDocuments_calls)).lift
      · intro inner
        rfl
      · intro client' loaded
        cases loaded with
        | ok value => rfl
        | error error => exact ⟨rfl, rfl⟩
  | failing error => exact .apart

theorem Closing.step_callMoves (stage : Closing) :
    (stage.step turn client).CallMoves turn client (Operation.close stage).calling?
      fun stage => (Operation.close stage).calling? := by
  cases stage with
  | starting =>
      simp only [step]
      split
      · exact .apart
      · exact .apart
  | closingFiles files =>
      have inside :
          (Timed.step (ClosingAll.step turn) (ClosingAll.abandon turn.task)
            (.timedOut "textDocument/didClose") client files).Fixes Client.calls client :=
        .timed (fun stage => stage.step_fixes ignoresOutlet_calls ignoresDocuments_calls)
          fun stage => stage.abandon_fixes ignoresOutlet_calls ignoresDocuments_calls.lock
      unfold Step.CallMoves
      simp only [step, Step.holds_lift]
      apply inside.mono
      · intro client' files' same
        rw [same]
        exact .apart
      · intro client' result same
        simp only [Step.holds_running]
        rw [same]
        exact .begins _
  | shuttingDown call =>
      apply (call.step_callMoves turn client).lift
      · intro inner
        rfl
      · intro client' result
        exact ⟨rfl, rfl⟩
  | exiting notice =>
      apply (Step.CallMoves.of_fixes (Exiting.step_fixes ignoresOutlet_calls notice)).lift
      · intro inner
        rfl
      · intro client' result
        exact ⟨rfl, rfl⟩
  | closingInput input =>
      have inside :
          (Timed.step (ClosingInput.step turn) (ClosingInput.abandon turn.task)
            (.timedOut "exit") client input).Fixes Client.calls client :=
        .timed (fun stage => stage.step_fixes ignoresOutlet_calls) fun stage =>
          stage.abandon_fixes ignoresOutlet_calls
      apply (Step.CallMoves.of_fixes inside).lift
      · intro inner
        rfl
      · intro client' result
        exact ⟨rfl, rfl⟩
  | reaping =>
      simp only [step]
      split
      · exact .apart
      · exact .apart
  | awaiting deadline =>
      simp only [step]
      split
      · exact .apart
      · exact .apart
      · split
        · exact .apart
        · trivial
  | settling status => exact .apart

namespace Operation

/-- Every step of an operation is a move on the table of calls. -/
theorem step_callMoves (operation : Operation) :
    (operation.step turn client).CallMoves turn client operation.calling? calling? := by
  cases operation with
  | openSession stage => exact (stage.step_callMoves turn client).map fun _ => rfl
  | call stage => exact (stage.step_callMoves turn client).map fun _ => rfl
  | timedCall stage => exact (TimedCall.step_callMoves turn client stage).map fun _ => rfl
  | notify frame =>
      exact (Step.CallMoves.of_fixes (frame.step_fixes ignoresOutlet_calls)).map fun _ => rfl
  | openFile stage =>
      exact (Step.CallMoves.of_fixes
        (stage.step_fixes ignoresOutlet_calls ignoresDocuments_calls)).map fun _ => rfl
  | changeFile stage =>
      exact (Step.CallMoves.of_fixes
        (stage.step_fixes ignoresOutlet_calls ignoresDocuments_calls)).map fun _ => rfl
  | closeFile path =>
      simp only [step]
      split
      · exact .apart
      · exact .apart
  | closeDocument stage =>
      exact (Step.CallMoves.of_fixes
        (stage.step_fixes ignoresOutlet_calls ignoresDocuments_calls)).map fun _ => rfl
  | closeAll stage =>
      exact (Step.CallMoves.of_fixes
        (stage.step_fixes ignoresOutlet_calls ignoresDocuments_calls)).map fun _ => rfl
  | waitReady stage => exact (Step.CallMoves.of_fixes stage.step_fixes).map fun _ => rfl
  | shutdown stage => exact (TimedCall.step_callMoves turn client stage).map fun _ => rfl
  | exit notice =>
      exact (Step.CallMoves.of_fixes
        (Exiting.step_fixes ignoresOutlet_calls notice)).map fun _ => rfl
  | close stage => exact (stage.step_callMoves turn client).map fun _ => rfl
  | preload stage =>
      exact (Step.CallMoves.of_fixes
        (stage.step_fixes ignoresOutlet_calls ignoresDocuments_calls)).map fun _ => rfl
  | answer stage =>
      exact (Step.CallMoves.of_fixes
        (stage.step_fixes ignoresOutlet_calls fun _ _ => rfl)).map fun _ => rfl

/-- An operation that is given up gives up the call it is in the middle of. -/
theorem abandon_callMove (portion : Nat) (operation : Operation) :
    CallMove ⟨task, portion⟩ client operation.calling? (operation.abandon task client).calls
      none := by
  have apart {client' : Client} (same : client'.calls = client.calls) :
      CallMove ⟨task, portion⟩ client none client'.calls none := by
    rw [same]
    exact .apart
  have call (stage : Calling) :
      CallMove ⟨task, portion⟩ client (some stage) (stage.abandon task client).calls none :=
    .givenUp stage
  cases operation with
  | openSession stage =>
      cases stage with
      | calling workspace timed => exact call timed.stage
      | announcing workspace result frame =>
          exact apart (frame.abandon_fixes ignoresOutlet_calls)
      | preloading result files =>
          exact apart (files.abandon_fixes ignoresOutlet_calls ignoresDocuments_calls.lock)
      | _ => exact .apart
  | call stage => exact .givenUp stage
  | timedCall timed => exact call timed.stage
  | notify frame => exact apart (frame.abandon_fixes ignoresOutlet_calls)
  | openFile stage =>
      exact apart (stage.abandon_fixes ignoresOutlet_calls ignoresDocuments_calls.lock)
  | changeFile stage =>
      exact apart (stage.abandon_fixes ignoresOutlet_calls ignoresDocuments_calls.lock)
  | closeFile path => exact .apart
  | closeDocument stage =>
      exact apart (stage.abandon_fixes ignoresOutlet_calls ignoresDocuments_calls.lock)
  | closeAll stage =>
      exact apart (stage.abandon_fixes ignoresOutlet_calls ignoresDocuments_calls.lock)
  | waitReady stage => exact .apart
  | shutdown timed => exact call timed.stage
  | exit notice => exact apart (notice.stage.abandon_fixes ignoresOutlet_calls)
  | close stage =>
      cases stage with
      | closingFiles files =>
          exact apart (files.stage.abandon_fixes ignoresOutlet_calls ignoresDocuments_calls.lock)
      | shuttingDown timed => exact call timed.stage
      | exiting notice => exact apart (notice.stage.abandon_fixes ignoresOutlet_calls)
      | closingInput input => exact apart (input.stage.abandon_fixes ignoresOutlet_calls)
      | _ => exact .apart
  | preload stage =>
      exact apart (stage.abandon_fixes ignoresOutlet_calls ignoresDocuments_calls.lock)
  | answer stage => exact apart (stage.abandon_fixes ignoresOutlet_calls)

/-- An operation that begins is in the middle of no call that was registered. -/
theorem calling?_begin (command : Command) :
    (command.begin client).calling? = none ∨
      ∃ request, (command.begin client).calling? = some (.starting request) := by
  cases command with
  | call request => exact Or.inr ⟨request, rfl⟩
  | timedCall method params limit => exact Or.inr ⟨_, rfl⟩
  | shutdown => exact Or.inr ⟨_, rfl⟩
  | _ => exact Or.inl rfl

end Operation

end LanguageClient
