import LanguageClient.Proofs.Calls.Move
import LanguageClient.Proofs.Wire.Move

/-!
# Operations that have to wait

An operation has to wait only where one of its parts has to.  A part that sends a frame
waits for the writer or for room in the pipe, and for nothing else.
-/

namespace LanguageClient

/-! ## Parts -/

namespace Step

variable {σ τ α β : Type}

theorem eq_blocked_of_lift
    {step : Step σ α} {stage : σ → τ} {next : Client → Except ClientError α → Step τ β}
    (blocked : step.lift stage next = .blocked)
    (goesOn : ∀ client result, next client result ≠ .blocked) : step = .blocked := by
  cases step with
  | blocked => rfl
  | running client inner => cases blocked
  | finished client result => exact absurd blocked (goesOn client result)

theorem running_ne_blocked (client : Client) (stage : σ) :
    (Step.running client stage : Step σ α) ≠ .blocked := by
  rintro ⟨⟩

theorem finished_ne_blocked (client : Client) (result : Except ClientError α) :
    (Step.finished client result : Step σ α) ≠ .blocked := by
  rintro ⟨⟩

theorem eq_blocked_of_map
    {step : Step σ α} {stage : σ → τ} {value : α → β}
    (blocked : step.map stage value = .blocked) : step = .blocked :=
  eq_blocked_of_lift blocked fun _ _ => finished_ne_blocked _ _

end Step

/-- A part with a limit of time waits where it would without, up to its deadline. -/
theorem Timed.underway_of_blocked
    {σ α : Type} {inner : Client → σ → Step σ α} {abandon : Client → σ → Client}
    {error : ClientError} {client : Client} {timed : Timed σ}
    (blocked : Timed.step inner abandon error client timed = .blocked) :
    ∃ deadline, timed = .underway deadline timed.stage ∧
      inner client timed.stage = .blocked ∧ client.now < deadline := by
  cases timed with
  | waiting limit stage => cases blocked
  | underway deadline stage =>
      cases innerStep : inner client stage with
      | blocked =>
          refine ⟨deadline, rfl, innerStep, ?_⟩
          by_contra due
          simp [Timed.step, innerStep, Nat.le_of_not_lt due] at blocked
      | running client' stage' => simp [Timed.step, innerStep] at blocked
      | finished client' result => simp [Timed.step, innerStep] at blocked

/-- The same of a part that something else follows. -/
theorem Timed.underway_of_lift
    {σ τ α β : Type} {inner : Client → σ → Step σ α} {abandon : Client → σ → Client}
    {error : ClientError} {client : Client} {timed : Timed σ} {stage : Timed σ → τ}
    {next : Client → Except ClientError α → τ}
    (blocked : ((Timed.step inner abandon error client timed).lift stage fun client result =>
      .running client (next client result) : Step τ β) = .blocked) :
    ∃ deadline, timed = .underway deadline timed.stage ∧
      inner client timed.stage = .blocked ∧ client.now < deadline :=
  Timed.underway_of_blocked
    (Step.eq_blocked_of_lift blocked fun _ _ => Step.running_ne_blocked _ _)

/-! ## Waiting for the stream -/

/-- What keeps a task from its next step on the stream: somebody else has the writer, or
the pipe is full before the frame is whole. -/
def WriterUse.IsHeldUp (task : TaskId) (outlet : Outlet) : WriterUse → Prop
  | .apart => True
  | .waiting _ | .closing => outlet.writer.isHeldBy task = false
  | .writing _ rest => rest ≠ [] ∧ outlet.pipe.isBroken = false ∧ outlet.pipe.room = 0

variable {turn : Turn} {client : Client}

theorem Sending.isHeldUp_of_blocked
    {frame : Sending} (blocked : frame.step turn client = .blocked) :
    frame.use.IsHeldUp turn.task client.outlet := by
  cases frame with
  | asking message => trivial
  | queued message =>
      simp only [step] at blocked
      split at blocked
      · split at blocked <;> cases blocked
      · rename_i notHeld
        exact Bool.eq_false_iff.mpr notHeld
  | writing message rest =>
      cases rest with
      | nil => cases blocked
      | cons byte rest =>
          simp only [step] at blocked
          split at blocked
          · cases blocked
          · rename_i unbroken
            split at blocked
            · rename_i full
              refine ⟨List.cons_ne_nil _ _, Bool.eq_false_iff.mpr unbroken, ?_⟩
              change client.pipe.room = 0
              omega
            · cases blocked

theorem Calling.isHeldUp_of_blocked
    {call : Calling} (blocked : call.step turn client = .blocked) :
    call.use.IsHeldUp turn.task client.outlet := by
  cases call with
  | sending request id frame =>
      apply Sending.isHeldUp_of_blocked
      refine Step.eq_blocked_of_lift blocked ?_
      intro client' result
      cases result <;> nofun
  | _ => trivial

theorem TimedCall.isHeldUp_of_blocked
    {timed : TimedCall} (blocked : timed.step turn client = .blocked) :
    timed.stage.use.IsHeldUp turn.task client.outlet := by
  obtain ⟨deadline, _, inside, _⟩ := Timed.underway_of_blocked blocked
  exact Calling.isHeldUp_of_blocked inside

theorem Opening.isHeldUp_of_blocked
    {document : Opening} (blocked : document.step turn client = .blocked) :
    document.use.IsHeldUp turn.task client.outlet := by
  cases document with
  | sending uri frame =>
      apply Sending.isHeldUp_of_blocked
      refine Step.eq_blocked_of_lift blocked ?_
      intro client' result
      cases result <;> nofun
  | _ => trivial

theorem Changing.isHeldUp_of_blocked
    {document : Changing} (blocked : document.step turn client = .blocked) :
    document.use.IsHeldUp turn.task client.outlet := by
  cases document with
  | sending uri version frame =>
      apply Sending.isHeldUp_of_blocked
      refine Step.eq_blocked_of_lift blocked ?_
      intro client' result
      cases result <;> nofun
  | _ => trivial

theorem ClosingDocument.isHeldUp_of_blocked
    {document : ClosingDocument} (blocked : document.step turn client = .blocked) :
    document.use.IsHeldUp turn.task client.outlet := by
  cases document with
  | sending uri drop frame =>
      apply Sending.isHeldUp_of_blocked
      refine Step.eq_blocked_of_lift blocked ?_
      intro client' result
      cases result <;> nofun
  | _ => trivial

theorem ClosingAll.isHeldUp_of_blocked
    {stage : ClosingAll} (blocked : stage.step turn client = .blocked) :
    stage.use.IsHeldUp turn.task client.outlet := by
  cases stage with
  | closing document left closed =>
      apply ClosingDocument.isHeldUp_of_blocked
      refine Step.eq_blocked_of_lift blocked ?_
      intro client' result
      rcases result with error | sent
      · nofun
      · cases sent <;> nofun
  | _ => trivial

theorem Preloading.isHeldUp_of_blocked
    {files : Preloading} (blocked : files.step turn client = .blocked) :
    files.use.IsHeldUp turn.task client.outlet := by
  cases files with
  | opening document left =>
      exact Opening.isHeldUp_of_blocked (Step.eq_blocked_of_lift blocked fun _ _ => Step.running_ne_blocked _ _)
  | _ => trivial

theorem Initializing.announce_ne_blocked
    (client : Client) (workspace : Path) (answer : Except ClientError Json) :
    announce client workspace answer ≠ .blocked := by
  unfold announce
  split
  · nofun
  · split <;> nofun

theorem Initializing.isHeldUp_of_blocked
    {stage : Initializing} (blocked : stage.step turn client = .blocked) :
    stage.use.IsHeldUp turn.task client.outlet := by
  cases stage with
  | calling workspace call =>
      apply TimedCall.isHeldUp_of_blocked
      exact Step.eq_blocked_of_lift blocked fun client' answer =>
        announce_ne_blocked client' workspace answer
  | announcing workspace result frame =>
      apply Sending.isHeldUp_of_blocked
      refine Step.eq_blocked_of_lift blocked ?_
      intro client' sent
      cases sent <;> nofun
  | preloading result files =>
      apply Preloading.isHeldUp_of_blocked
      refine Step.eq_blocked_of_lift blocked ?_
      intro client' loaded
      cases loaded <;> nofun
  | _ => trivial

theorem Exiting.isHeldUp_of_blocked
    {notice : Exiting} (blocked : notice.step turn client = .blocked) :
    notice.stage.use.IsHeldUp turn.task client.outlet := by
  obtain ⟨deadline, _, inside, _⟩ := Timed.underway_of_blocked blocked
  exact Sending.isHeldUp_of_blocked inside

theorem ClosingInput.isHeldUp_of_blocked
    {input : ClosingInput} (blocked : input.step turn client = .blocked) :
    input.use.IsHeldUp turn.task client.outlet := by
  cases input with
  | asking => trivial
  | queued =>
      simp only [step] at blocked
      split at blocked
      · split at blocked <;> cases blocked
      · rename_i notHeld
        exact Bool.eq_false_iff.mpr notHeld

theorem Closing.isHeldUp_of_blocked
    {stage : Closing} (blocked : stage.step turn client = .blocked) :
    stage.use.IsHeldUp turn.task client.outlet := by
  cases stage with
  | closingFiles files =>
      obtain ⟨deadline, _, inside, _⟩ := Timed.underway_of_lift blocked
      exact ClosingAll.isHeldUp_of_blocked inside
  | shuttingDown call =>
      exact TimedCall.isHeldUp_of_blocked (Step.eq_blocked_of_lift blocked fun _ _ => Step.running_ne_blocked _ _)
  | exiting notice => exact Exiting.isHeldUp_of_blocked (Step.eq_blocked_of_lift blocked fun _ _ => Step.running_ne_blocked _ _)
  | closingInput input =>
      obtain ⟨deadline, _, inside, _⟩ := Timed.underway_of_lift blocked
      exact ClosingInput.isHeldUp_of_blocked inside
  | _ => trivial

theorem Answering.isHeldUp_of_blocked
    {stage : Answering} (blocked : stage.step turn client = .blocked) :
    stage.use.IsHeldUp turn.task client.outlet := by
  cases stage with
  | sending frame => exact Sending.isHeldUp_of_blocked (Step.eq_blocked_of_map blocked)
  | _ => trivial

namespace Operation

/-- An operation that has to wait is held up on the stream if it uses the stream at all. -/
theorem isHeldUp_of_blocked
    {operation : Operation} (blocked : operation.step turn client = .blocked) :
    operation.use.IsHeldUp turn.task client.outlet := by
  cases operation with
  | openSession stage => exact Initializing.isHeldUp_of_blocked (Step.eq_blocked_of_map blocked)
  | call stage => exact Calling.isHeldUp_of_blocked (Step.eq_blocked_of_map blocked)
  | timedCall timed | shutdown timed =>
      exact TimedCall.isHeldUp_of_blocked (Step.eq_blocked_of_map blocked)
  | notify frame => exact Sending.isHeldUp_of_blocked (Step.eq_blocked_of_map blocked)
  | openFile stage => exact Opening.isHeldUp_of_blocked (Step.eq_blocked_of_map blocked)
  | changeFile stage => exact Changing.isHeldUp_of_blocked (Step.eq_blocked_of_map blocked)
  | closeDocument stage =>
      exact ClosingDocument.isHeldUp_of_blocked (Step.eq_blocked_of_map blocked)
  | closeAll stage => exact ClosingAll.isHeldUp_of_blocked (Step.eq_blocked_of_map blocked)
  | exit notice => exact Exiting.isHeldUp_of_blocked (Step.eq_blocked_of_map blocked)
  | close stage => exact Closing.isHeldUp_of_blocked (Step.eq_blocked_of_map blocked)
  | preload stage => exact Preloading.isHeldUp_of_blocked (Step.eq_blocked_of_map blocked)
  | answer stage => exact Answering.isHeldUp_of_blocked (Step.eq_blocked_of_map blocked)
  | closeFile path | waitReady stage => trivial

/-- An operation that has to wait in the middle of a call waits where the call does. -/
theorem calling_blocked
    {operation : Operation} (blocked : operation.step turn client = .blocked) {call : Calling}
    (calling : operation.calling? = some call) : call.step turn client = .blocked := by
  have timed {call' : TimedCall} (inside : call'.step turn client = .blocked)
      (stage : call'.stage = call) : call.step turn client = .blocked := by
    obtain ⟨deadline, _, innerStep, _⟩ := Timed.underway_of_blocked inside
    exact stage ▸ innerStep
  cases operation with
  | openSession stage =>
      cases stage with
      | calling workspace call' =>
          refine timed (Step.eq_blocked_of_lift (Step.eq_blocked_of_map blocked) ?_)
            (Option.some.inj calling)
          exact fun client' answer => Initializing.announce_ne_blocked client' workspace answer
      | _ => cases calling
  | call stage =>
      obtain rfl := Option.some.inj calling
      exact Step.eq_blocked_of_map blocked
  | timedCall call' | shutdown call' =>
      exact timed (Step.eq_blocked_of_map blocked) (Option.some.inj calling)
  | close stage =>
      cases stage with
      | shuttingDown call' =>
          exact timed (Step.eq_blocked_of_lift (Step.eq_blocked_of_map blocked)
            fun _ _ => Step.running_ne_blocked _ _)
            (Option.some.inj calling)
      | _ => cases calling
  | _ => cases calling

end Operation

end LanguageClient
