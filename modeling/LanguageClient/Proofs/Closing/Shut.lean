import LanguageClient.Operation.Basic
import LanguageClient.Proofs.Documents.Rest
import LanguageClient.Proofs.Wire.Delivery

/-!
# Operations on a closed stream

An operation that has something to send comes to no good end as long as it does not get to
write, once the client is being closed.
-/

namespace LanguageClient

/-! ## Operations that have to send something -/

/-- Whether a call has not sent its request yet. -/
def Calling.HasToSend : Calling → Prop
  | .starting _ | .sending _ _ _ => True
  | .waiting _ _ => False

/-- Whether a document that is to be opened is not open. -/
def Opening.HasToSend (client : Client) : Opening → Prop
  | .starting path => ∀ uri, Client.uriOf path = .ok uri → client.version? uri = none
  | .locking _ uri => client.version? uri = none
  | .reading _ _ | .sending _ _ => True

/-- Whether an operation cannot come to a good end without sending something more. -/
def Operation.HasToSend (client : Client) : Operation → Prop
  | .openSession (.preloading _ _) => False
  | .openSession _ => True
  | .call stage => stage.HasToSend
  | .timedCall timed | .shutdown timed => timed.stage.HasToSend
  | .openFile stage => stage.HasToSend client
  | .closeDocument (.sending _ _ _) => True
  | .notify _ | .changeFile _ | .exit _ | .answer _ => True
  | .closeFile _ | .closeDocument _ | .closeAll _ | .waitReady _ | .close _ | .preload _ => False

/-- Only the opening of a document depends on what is open. -/
theorem Operation.HasToSend.of_version
    {client client' : Client} {operation : Operation} (hasToSend : operation.HasToSend client)
    (stillAbsent : ∀ uri, client.version? uri = none → client'.version? uri = none) :
    operation.HasToSend client' := by
  cases operation with
  | openFile stage =>
      cases stage with
      | starting path => exact fun uri isUri => stillAbsent uri (hasToSend uri isUri)
      | locking path uri => exact stillAbsent uri hasToSend
      | reading | sending => trivial
  | openSession stage | closeDocument stage => cases stage <;> exact hasToSend
  | _ => exact hasToSend

/-- The commands of users that cannot be carried out without sending something. -/
theorem Command.hasToSend_begin
    (client : Client) (command : Command) :
    (command.begin client).HasToSend client ↔
      match command with
      | .openSession _ _ | .call _ | .timedCall _ _ _ | .notify _ _ | .changeFile _
      | .shutdown | .exit => True
      | .openFile path => client.isOpen path = false
      | .closeFile _ | .closeAll | .waitReady _ | .close | .preload _ _ => False := by
  cases command with
  | openFile path =>
      simp only [begin, Operation.HasToSend, Opening.HasToSend, Client.isOpen]
      cases Client.uriOf path with
      | ok uri => simp
      | error error => simp
  | _ => rfl

/-! ## Steps -/

/-- Whether a task is in the middle of a frame. -/
def WriterUse.isWriting : WriterUse → Bool
  | .writing _ _ => true
  | .apart | .waiting _ | .closing => false

namespace Step

variable {σ τ α β : Type} {stays : Client → τ → Prop}

/-- A step comes to no good end. -/
def Fails (stays : Client → σ → Prop) (step : Step σ α) : Prop :=
  step.Holds stays fun _ result => ∃ error, result = .error error

theorem Fails.map
    {step : Step σ α} {stage : σ → τ} {value : α → β}
    (fails : step.Fails fun client inner => stays client (stage inner)) :
    (step.map stage value).Fails stays := by
  unfold Fails
  rw [holds_map]
  apply fails.mono (fun _ _ stays => stays)
  rintro client result ⟨error, rfl⟩
  exact ⟨error, rfl⟩

end Step

variable {turn : Turn} {client : Client}

/-- A send that ends without having begun its frame has found the stream closed. -/
theorem Sending.step_of_idle
    {frame : Sending} (idle : frame.use.isWriting = false) :
    (frame.step turn client).Holds (fun _ _ => True) fun _ result =>
      result = .error .connectionClosed := by
  cases step : frame.step turn client with
  | blocked | running => trivial
  | finished client' result =>
      cases frame with
      | asking message => cases step
      | queued message => exact (Sending.of_queued_finished step).2
      | writing message rest => cases idle

/-- A part that sends a frame fails with it, if that is what follows an error. -/
private theorem Sending.fails_of_idle
    {σ α : Type} {frame : Sending} {stays : Client → σ → Prop} {stage : Sending → σ}
    {next : Client → Except ClientError Unit → Step σ α}
    (idle : frame.use.isWriting = false)
    (keeps : ∀ client frame, stays client (stage frame))
    (fails : ∀ client error, (next client (.error error)).Fails stays) :
    ((frame.step turn client).lift stage next).Fails stays := by
  unfold Step.Fails
  rw [Step.holds_lift]
  apply (frame.step_of_idle idle).mono
  · intro client' frame' _
    exact keeps client' frame'
  · rintro client' result rfl
    exact fails client' _

theorem Calling.fails_of_idle
    {call : Calling} (idle : call.use.isWriting = false)
    (hasToSend : call.HasToSend) :
    (call.step turn client).Fails fun _ next => next.HasToSend := by
  cases call with
  | starting request =>
      simp only [step]
      split
      · exact ⟨_, rfl⟩
      · split
        · exact ⟨_, rfl⟩
        · trivial
  | sending request id frame =>
      apply Sending.fails_of_idle idle
      · intros
        trivial
      · intro client' error
        exact ⟨error, rfl⟩
  | waiting request id => exact hasToSend.elim

theorem TimedCall.fails_of_idle
    {timed : TimedCall} (idle : timed.stage.use.isWriting = false)
    (hasToSend : timed.stage.HasToSend) :
    (timed.step turn client).Fails fun _ next => next.stage.HasToSend := by
  apply Timed.step_holds
  · rintro limit stage rfl
    exact hasToSend
  · rintro deadline stage rfl
    exact Calling.fails_of_idle idle hasToSend
  · intros
    exact ⟨_, rfl⟩

theorem Opening.fails_of_idle
    {document : Opening} (idle : document.use.isWriting = false)
    (hasToSend : document.HasToSend client) :
    (document.step turn client).Fails fun client' next => next.HasToSend client' := by
  cases document with
  | starting path =>
      simp only [step]
      split
      · exact ⟨_, rfl⟩
      · rename_i uri isUri
        exact hasToSend uri isUri
  | locking path uri =>
      simp only [step]
      split
      · split
        · rename_i isOpen
          have absent : client.version? uri = none := hasToSend
          simp [absent] at isOpen
        · trivial
      · trivial
  | reading path uri =>
      simp only [step]
      split
      · exact ⟨_, rfl⟩
      · trivial
  | sending uri frame =>
      apply Sending.fails_of_idle idle
      · intros
        trivial
      · intro client' error
        exact ⟨error, rfl⟩

theorem Changing.fails_of_idle
    {document : Changing} (idle : document.use.isWriting = false) :
    (document.step turn client).Fails fun _ _ => True := by
  cases document with
  | starting path =>
      simp only [step]
      split
      · exact ⟨_, rfl⟩
      · trivial
  | locking path uri =>
      simp only [step]
      split
      · split
        · exact ⟨_, rfl⟩
        · trivial
      · trivial
  | reading path uri version =>
      simp only [step]
      split
      · exact ⟨_, rfl⟩
      · trivial
  | sending uri version frame =>
      apply Sending.fails_of_idle idle
      · intros
        trivial
      · intro client' error
        exact ⟨error, rfl⟩

theorem Answering.fails_of_idle
    {stage : Answering} (idle : stage.use.isWriting = false) :
    (stage.step turn client).Fails fun _ _ => True := by
  cases stage with
  | working id work =>
      cases work with
      | answered answer | delayed milliseconds answer => trivial
      | editing progress =>
          simp only [step]
          split <;> trivial
  | resting id wakeTime answer =>
      simp only [step]
      split <;> trivial
  | sending frame =>
      apply Step.Fails.map
      apply (frame.step_of_idle idle).mono (fun _ _ _ => trivial)
      rintro client' result rfl
      exact ⟨_, rfl⟩

/-- Who opens a session of a client that is being closed gets no further than to the files
that are shown to the server. -/
theorem Initializing.fails_of_idle
    {stage : Initializing} (closing : client.state.isClosing = true)
    (idle : stage.use.isWriting = false)
    (hasToSend : (Operation.openSession stage).HasToSend client) :
    (stage.step turn client).Fails fun client' next =>
      (Operation.openSession next).HasToSend client' := by
  have notState {state : Lifecycle} (working : state.isClosing = false) :
      client.state ≠ state := by
    intro same
    rw [← same, closing] at working
    cases working
  cases stage with
  | starting workspace custom =>
      have notStarting : client.state ≠ .starting := notState rfl
      simp only [step, if_neg notStarting]
      exact ⟨_, rfl⟩
  | preparing workspace custom =>
      simp only [step, prepare]
      split <;> trivial
  | registering workspace rootUri options registered =>
      simp only [step, register]
      split <;> trivial
  | calling workspace call =>
      unfold Step.Fails
      simp only [step]
      rw [Step.holds_lift]
      cases call.step turn client with
      | blocked | running => trivial
      | finished client' answer =>
          simp only [Step.holds_finished, announce]
          split
          · trivial
          · split <;> trivial
  | announcing workspace result frame =>
      apply Sending.fails_of_idle idle
      · intros
        trivial
      · intros
        trivial
  | settling workspace result =>
      have notInitializing : client.state ≠ .initializing := notState rfl
      simp only [step, if_neg notInitializing]
      trivial
  | preloading result files => exact hasToSend.elim
  | failing error => exact ⟨_, rfl⟩

/-- An operation that has to send something fails, or still has to. -/
theorem Operation.fails_of_idle
    {operation : Operation} (closing : client.state.isClosing = true)
    (idle : operation.use.isWriting = false) (hasToSend : operation.HasToSend client) :
    (operation.step turn client).Fails fun client' next => next.HasToSend client' := by
  cases operation with
  | openSession stage =>
      apply Step.Fails.map
      exact Initializing.fails_of_idle closing idle hasToSend
  | call stage =>
      apply Step.Fails.map
      exact Calling.fails_of_idle idle hasToSend
  | timedCall timed | shutdown timed =>
      apply Step.Fails.map
      exact TimedCall.fails_of_idle idle hasToSend
  | notify frame =>
      apply Step.Fails.map
      apply (frame.step_of_idle idle).mono (fun _ _ _ => trivial)
      rintro client' result rfl
      exact ⟨_, rfl⟩
  | openFile stage =>
      apply Step.Fails.map
      exact Opening.fails_of_idle idle hasToSend
  | changeFile stage =>
      apply Step.Fails.map
      exact Changing.fails_of_idle idle
  | closeDocument stage =>
      cases stage with
      | starting | locking => exact hasToSend.elim
      | sending uri drop frame =>
          apply Step.Fails.map
          apply Sending.fails_of_idle idle
          · intros
            trivial
          · intro client' error
            exact ⟨error, rfl⟩
  | exit notice =>
      apply Step.Fails.map
      apply Timed.step_holds
      · intros
        trivial
      · rintro deadline frame rfl
        apply (frame.step_of_idle idle).mono (fun _ _ _ => trivial)
        rintro client' result rfl
        exact ⟨_, rfl⟩
      · intros
        exact ⟨_, rfl⟩
  | answer stage =>
      apply Step.Fails.map
      exact Answering.fails_of_idle idle
  | closeFile | closeAll | waitReady | close | preload => exact hasToSend.elim

/-! ## Waiting -/

theorem Sending.not_blocked_of_apart
    {frame : Sending} (apart : frame.use = .apart) : frame.step turn client ≠ .blocked := by
  cases frame with
  | asking message => exact Step.running_ne_blocked _ _
  | queued | writing => cases apart

/-- An operation that has to send something, and waits neither for the stream nor for the
documents, waits for a time to come. -/
theorem Operation.wakeTime_of_hasToSend
    {operation : Operation} (blocked : operation.step turn client = .blocked)
    (hasToSend : operation.HasToSend client) (apart : operation.use = .apart)
    (apartDocuments : operation.documentUse = .apart) :
    ∃ wakeTime, operation.wakeTime? = some wakeTime ∧ client.now < wakeTime := by
  cases operation with
  | openSession stage =>
      have inside := Step.eq_blocked_of_map blocked
      cases stage with
      | calling workspace call =>
          have waits := Step.eq_blocked_of_lift inside fun client' answer =>
            Initializing.announce_ne_blocked client' workspace answer
          obtain ⟨deadline, underway, _, early⟩ := Timed.underway_of_blocked waits
          exact ⟨deadline, by rw [underway]; rfl, early⟩
      | announcing workspace result frame =>
          refine absurd (Step.eq_blocked_of_lift inside ?_) (frame.not_blocked_of_apart apart)
          intro client' sent
          cases sent <;> simp
      | preparing workspace custom =>
          simp only [Initializing.step, Initializing.prepare] at inside
          split at inside <;> cases inside
      | registering workspace rootUri options registered =>
          simp only [Initializing.step, Initializing.register] at inside
          split at inside <;> cases inside
      | starting | settling =>
          simp only [Initializing.step] at inside
          split at inside <;> cases inside
      | failing error => cases inside
      | preloading result files => exact hasToSend.elim
  | call stage =>
      have inside := Step.eq_blocked_of_map blocked
      cases stage with
      | starting request =>
          simp only [Calling.step] at inside
          split at inside
          · cases inside
          · split at inside <;> cases inside
      | sending request id frame =>
          refine absurd (Step.eq_blocked_of_lift inside ?_) (frame.not_blocked_of_apart apart)
          intro client' sent
          cases sent <;> simp
      | waiting request id => exact hasToSend.elim
  | timedCall timed | shutdown timed =>
      obtain ⟨deadline, underway, _, early⟩ :=
        Timed.underway_of_blocked (Step.eq_blocked_of_map blocked)
      exact ⟨deadline, by rw [underway]; rfl, early⟩
  | notify frame =>
      exact absurd (Step.eq_blocked_of_map blocked) (frame.not_blocked_of_apart apart)
  | openFile stage =>
      have inside := Step.eq_blocked_of_map blocked
      cases stage with
      | starting path =>
          simp only [Opening.step] at inside
          split at inside <;> cases inside
      | locking | reading | sending => cases apartDocuments
  | changeFile stage =>
      have inside := Step.eq_blocked_of_map blocked
      cases stage with
      | starting path =>
          simp only [Changing.step] at inside
          split at inside <;> cases inside
      | locking | reading | sending => cases apartDocuments
  | closeDocument stage =>
      cases stage with
      | starting | locking => exact hasToSend.elim
      | sending => cases apartDocuments
  | exit notice =>
      obtain ⟨deadline, underway, _, early⟩ :=
        Timed.underway_of_blocked (Step.eq_blocked_of_map blocked)
      exact ⟨deadline, by rw [underway]; rfl, early⟩
  | answer stage =>
      have inside := Step.eq_blocked_of_map blocked
      cases stage with
      | working id work =>
          cases work with
          | answered | delayed => cases inside
          | editing progress =>
              simp only [Answering.step] at inside
              split at inside <;> cases inside
      | resting id wakeTime answer =>
          simp only [Answering.step] at inside
          split at inside
          · cases inside
          · rename_i early
            exact ⟨wakeTime, rfl, Nat.lt_of_not_le early⟩
      | sending frame =>
          exact absurd (Step.eq_blocked_of_map inside) (frame.not_blocked_of_apart apart)
  | closeFile | closeAll | waitReady | close | preload => exact hasToSend.elim

end LanguageClient
