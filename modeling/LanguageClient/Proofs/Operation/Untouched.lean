import LanguageClient.Operation.Basic
import LanguageClient.Proofs.Operation.Step

/-!
# What operations leave alone

A view of a client is any part of it.  Sending a frame changes nothing but the
stream, an operation on documents nothing but the stream and the documents, and so
on; views of the other parts stay as they are.
-/

namespace LanguageClient

variable {γ : Type}

/-! ## Views -/

/-- The view does not look at the stream to the server. -/
def IgnoresOutlet (view : Client → γ) : Prop :=
  ∀ client writer isInputOpen pipe, view { client with writer, isInputOpen, pipe } = view client

/-- The view does not look at the documents. -/
def IgnoresDocuments (view : Client → γ) : Prop :=
  ∀ client documents documentsLock, view { client with documents, documentsLock } = view client

/-- The view does not look at the lock of the documents. -/
def IgnoresDocumentsLock (view : Client → γ) : Prop :=
  ∀ client documentsLock, view { client with documentsLock } = view client

theorem IgnoresDocuments.lock
    {view : Client → γ} (documents : IgnoresDocuments view) : IgnoresDocumentsLock view :=
  fun client => documents client client.documents

/-- The view does not look at the calls. -/
def IgnoresCalls (view : Client → γ) : Prop :=
  ∀ client calls, view { client with calls } = view client

/-- The view does not look at the state. -/
def IgnoresState (view : Client → γ) : Prop :=
  ∀ client state, view { client with state } = view client

/-- Whatever a step comes to, the view of the client is the same as before. -/
def Step.Fixes {σ α : Type} (view : Client → γ) (client : Client) (step : Step σ α) : Prop :=
  step.Holds (fun client' _ => view client' = view client)
    (fun client' _ => view client' = view client)

namespace Step.Fixes

variable {σ τ α β : Type} {view : Client → γ} {client : Client} {step : Step σ α}

theorem lift
    {stage : σ → τ} {next : Client → Except ClientError α → Step τ β}
    (fixes : step.Fixes view client)
    (behind : ∀ client' result, (next client' result).Fixes view client') :
    (step.lift stage next).Fixes view client := by
  unfold Step.Fixes
  rw [Step.holds_lift]
  apply fixes.mono
  · intro client' inner same
    exact same
  · intro client' result same
    apply (behind client' result).mono
    · intro client'' _ same'
      exact same'.trans same
    · intro client'' _ same'
      exact same'.trans same

theorem map
    {stage : σ → τ} {value : α → β} (fixes : step.Fixes view client) :
    (step.map stage value).Fixes view client :=
  fixes.lift fun _ _ => rfl

theorem timed
    {inner : Client → σ → Step σ α} {abandon : Client → σ → Client} {error : ClientError}
    {timed : Timed σ} (steps : ∀ stage, (inner client stage).Fixes view client)
    (gives : ∀ stage, view (abandon client stage) = view client) :
    (Timed.step inner abandon error client timed).Fixes view client := by
  apply Timed.step_holds
  · intros
    rfl
  · intro deadline stage _
    exact steps stage
  · intro deadline stage _ _ _
    exact gives stage

end Step.Fixes

variable {view : Client → γ} {turn : Turn} {task : TaskId} {client : Client}

/-! ## Sending -/

theorem Sending.step_fixes (outlet : IgnoresOutlet view) (frame : Sending) :
    (frame.step turn client).Fixes view client := by
  cases frame with
  | asking message => exact outlet client _ client.isInputOpen client.pipe
  | queued message =>
      simp only [step]
      split
      · split
        · rfl
        · exact outlet client _ client.isInputOpen client.pipe
      · trivial
  | writing message rest =>
      cases rest with
      | nil => exact outlet client _ client.isInputOpen client.pipe
      | cons byte rest =>
          simp only [step]
          split
          · exact outlet client _ client.isInputOpen client.pipe
          · split
            · trivial
            · exact outlet client client.writer client.isInputOpen _

theorem Sending.abandon_fixes (outlet : IgnoresOutlet view) (frame : Sending) :
    view (frame.abandon task client) = view client :=
  outlet client _ client.isInputOpen client.pipe

/-! ## Calls -/

theorem Calling.leave_fixes (calls : IgnoresCalls view) (client : Client) (id : Nat) :
    view (leave client id) = view client :=
  calls client _

theorem Calling.step_fixes
    (outlet : IgnoresOutlet view) (calls : IgnoresCalls view) (call : Calling) :
    (call.step turn client).Fixes view client := by
  cases call with
  | starting request =>
      simp only [step]
      split
      · rfl
      · split
        · rfl
        · exact calls client _
  | sending request id frame =>
      apply (frame.step_fixes outlet).lift
      intro client' result
      cases result with
      | ok value => rfl
      | error error => exact leave_fixes calls client' id
  | waiting request id =>
      simp only [step]
      split
      · exact leave_fixes calls client id
      · exact leave_fixes calls client id
      · exact leave_fixes calls client id
      · split
        · exact leave_fixes calls client id
        · trivial

theorem Calling.abandon_fixes
    (outlet : IgnoresOutlet view) (calls : IgnoresCalls view) (call : Calling) :
    view (call.abandon task client) = view client := by
  cases call with
  | starting request => rfl
  | sending request id frame =>
      exact (leave_fixes calls (frame.abandon task client) id).trans (frame.abandon_fixes outlet)
  | waiting request id => exact leave_fixes calls client id

theorem TimedCall.step_fixes
    (outlet : IgnoresOutlet view) (calls : IgnoresCalls view) (call : TimedCall) :
    (call.step turn client).Fixes view client :=
  .timed (fun stage => stage.step_fixes outlet calls) fun stage =>
    stage.abandon_fixes outlet calls

/-! ## Documents -/

private theorem setVersion_release_fixes
    (documents : IgnoresDocuments view) (client : Client) (uri : String) (version : Int)
    (task : TaskId) : view ((client.setVersion uri version).releaseDocuments task) = view client :=
  documents client _ _

private theorem dropDocument_release_fixes
    (documents : IgnoresDocuments view) (client : Client) (uri : String) (task : TaskId) :
    view ((client.dropDocument uri).releaseDocuments task) = view client :=
  documents client _ _

private theorem releaseDocuments_fixes
    (lock : IgnoresDocumentsLock view) (client : Client) (task : TaskId) :
    view (client.releaseDocuments task) = view client :=
  lock client _

private theorem askDocuments_fixes
    (documents : IgnoresDocuments view) (client : Client) (task : TaskId) (mode : LockMode) :
    view (client.askDocuments task mode) = view client :=
  documents client client.documents _

theorem Opening.step_fixes
    (outlet : IgnoresOutlet view) (documents : IgnoresDocuments view) (document : Opening) :
    (document.step turn client).Fixes view client := by
  cases document with
  | starting path =>
      simp only [step]
      split
      · rfl
      · exact askDocuments_fixes documents client turn.task .exclusive
  | locking path uri =>
      simp only [step]
      split
      · split
        · exact releaseDocuments_fixes documents.lock client turn.task
        · rfl
      · trivial
  | reading path uri =>
      simp only [step]
      split
      · exact releaseDocuments_fixes documents.lock client turn.task
      · rfl
  | sending uri frame =>
      apply (frame.step_fixes outlet).lift
      intro client' result
      cases result with
      | ok value => exact setVersion_release_fixes documents client' uri 1 turn.task
      | error error => exact releaseDocuments_fixes documents.lock client' turn.task

theorem Opening.abandon_fixes
    (outlet : IgnoresOutlet view) (lock : IgnoresDocumentsLock view) (document : Opening) :
    view (document.abandon task client) = view client := by
  cases document with
  | starting path => rfl
  | locking path uri => exact releaseDocuments_fixes lock client task
  | reading path uri => exact releaseDocuments_fixes lock client task
  | sending uri frame =>
      exact (releaseDocuments_fixes lock (frame.abandon task client) task).trans
        (frame.abandon_fixes outlet)

theorem Changing.step_fixes
    (outlet : IgnoresOutlet view) (documents : IgnoresDocuments view) (document : Changing) :
    (document.step turn client).Fixes view client := by
  cases document with
  | starting path =>
      simp only [step]
      split
      · rfl
      · exact askDocuments_fixes documents client turn.task .exclusive
  | locking path uri =>
      simp only [step]
      split
      · split
        · exact releaseDocuments_fixes documents.lock client turn.task
        · rfl
      · trivial
  | reading path uri version =>
      simp only [step]
      split
      · exact releaseDocuments_fixes documents.lock client turn.task
      · rfl
  | sending uri version frame =>
      apply (frame.step_fixes outlet).lift
      intro client' result
      cases result with
      | ok value => exact setVersion_release_fixes documents client' uri version turn.task
      | error error => exact releaseDocuments_fixes documents.lock client' turn.task

theorem Changing.abandon_fixes
    (outlet : IgnoresOutlet view) (lock : IgnoresDocumentsLock view) (document : Changing) :
    view (document.abandon task client) = view client := by
  cases document with
  | starting path => rfl
  | locking path uri => exact releaseDocuments_fixes lock client task
  | reading path uri version => exact releaseDocuments_fixes lock client task
  | sending uri version frame =>
      exact (releaseDocuments_fixes lock (frame.abandon task client) task).trans
        (frame.abandon_fixes outlet)

theorem ClosingDocument.step_fixes
    (outlet : IgnoresOutlet view) (documents : IgnoresDocuments view)
    (document : ClosingDocument) : (document.step turn client).Fixes view client := by
  cases document with
  | starting uri drop => exact askDocuments_fixes documents client turn.task .exclusive
  | locking uri drop =>
      simp only [step]
      split
      · split
        · rfl
        · exact releaseDocuments_fixes documents.lock client turn.task
      · trivial
  | sending uri drop frame =>
      apply (frame.step_fixes outlet).lift
      intro client' result
      cases result with
      | ok value => exact dropDocument_release_fixes documents client' uri turn.task
      | error error =>
          cases drop with
          | true => exact dropDocument_release_fixes documents client' uri turn.task
          | false => exact releaseDocuments_fixes documents.lock client' turn.task

theorem ClosingDocument.abandon_fixes
    (outlet : IgnoresOutlet view) (lock : IgnoresDocumentsLock view)
    (document : ClosingDocument) : view (document.abandon task client) = view client := by
  cases document with
  | starting uri drop => rfl
  | locking uri drop => exact releaseDocuments_fixes lock client task
  | sending uri drop frame =>
      exact (releaseDocuments_fixes lock (frame.abandon task client) task).trans
        (frame.abandon_fixes outlet)

theorem ClosingAll.step_fixes
    (outlet : IgnoresOutlet view) (documents : IgnoresDocuments view) (stage : ClosingAll) :
    (stage.step turn client).Fixes view client := by
  cases stage with
  | starting => exact askDocuments_fixes documents client turn.task .shared
  | listing =>
      simp only [step]
      split
      · exact releaseDocuments_fixes documents.lock client turn.task
      · trivial
  | next left closed => cases left <;> rfl
  | closing document left closed =>
      apply (document.step_fixes outlet documents).lift
      intro client' result
      rcases result with error | sent
      · rfl
      · cases sent <;> rfl

theorem ClosingAll.abandon_fixes
    (outlet : IgnoresOutlet view) (lock : IgnoresDocumentsLock view) (stage : ClosingAll) :
    view (stage.abandon task client) = view client := by
  cases stage with
  | listing => exact releaseDocuments_fixes lock client task
  | closing document left closed => exact document.abandon_fixes outlet lock
  | _ => rfl

theorem Preloading.step_fixes
    (outlet : IgnoresOutlet view) (documents : IgnoresDocuments view) (files : Preloading) :
    (files.step turn client).Fixes view client := by
  cases files with
  | starting family workspace => cases family <;> rfl
  | finding workspace => rfl
  | next left => cases left <;> rfl
  | opening document left =>
      apply (document.step_fixes outlet documents).lift
      intro client' result
      rfl

theorem Preloading.abandon_fixes
    (outlet : IgnoresOutlet view) (lock : IgnoresDocumentsLock view) (files : Preloading) :
    view (files.abandon task client) = view client := by
  cases files with
  | opening document left => exact document.abandon_fixes outlet lock
  | _ => rfl

/-! ## Closing the stream, answering and waiting -/

theorem Exiting.step_fixes (outlet : IgnoresOutlet view) (notice : Exiting) :
    (notice.step turn client).Fixes view client :=
  .timed (fun stage => stage.step_fixes outlet) fun stage => stage.abandon_fixes outlet

theorem ClosingInput.step_fixes (outlet : IgnoresOutlet view) (input : ClosingInput) :
    (input.step turn client).Fixes view client := by
  cases input with
  | asking => exact outlet client _ client.isInputOpen client.pipe
  | queued =>
      simp only [step]
      split
      · split
        · exact outlet client _ false _
        · exact outlet client _ client.isInputOpen client.pipe
      · trivial

theorem ClosingInput.abandon_fixes (outlet : IgnoresOutlet view) (input : ClosingInput) :
    view (input.abandon task client) = view client :=
  outlet client _ client.isInputOpen client.pipe

theorem Answering.step_fixes
    (outlet : IgnoresOutlet view)
    (files : ∀ client files, view { client with files } = view client) (stage : Answering) :
    (stage.step turn client).Fixes view client := by
  cases stage with
  | working id work =>
      cases work with
      | answered answer => rfl
      | delayed milliseconds answer => rfl
      | editing progress =>
          simp only [step]
          split
          · rfl
          · exact files client _
  | resting id wakeTime answer =>
      simp only [step]
      split
      · rfl
      · trivial
  | sending frame => exact (frame.step_fixes outlet).map

theorem Answering.abandon_fixes (outlet : IgnoresOutlet view) (stage : Answering) :
    view (stage.abandon task client) = view client := by
  cases stage with
  | sending frame => exact frame.abandon_fixes outlet
  | _ => rfl

theorem Waiting.step_fixes (stage : Waiting) : (stage.step client).Fixes view client := by
  cases stage with
  | starting milliseconds => rfl
  | resting wakeTime =>
      simp only [step]
      split
      · trivial
      · split <;> rfl

/-! ## Opening a session and closing the client -/

/-- The view looks at nothing that operations change, handlers and files apart. -/
structure IgnoresOperations (view : Client → γ) : Prop where
  outlet : IgnoresOutlet view
  documents : IgnoresDocuments view
  calls : IgnoresCalls view
  status : ∀ client state server, view { client with state, server } = view client

/-- The registration that the opening of a session makes in its next step, if it does. -/
def Initializing.registration? : Initializing → Option Registration
  | .registering _ _ options registered =>
      (HandlerRegistry.builtins (options.getD .null))[registered]?
  | _ => none

/-- Only the handshake may register handlers. -/
theorem Initializing.step_fixes
    (outlet : IgnoresOutlet view) (documents : IgnoresDocuments view) (calls : IgnoresCalls view)
    (state : IgnoresState view) {stage : Initializing}
    (handlers : ∀ registration, stage.registration? = some registration →
      ∀ handlers, view { client with handlers } = view client) :
    (stage.step turn client).Fixes view client := by
  cases stage with
  | starting workspace custom =>
      simp only [step]
      split
      · exact state client _
      · rfl
  | preparing workspace custom =>
      simp only [step, prepare]
      split <;> rfl
  | registering workspace rootUri options registered =>
      simp only [step, register]
      split
      · rename_i registration isNext
        exact handlers registration isNext _
      · rfl
  | calling workspace call =>
      apply (call.step_fixes outlet calls).lift
      intro client' answer
      cases answer with
      | error error => rfl
      | ok value =>
          simp only [announce]
          split <;> rfl
  | announcing workspace result frame =>
      apply (frame.step_fixes outlet).lift
      intro client' sent
      cases sent <;> rfl
  | settling workspace result =>
      simp only [step]
      split
      · exact state client _
      · rfl
  | preloading result files =>
      apply (files.step_fixes outlet documents).lift
      intro client' loaded
      cases loaded <;> rfl
  | failing error => exact state client _

theorem Initializing.abandon_fixes
    (outlet : IgnoresOutlet view) (lock : IgnoresDocumentsLock view) (calls : IgnoresCalls view)
    (stage : Initializing) : view (stage.abandon task client) = view client := by
  cases stage with
  | calling workspace call => exact Calling.abandon_fixes outlet calls call.stage
  | announcing workspace result frame => exact frame.abandon_fixes outlet
  | preloading result files => exact files.abandon_fixes outlet lock
  | _ => rfl

/-- Only the wait for the process of the server may end it. -/
theorem Closing.step_fixes
    (outlet : IgnoresOutlet view) (documents : IgnoresDocuments view) (calls : IgnoresCalls view)
    (state : IgnoresState view)
    (server : client.server = some .running → ∀ server, view { client with server } = view client)
    (stage : Closing) : (stage.step turn client).Fixes view client := by
  cases stage with
  | starting =>
      simp only [step]
      split
      · rfl
      · exact state client _
  | closingFiles files =>
      have inside :
          (Timed.step (ClosingAll.step turn) (ClosingAll.abandon turn.task)
            (.timedOut "textDocument/didClose") client files).Fixes view client :=
        .timed (fun stage => stage.step_fixes outlet documents)
          fun stage => stage.abandon_fixes outlet documents.lock
      exact inside.lift fun _ _ => rfl
  | shuttingDown call => exact (call.step_fixes outlet calls).lift fun _ _ => rfl
  | exiting notice => exact (notice.step_fixes outlet).lift fun _ _ => rfl
  | closingInput input =>
      have inside :
          (Timed.step (ClosingInput.step turn) (ClosingInput.abandon turn.task)
            (.timedOut "exit") client input).Fixes view client :=
        .timed (fun stage => stage.step_fixes outlet) fun stage => stage.abandon_fixes outlet
      exact inside.lift fun _ _ => rfl
  | reaping =>
      simp only [step]
      split <;> rfl
  | awaiting deadline =>
      simp only [step]
      split
      · rfl
      · rfl
      · rename_i isRunning
        split
        · exact server isRunning _
        · trivial
  | settling status => exact state client _

theorem Closing.abandon_fixes
    (outlet : IgnoresOutlet view) (lock : IgnoresDocumentsLock view) (calls : IgnoresCalls view)
    (stage : Closing) : view (stage.abandon task client) = view client := by
  cases stage with
  | closingFiles files => exact files.stage.abandon_fixes outlet lock
  | shuttingDown call => exact Calling.abandon_fixes outlet calls call.stage
  | exiting notice => exact notice.stage.abandon_fixes outlet
  | closingInput input => exact input.stage.abandon_fixes outlet
  | _ => rfl

/-! ## All operations -/

/-- The registration that an operation makes in its next step, if it makes one. -/
def Operation.registration? : Operation → Option Registration
  | .openSession stage => stage.registration?
  | _ => none

/-- Whatever a step comes to, a view that looks at nothing that operations change is the same
as before; only the handshake may register handlers, only the closing may end the process
of the server, and only the answer to a request may change files. -/
theorem Operation.step_fixes_of
    (outlet : IgnoresOutlet view) (documents : IgnoresDocuments view) (calls : IgnoresCalls view)
    (state : IgnoresState view)
    (server : client.server = some .running → ∀ server, view { client with server } = view client)
    {operation : Operation}
    (handlers : ∀ registration, operation.registration? = some registration →
      ∀ handlers, view { client with handlers } = view client)
    (files : ∀ stage, operation = .answer stage →
      ∀ client files, view { client with files } = view client) :
    (operation.step turn client).Fixes view client := by
  cases operation with
  | openSession stage =>
      exact (Initializing.step_fixes outlet documents calls state handlers).map
  | close stage => exact (stage.step_fixes outlet documents calls state server).map
  | call stage => exact (stage.step_fixes outlet calls).map
  | timedCall stage | shutdown stage => exact (TimedCall.step_fixes outlet calls stage).map
  | notify stage => exact (stage.step_fixes outlet).map
  | openFile stage => exact (stage.step_fixes outlet documents).map
  | changeFile stage => exact (stage.step_fixes outlet documents).map
  | closeFile path =>
      simp only [step]
      split <;> rfl
  | closeDocument stage => exact (stage.step_fixes outlet documents).map
  | closeAll stage => exact (stage.step_fixes outlet documents).map
  | waitReady stage => exact stage.step_fixes.map
  | exit stage => exact (Exiting.step_fixes outlet stage).map
  | preload stage => exact (stage.step_fixes outlet documents).map
  | answer stage => exact (stage.step_fixes outlet (files stage rfl)).map

theorem Operation.step_fixes
    (ignores : IgnoresOperations view) {operation : Operation}
    (handlers : ∀ registration, operation.registration? = some registration →
      ∀ handlers, view { client with handlers } = view client)
    (files : ∀ stage, operation = .answer stage →
      ∀ client files, view { client with files } = view client) :
    (operation.step turn client).Fixes view client :=
  Operation.step_fixes_of ignores.outlet ignores.documents ignores.calls
    (fun client state => ignores.status client state client.server)
    (fun _ server => ignores.status client client.state server) handlers files

/-- A step registers the handler that is next for it, and no other. -/
theorem Operation.step_handlers (turn : Turn) (client : Client) (operation : Operation) :
    (operation.step turn client).Holds
      (fun client' _ => client'.handlers =
        operation.registration?.elim client.handlers client.handlers.register)
      (fun client' _ => client'.handlers =
        operation.registration?.elim client.handlers client.handlers.register) := by
  cases registers : operation.registration? with
  | none =>
      exact Operation.step_fixes
        ⟨fun _ _ _ _ => rfl, fun _ _ _ => rfl, fun _ _ => rfl, fun _ _ _ => rfl⟩
        (fun registration isNext => nomatch registers.symm.trans isNext) fun _ _ _ _ => rfl
  | some registration =>
      cases operation with
      | openSession stage =>
          cases stage with
          | registering workspace rootUri options registered =>
              change (HandlerRegistry.builtins (options.getD .null))[registered]? =
                some registration at registers
              simp only [step, Initializing.step, Initializing.register, registers]
              rfl
          | _ => cases registers
      | _ => cases registers

theorem Operation.abandon_fixes
    (outlet : IgnoresOutlet view) (lock : IgnoresDocumentsLock view) (calls : IgnoresCalls view)
    (operation : Operation) : view (operation.abandon task client) = view client := by
  cases operation with
  | openSession stage => exact stage.abandon_fixes outlet lock calls
  | close stage => exact stage.abandon_fixes outlet lock calls
  | call stage => exact stage.abandon_fixes outlet calls
  | timedCall stage | shutdown stage => exact Calling.abandon_fixes outlet calls stage.stage
  | notify stage => exact stage.abandon_fixes outlet
  | openFile stage => exact stage.abandon_fixes outlet lock
  | changeFile stage => exact stage.abandon_fixes outlet lock
  | closeFile path | waitReady stage => rfl
  | closeDocument stage => exact stage.abandon_fixes outlet lock
  | closeAll stage => exact stage.abandon_fixes outlet lock
  | exit stage => exact stage.stage.abandon_fixes outlet
  | preload stage => exact stage.abandon_fixes outlet lock
  | answer stage => exact stage.abandon_fixes outlet

end LanguageClient
