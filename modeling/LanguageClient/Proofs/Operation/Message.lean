import LanguageClient.Proofs.Session.Effect
import LanguageClient.Proofs.Wire.Move

/-!
# The messages of operations

What each operation sends is fixed by its stage: a call sends its own request, an
operation on a document the notice of what it does, and so on.  No other operation
sends a request, and only notifications that users chose themselves are free.
-/

namespace LanguageClient

def Sending.message : Sending → Outgoing
  | .asking message | .queued message | .writing message _ => message

/-! ## Stages with the right message -/

def Calling.IsProper : Calling → Prop
  | .sending request id frame => frame.message = .request id request.method request.params
  | .starting _ | .waiting _ _ => True

/-- A call whose time does not run yet is at its start. -/
def TimedCall.IsProper : TimedCall → Prop
  | .waiting _ stage => ∃ request, stage = .starting request
  | .underway _ stage => stage.IsProper

def Opening.IsProper : Opening → Prop
  | .sending uri frame =>
      ∃ language text, frame.message = (DocumentNotice.opened uri language 1 text).message
  | .starting _ | .locking _ _ | .reading _ _ => True

def Changing.IsProper : Changing → Prop
  | .sending uri version frame =>
      ∃ text, frame.message = (DocumentNotice.changed uri version text).message
  | .starting _ | .locking _ _ | .reading _ _ _ => True

/-- The document leaves the table in any case only when all documents are closed. -/
def ClosingDocument.IsProper (drop : Bool) : ClosingDocument → Prop
  | .sending uri drop' frame =>
      drop' = drop ∧ frame.message = (DocumentNotice.closed uri).message
  | .starting _ drop' | .locking _ drop' => drop' = drop

def ClosingAll.IsProper : ClosingAll → Prop
  | .closing document _ _ => document.IsProper true
  | .starting | .listing | .next _ _ => True

def Preloading.IsProper : Preloading → Prop
  | .opening document _ => document.IsProper
  | .starting _ _ | .finding _ | .next _ => True

def Initializing.IsProper : Initializing → Prop
  | .calling _ call => TimedCall.IsProper call
  | .announcing _ _ frame => frame.message = .notification "initialized" (some (.object []))
  | .preloading _ files => files.IsProper
  | .starting _ _ | .preparing _ _ | .registering _ _ _ _ | .settling _ _ | .failing _ => True

def Exiting.IsProper (notice : Exiting) : Prop :=
  notice.stage.message = .notification "exit" none

def Closing.IsProper : Closing → Prop
  | .closingFiles files => files.stage.IsProper
  | .shuttingDown call => TimedCall.IsProper call
  | .exiting notice => Exiting.IsProper notice
  | .starting | .closingInput _ | .reaping | .awaiting _ | .settling _ => True

def Answering.IsProper : Answering → Prop
  | .sending frame => ∃ id answer, frame.message = .response id answer
  | .working _ _ | .resting _ _ _ => True

/-- The message of an operation is the one that its stage is for; the notifications
of users have a method of some kind. -/
def Operation.IsProper (mayNotify : String → Prop) : Operation → Prop
  | .openSession stage => stage.IsProper
  | .call stage => stage.IsProper
  | .timedCall timed | .shutdown timed => TimedCall.IsProper timed
  | .notify frame =>
      ∃ method params, frame.message = .notification method params ∧ mayNotify method
  | .openFile stage => stage.IsProper
  | .changeFile stage => stage.IsProper
  | .closeDocument stage => stage.IsProper false
  | .closeAll stage => stage.IsProper
  | .exit notice => Exiting.IsProper notice
  | .close stage => stage.IsProper
  | .preload stage => stage.IsProper
  | .answer stage => stage.IsProper
  | .closeFile _ | .waitReady _ => True

/-- What an operation is for: to open the session, to answer the server, or something else. -/
inductive OperationKind where
  | opening
  | answering
  | other
deriving DecidableEq

def Operation.kind : Operation → OperationKind
  | .openSession _ => .opening
  | .answer _ => .answering
  | _ => .other

/-! ## Steps -/

def Step.Keeps {σ α : Type} (proper : σ → Prop) (step : Step σ α) : Prop :=
  step.Holds (fun _ stage => proper stage) (fun _ _ => True)

namespace Step.Keeps

variable {σ τ α β : Type} {proper : σ → Prop} {proper' : τ → Prop} {step : Step σ α}

theorem trivial (step : Step σ α) : step.Keeps fun _ => True := by
  cases step <;> exact True.intro

theorem lift
    {stage : σ → τ} {next : Client → Except ClientError α → Step τ β}
    (keeps : step.Keeps proper) (inside : ∀ inner, proper inner → proper' (stage inner))
    (behind : ∀ client result, (next client result).Keeps proper') :
    (step.lift stage next).Keeps proper' := by
  unfold Step.Keeps
  rw [Step.holds_lift]
  exact Step.Holds.mono keeps (fun _ inner isProper => inside inner isProper)
    (fun client result _ => behind client result)

theorem map
    {stage : σ → τ} {value : α → β}
    (keeps : step.Keeps proper) (inside : ∀ inner, proper inner → proper' (stage inner)) :
    (step.map stage value).Keeps proper' :=
  keeps.lift inside fun _ _ => True.intro

theorem timed
    {inner : Client → σ → Step σ α} {abandon : Client → σ → Client} {error : ClientError}
    {client : Client} {timed : Timed σ} (isProper : proper timed.stage)
    (keeps : ∀ stage, proper stage → (inner client stage).Keeps proper) :
    (Timed.step inner abandon error client timed).Keeps fun timed => proper timed.stage := by
  apply Timed.step_holds
  · rintro limit stage rfl
    exact isProper
  · rintro deadline stage rfl
    exact keeps stage isProper
  · intros
    exact True.intro

end Step.Keeps

variable {turn : Turn} {client : Client}

theorem Sending.step_keeps (frame : Sending) :
    (frame.step turn client).Keeps fun next => next.message = frame.message := by
  cases frame with
  | asking message => rfl
  | queued message =>
      simp only [step]
      split
      · split
        · rfl
        · trivial
      · trivial
  | writing message rest =>
      cases rest with
      | nil => trivial
      | cons byte rest =>
          simp only [step]
          split
          · trivial
          · split
            · trivial
            · rfl

theorem Calling.step_keeps {call : Calling} (isProper : call.IsProper) :
    (call.step turn client).Keeps IsProper := by
  cases call with
  | starting request =>
      simp only [step]
      split
      · trivial
      · split
        · trivial
        · rfl
  | sending request id frame =>
      apply frame.step_keeps.lift
      · intro inner sameMessage
        exact sameMessage.trans isProper
      · intro client' result
        cases result <;> trivial
  | waiting request id =>
      simp only [step]
      split
      · trivial
      · trivial
      · trivial
      · split <;> trivial

theorem TimedCall.step_keeps {call : TimedCall} (isProper : call.IsProper) :
    (call.step turn client).Keeps IsProper := by
  apply Timed.step_holds
  · rintro limit stage rfl
    obtain ⟨request, rfl⟩ := isProper
    trivial
  · rintro deadline stage rfl
    have stageProper : stage.IsProper := isProper
    exact Calling.step_keeps stageProper
  · intros
    trivial

theorem Opening.step_keeps {document : Opening} (isProper : document.IsProper) :
    (document.step turn client).Keeps IsProper := by
  cases document with
  | starting path =>
      simp only [step]
      split <;> trivial
  | locking path uri =>
      simp only [step]
      split
      · split <;> trivial
      · trivial
  | reading path uri =>
      simp only [step]
      split
      · trivial
      · exact ⟨_, _, rfl⟩
  | sending uri frame =>
      obtain ⟨language, text, message⟩ := isProper
      apply frame.step_keeps.lift
      · intro inner sameMessage
        exact ⟨language, text, sameMessage.trans message⟩
      · intro client' result
        cases result <;> trivial

theorem Changing.step_keeps {document : Changing} (isProper : document.IsProper) :
    (document.step turn client).Keeps IsProper := by
  cases document with
  | starting path =>
      simp only [step]
      split <;> trivial
  | locking path uri =>
      simp only [step]
      split
      · split <;> trivial
      · trivial
  | reading path uri version =>
      simp only [step]
      split
      · trivial
      · exact ⟨_, rfl⟩
  | sending uri version frame =>
      obtain ⟨text, message⟩ := isProper
      apply frame.step_keeps.lift
      · intro inner sameMessage
        exact ⟨text, sameMessage.trans message⟩
      · intro client' result
        cases result <;> trivial

theorem ClosingDocument.step_keeps
    {document : ClosingDocument} {drop : Bool} (isProper : document.IsProper drop) :
    (document.step turn client).Keeps (IsProper drop) := by
  cases document with
  | starting uri drop' => exact isProper
  | locking uri drop' =>
      simp only [step]
      split
      · split
        · exact ⟨isProper, rfl⟩
        · trivial
      · trivial
  | sending uri drop' frame =>
      apply frame.step_keeps.lift
      · intro inner sameMessage
        exact ⟨isProper.1, sameMessage.trans isProper.2⟩
      · intro client' result
        cases result <;> trivial

theorem ClosingAll.step_keeps {stage : ClosingAll} (isProper : stage.IsProper) :
    (stage.step turn client).Keeps IsProper := by
  cases stage with
  | starting => trivial
  | listing =>
      simp only [step]
      split <;> trivial
  | next left closed =>
      cases left with
      | nil => trivial
      | cons uri left => rfl
  | closing document left closed =>
      apply (ClosingDocument.step_keeps isProper).lift
      · intro inner innerProper
        exact innerProper
      · intro client' result
        rcases result with error | sent
        · trivial
        · cases sent <;> trivial

theorem Preloading.step_keeps {files : Preloading} (isProper : files.IsProper) :
    (files.step turn client).Keeps IsProper := by
  cases files with
  | starting family workspace => cases family <;> trivial
  | finding workspace => trivial
  | next left => cases left <;> trivial
  | opening document left =>
      apply (Opening.step_keeps isProper).lift
      · intro inner innerProper
        exact innerProper
      · intro client' result
        trivial

theorem Initializing.step_keeps {stage : Initializing} (isProper : stage.IsProper) :
    (stage.step turn client).Keeps IsProper := by
  cases stage with
  | starting workspace custom =>
      simp only [step]
      split <;> trivial
  | preparing workspace custom =>
      simp only [step, prepare]
      split <;> trivial
  | registering workspace rootUri options registered =>
      simp only [step, register]
      split
      · trivial
      · exact ⟨_, rfl⟩
  | calling workspace call =>
      apply (TimedCall.step_keeps isProper).lift
      · intro inner innerProper
        exact innerProper
      · intro client' answer
        unfold announce
        split
        · trivial
        · split
          · trivial
          · rfl
  | announcing workspace result frame =>
      apply frame.step_keeps.lift
      · intro inner sameMessage
        exact sameMessage.trans isProper
      · intro client' sent
        cases sent <;> trivial
  | settling workspace result =>
      simp only [step]
      split <;> trivial
  | preloading result files =>
      apply (Preloading.step_keeps isProper).lift
      · intro inner innerProper
        exact innerProper
      · intro client' loaded
        cases loaded <;> trivial
  | failing error => trivial

theorem Exiting.step_keeps {notice : Exiting} (isProper : notice.IsProper) :
    (notice.step turn client).Keeps IsProper := by
  apply Timed.step_holds
  · rintro limit frame rfl
    exact isProper
  · rintro deadline frame rfl
    apply frame.step_keeps.mono
    · intro client' frame' sameMessage
      exact sameMessage.trans isProper
    · intros
      trivial
  · intros
    trivial

theorem Closing.step_keeps {stage : Closing} (isProper : stage.IsProper) :
    (stage.step turn client).Keeps IsProper := by
  cases stage with
  | starting =>
      simp only [step]
      split <;> trivial
  | closingFiles files =>
      have inside :
          (Timed.step (ClosingAll.step turn) (ClosingAll.abandon turn.task)
            (.timedOut "textDocument/didClose") client files).Keeps
              fun files => files.stage.IsProper :=
        .timed isProper fun _ stageProper => ClosingAll.step_keeps stageProper
      apply inside.lift
      · intro inner innerProper
        exact innerProper
      · intro client' result
        exact ⟨_, rfl⟩
  | shuttingDown call =>
      apply (TimedCall.step_keeps isProper).lift
      · intro inner innerProper
        exact innerProper
      · intro client' result
        rfl
  | exiting notice =>
      apply (Exiting.step_keeps isProper).lift
      · intro inner innerProper
        exact innerProper
      · intro client' result
        trivial
  | closingInput input =>
      have inside :
          (Timed.step (ClosingInput.step turn) (ClosingInput.abandon turn.task)
            (.timedOut "exit") client input).Keeps fun _ => True :=
        Step.Keeps.trivial _
      apply inside.lift
      · intros
        trivial
      · intros
        trivial
  | reaping =>
      simp only [step]
      split <;> trivial
  | awaiting deadline =>
      simp only [step]
      split
      · trivial
      · trivial
      · split <;> trivial
  | settling status => trivial

theorem Answering.step_keeps {stage : Answering} (isProper : stage.IsProper) :
    (stage.step turn client).Keeps IsProper := by
  cases stage with
  | working id work =>
      cases work with
      | answered answer => exact ⟨id, answer, rfl⟩
      | delayed milliseconds answer => trivial
      | editing progress =>
          simp only [step]
          split
          · exact ⟨id, _, rfl⟩
          · trivial
  | resting id wakeTime answer =>
      simp only [step]
      split
      · exact ⟨id, answer, rfl⟩
      · trivial
  | sending frame =>
      obtain ⟨id, answer, message⟩ := isProper
      exact frame.step_keeps.map fun inner sameMessage => ⟨id, answer, sameMessage.trans message⟩

namespace Operation

variable {mayNotify : String → Prop}

/-- A step of an operation keeps its message the one that its stage is for. -/
theorem step_keeps {operation : Operation} (isProper : operation.IsProper mayNotify) :
    (operation.step turn client).Keeps (IsProper mayNotify) := by
  cases operation with
  | openSession stage => exact (Initializing.step_keeps isProper).map fun _ keeps => keeps
  | call stage => exact (Calling.step_keeps isProper).map fun _ keeps => keeps
  | timedCall stage => exact (TimedCall.step_keeps isProper).map fun _ keeps => keeps
  | notify frame =>
      obtain ⟨method, params, message, allowed⟩ := isProper
      exact frame.step_keeps.map fun inner sameMessage =>
        ⟨method, params, sameMessage.trans message, allowed⟩
  | openFile stage => exact (Opening.step_keeps isProper).map fun _ keeps => keeps
  | changeFile stage => exact (Changing.step_keeps isProper).map fun _ keeps => keeps
  | closeFile path =>
      simp only [step]
      split
      · trivial
      · rfl
  | closeDocument stage => exact (ClosingDocument.step_keeps isProper).map fun _ keeps => keeps
  | closeAll stage => exact (ClosingAll.step_keeps isProper).map fun _ keeps => keeps
  | waitReady stage =>
      have inside : (stage.step client).Keeps fun _ => True := Step.Keeps.trivial _
      exact inside.map fun _ _ => trivial
  | shutdown stage => exact (TimedCall.step_keeps isProper).map fun _ keeps => keeps
  | exit stage => exact (Exiting.step_keeps isProper).map fun _ keeps => keeps
  | close stage => exact (Closing.step_keeps isProper).map fun _ keeps => keeps
  | preload stage => exact (Preloading.step_keeps isProper).map fun _ keeps => keeps
  | answer stage => exact (Answering.step_keeps isProper).map fun _ keeps => keeps

/-- A step keeps what an operation is for. -/
theorem step_kind (operation : Operation) :
    (operation.step turn client).Keeps fun next => next.kind = operation.kind := by
  cases operation with
  | closeFile path =>
      simp only [step]
      split
      · trivial
      · rfl
  | _ => exact (Step.Keeps.trivial _).map fun _ _ => rfl

theorem ne_answer_iff {operation : Operation} :
    (∀ stage, operation ≠ .answer stage) ↔ operation.kind ≠ .answering := by
  cases operation <;> simp [kind]

theorem ne_openSession_iff {operation : Operation} :
    (∀ stage, operation ≠ .openSession stage) ↔ operation.kind ≠ .opening := by
  cases operation <;> simp [kind]

/-- A step never makes an answer of something else. -/
theorem step_ne_answer {operation : Operation} (noAnswer : ∀ stage, operation ≠ .answer stage) :
    (operation.step turn client).Keeps fun next => ∀ stage, next ≠ .answer stage :=
  operation.step_kind.mono
    (fun _ _ same => ne_answer_iff.mpr (same ▸ ne_answer_iff.mp noAnswer)) fun _ _ _ => trivial

/-- A step never makes the opening of a session of something else. -/
theorem step_ne_openSession
    {operation : Operation} (apart : ∀ stage, operation ≠ .openSession stage) :
    (operation.step turn client).Keeps fun next => ∀ stage, next ≠ .openSession stage :=
  operation.step_kind.mono
    (fun _ _ same => ne_openSession_iff.mpr (same ▸ ne_openSession_iff.mp apart))
    fun _ _ _ => trivial

theorem begin_ne_answer (client : Client) (command : Command) (stage : Answering) :
    command.begin client ≠ .answer stage := by
  cases command <;> exact nofun

theorem isProper_begin
    {command : Command}
    (allowed : ∀ method params, command = .notify method params → mayNotify method) :
    (command.begin client).IsProper mayNotify := by
  cases command with
  | timedCall method params limit => exact ⟨_, rfl⟩
  | notify method params => exact ⟨method, params, rfl, allowed method params rfl⟩
  | shutdown => exact ⟨_, rfl⟩
  | exit => rfl
  | _ => trivial

end Operation

/-! ## Runs -/

namespace Session

/-- All operations send the messages that their stages are for. -/
def IsProper (mayNotify : String → Prop) (session : Session) : Prop :=
  ∀ task operation, session.task? task = some operation → operation.IsProper mayNotify

/-- An action keeps the messages right; a user who begins a notification chooses its
method. -/
theorem IsProper.effect
    {session after : Session} {action : Action} {mayNotify : String → Prop}
    (isProper : session.IsProper mayNotify) (fresh : session.HasFreshTask)
    (effect : Effect session action after)
    (allowed : ∀ method params, action = .start (.notify method params) → mayNotify method) :
    after.IsProper mayNotify := by
  intro task next found
  cases effect.origin fresh found with
  | kept same => exact isProper task next same
  | begun command isAction new =>
      apply Operation.isProper_begin
      rintro method params rfl
      exact allowed method params isAction
  | asked id work new => trivial
  | @stepped portion operation next client isAction before step =>
      have keeps : (operation.step ⟨task, portion⟩ session.client).Keeps
          (Operation.IsProper mayNotify) :=
        Operation.step_keeps (isProper task operation before)
      rw [step] at keeps
      exact keeps

end Session

/-- In a run whose users begin only certain notifications, no others are sent by users. -/
theorem Run.isProper
    {client : Client} {session : Session} {past : List Transition} {mayNotify : String → Prop}
    (run : Run (Session.connect client) past session)
    (allowed : ∀ transition, transition ∈ past → ∀ method params,
      transition.action = .start (.notify method params) → mayNotify method) :
    session.IsProper mayNotify := by
  induction run with
  | refl =>
      intro task operation found
      cases found
  | step run applied inductionHypothesis =>
      have isProper := inductionHypothesis fun transition member =>
        allowed transition (List.mem_append_left _ member)
      exact isProper.effect run.hasFreshTask (Session.effect_of_apply applied)
        (allowed _ (List.mem_append_right _ List.mem_cons_self))

end LanguageClient
