import LanguageClient.Proofs.Calls.Move
import LanguageClient.Proofs.Documents.Move
import LanguageClient.Proofs.Operation.Message

/-!
# What operations are sending

An operation that sends a message is in the middle of a call, is telling the server
about a document, notifies it of something else, or answers one of its requests.
-/

namespace LanguageClient

namespace DocumentNotice

def uri : DocumentNotice → String
  | .opened uri _ _ _ | .changed uri _ _ | .closed uri => uri

/-- What a notice tells the server about its document. -/
def event : DocumentNotice → SyncEvent
  | .opened _ _ version _ => .opened version
  | .changed _ version _ => .changed version
  | .closed _ => .closed

end DocumentNotice

/-- The message that a task sends or waits to send. -/
def WriterUse.message? : WriterUse → Option Outgoing
  | .waiting message | .writing message _ => some message
  | .apart | .closing => none

theorem Sending.message_of_use
    {frame : Sending} {message : Outgoing} (sends : frame.use.message? = some message) :
    frame.message = message := by
  cases frame with
  | asking other => cases sends
  | queued other => exact Option.some.inj sends
  | writing other rest => exact Option.some.inj sends

def Operation.closesAll : Operation → Bool
  | .closeAll _ | .close _ => true
  | _ => false

/-! ## Operations on documents -/

/-- Whether a task tells the server what a notice says, or sends nothing. -/
inductive Tells (drop : Bool) : DocumentUse → WriterUse → Prop
  | notice (notice : DocumentNotice) {frame : Sending} :
      frame.message = notice.message →
      Tells drop (.telling notice.uri notice.event drop frame) frame.use
  | silent {use : DocumentUse} : use.isTelling = false → Tells drop use .apart

/-- What is sent by who tells the server about documents is a notice. -/
theorem Tells.exists_notice
    {drop : Bool} {documents : DocumentUse} {use : WriterUse} {message : Outgoing}
    (tells : Tells drop documents use) (sends : use.message? = some message) :
    ∃ notice : DocumentNotice, message = notice.message := by
  cases tells with
  | notice notice own => exact ⟨notice, (Sending.message_of_use sends).symm.trans own⟩
  | silent idle => cases sends

theorem Opening.tells {document : Opening} (isProper : document.IsProper) :
    Tells false document.documentUse document.use := by
  cases document with
  | sending uri frame =>
      obtain ⟨language, text, message⟩ := isProper
      exact .notice (.opened uri language 1 text) message
  | _ => exact .silent rfl

theorem Changing.tells {document : Changing} (isProper : document.IsProper) :
    Tells false document.documentUse document.use := by
  cases document with
  | sending uri version frame =>
      obtain ⟨text, message⟩ := isProper
      exact .notice (.changed uri version text) message
  | _ => exact .silent rfl

theorem ClosingDocument.tells
    {document : ClosingDocument} {drop : Bool} (isProper : document.IsProper drop) :
    Tells drop document.documentUse document.use := by
  cases document with
  | sending uri drop' frame =>
      obtain ⟨rfl, message⟩ := isProper
      exact .notice (.closed uri) message
  | _ => exact .silent rfl

theorem ClosingAll.tells {stage : ClosingAll} (isProper : stage.IsProper) :
    Tells true stage.documentUse stage.use := by
  cases stage with
  | closing document left closed => exact ClosingDocument.tells isProper
  | _ => exact .silent rfl

theorem Preloading.tells {files : Preloading} (isProper : files.IsProper) :
    Tells false files.documentUse files.use := by
  cases files with
  | opening document left => exact Opening.tells isProper
  | _ => exact .silent rfl

/-! ## All operations -/

namespace Operation

inductive Occupation (mayNotify : String → Prop) (operation : Operation) : Prop
  | calls {request : CallRequest} {id : Nat} {frame : Sending} :
      operation.calling? = some (.sending request id frame) →
      operation.documentUse = .apart →
      operation.use = frame.use →
      frame.message = .request id request.method request.params →
      Occupation mayNotify operation
  | tells (notice : DocumentNotice) {frame : Sending} :
      operation.documentUse = .telling notice.uri notice.event operation.closesAll frame →
      operation.use = frame.use →
      frame.message = notice.message →
      Occupation mayNotify operation
  | notifies {method : String} {params : Option Json} {frame : Sending} :
      (mayNotify method ∨ method = "initialized" ∨ method = "exit") →
      operation.documentUse = .apart →
      operation.use = frame.use →
      frame.message = .notification method params →
      (method = "initialized" → mayNotify method ∨ ∃ stage, operation = .openSession stage) →
      Occupation mayNotify operation
  | answers {id : Json} {answer : Answer} {frame : Sending} :
      operation.documentUse = .apart →
      operation.use = frame.use →
      frame.message = .response id answer →
      (∃ stage, operation = .answer stage) →
      Occupation mayNotify operation
  | silent :
      operation.documentUse.isTelling = false →
      operation.use.message? = none →
      Occupation mayNotify operation

variable {mayNotify : String → Prop} {operation : Operation}

private theorem occupation_of_tells
    (tells : Tells operation.closesAll operation.documentUse operation.use) :
    Occupation mayNotify operation := by
  generalize documents : operation.documentUse = documentUse at tells
  generalize writer : operation.use = use at tells
  cases tells with
  | notice notice message => exact .tells notice documents writer message
  | silent idle => exact .silent (by rw [documents, idle]) (by rw [writer]; rfl)

private theorem occupation_of_call
    {call : Calling} (isProper : call.IsProper) (calling : operation.calling? = some call)
    (documents : operation.documentUse = .apart) (writer : operation.use = call.use) :
    Occupation mayNotify operation := by
  cases call with
  | sending request id frame => exact .calls calling documents writer isProper
  | _ => exact .silent (by rw [documents]; rfl) (by rw [writer]; rfl)

private theorem stage_isProper {call : TimedCall} (isProper : call.IsProper) :
    call.stage.IsProper := by
  cases call with
  | waiting limit stage =>
      obtain ⟨request, rfl⟩ := isProper
      trivial
  | underway deadline stage => exact isProper

/-- Every operation is occupied with something that its stage is for. -/
theorem occupation (isProper : operation.IsProper mayNotify) : Occupation mayNotify operation := by
  cases operation with
  | openSession stage =>
      cases stage with
      | calling workspace call =>
          exact occupation_of_call (stage_isProper isProper) rfl rfl rfl
      | announcing workspace result frame =>
          exact .notifies (Or.inr (Or.inl rfl)) rfl rfl isProper fun _ => Or.inr ⟨_, rfl⟩
      | preloading result files => exact occupation_of_tells (Preloading.tells isProper)
      | _ => exact .silent rfl rfl
  | call stage => exact occupation_of_call isProper rfl rfl rfl
  | timedCall timed => exact occupation_of_call (stage_isProper isProper) rfl rfl rfl
  | notify frame =>
      obtain ⟨method, params, message, allowed⟩ := isProper
      exact .notifies (Or.inl allowed) rfl rfl message fun _ => Or.inl allowed
  | openFile stage => exact occupation_of_tells (Opening.tells isProper)
  | changeFile stage => exact occupation_of_tells (Changing.tells isProper)
  | closeFile path => exact .silent rfl rfl
  | closeDocument stage => exact occupation_of_tells (ClosingDocument.tells isProper)
  | closeAll stage => exact occupation_of_tells (ClosingAll.tells isProper)
  | waitReady stage => exact .silent rfl rfl
  | shutdown timed => exact occupation_of_call (stage_isProper isProper) rfl rfl rfl
  | exit notice =>
      exact .notifies (Or.inr (Or.inr rfl)) rfl rfl isProper fun same => absurd same (by decide)
  | close stage =>
      cases stage with
      | closingFiles files => exact occupation_of_tells (ClosingAll.tells isProper)
      | shuttingDown call => exact occupation_of_call (stage_isProper isProper) rfl rfl rfl
      | exiting notice =>
          exact .notifies (Or.inr (Or.inr rfl)) rfl rfl isProper fun same =>
            absurd same (by decide)
      | closingInput input =>
          have silent : input.stage.use.message? = none := by cases input.stage <;> rfl
          exact .silent rfl silent
      | _ => exact .silent rfl rfl
  | preload stage => exact occupation_of_tells (Preloading.tells isProper)
  | answer stage =>
      cases stage with
      | sending frame =>
          obtain ⟨id, answer, message⟩ := isProper
          exact .answers rfl rfl message ⟨_, rfl⟩
      | _ => exact .silent rfl rfl

/-- Only what answers a request sends a response. -/
theorem exists_answer_of_response
    (isProper : operation.IsProper mayNotify) {id : Json} {answer : Answer}
    (sends : operation.use.message? = some (.response id answer)) :
    ∃ stage, operation = .answer stage := by
  have sent {frame : Sending} (writer : operation.use = frame.use) :
      frame.message = .response id answer :=
    Sending.message_of_use (writer ▸ sends)
  cases occupation isProper with
  | calls calling apart writer own => cases own.symm.trans (sent writer)
  | tells notice documents writer own => cases own.symm.trans (sent writer)
  | notifies allowed apart writer own => cases own.symm.trans (sent writer)
  | answers apart writer own isAnswer => exact isAnswer
  | silent idle quiet => cases quiet.symm.trans sends

end Operation

end LanguageClient
