import LanguageClient.Proofs.Calls.Answers
import LanguageClient.Proofs.Calls.Return
import LanguageClient.Proofs.Dispatch.Registry
import LanguageClient.Proofs.Lifecycle.Course
import LanguageClient.Proofs.Operation.Method
import LanguageClient.Proofs.Replies.Course

/-!
# The course of the handshake

The task that opens a session asks the server, and tells it that the session is open when
it has understood the answer.  What it leaves behind are these two frames, in this order
and each begun once at most, and the notices of the files that are loaded then.
-/

namespace LanguageClient

/-! ## Openings -/

structure SessionOpening where
  task : TaskId
  workspace : Path
  custom : Option Json.Members

/-- The settings that the built-in handlers have behind an opening. -/
def SessionOpening.settings (opening : SessionOpening) : Json :=
  (Initializing.givenOptions opening.custom).getD .null

def Transition.opening? (transition : Transition) : Option SessionOpening :=
  match transition.action with
  | .start (.openSession workspace custom) =>
      some ⟨transition.before.nextTask, workspace, custom⟩
  | _ => none

def sessionOpenings (past : List Transition) : List SessionOpening :=
  past.filterMap Transition.opening?

def Transition.claim? (transition : Transition) : Option TaskId :=
  match transition.action with
  | .advance task _ =>
      if transition.before.client.state = .starting ∧
          transition.after.client.state = .initializing then some task
      else none
  | _ => none

def claims (past : List Transition) : List TaskId :=
  past.filterMap Transition.claim?

theorem sessionOpenings_concat (past : List Transition) (transition : Transition) :
    sessionOpenings (past ++ [transition]) =
      sessionOpenings past ++ transition.opening?.toList := by
  unfold sessionOpenings
  rw [List.filterMap_append]
  cases isOpening : transition.opening? <;> simp [isOpening]

theorem mem_claims_concat {past : List Transition} {transition : Transition} {task : TaskId} :
    task ∈ claims (past ++ [transition]) ↔
      task ∈ claims past ∨ transition.claim? = some task := by
  simp [claims]

theorem sessionOpenings_subset (earlier later : List Transition) :
    sessionOpenings earlier ⊆ sessionOpenings (earlier ++ later) := by
  unfold sessionOpenings
  rw [List.filterMap_append]
  exact List.subset_append_left _ _

theorem claims_subset (earlier later : List Transition) :
    claims earlier ⊆ claims (earlier ++ later) := by
  unfold claims
  rw [List.filterMap_append]
  exact List.subset_append_left _ _

/-- The message that a session is open. -/
def Outgoing.initialized : Outgoing :=
  .notification "initialized" (some (.object []))

/-- The call of a task has read a response that can be read as the result of opening a
session. -/
def OpenedBy
    (past : List Transition) (task : TaskId) (id : Nat) (result : InitializeResult) : Prop :=
  ∃ value, AnsweredIn past task id (.ok value) ∧ InitializeResult.decode value = .ok result

def HasRegistered (past : List Transition) (task : TaskId) (registration : Registration) :
    Prop :=
  ∃ transition, transition ∈ past ∧ transition.action.task? = some task ∧
    transition.builtin? = some registration

/-- The workspace has a place that the server can be told, and all the built-in handlers
were registered for the opening. -/
def Prepared (past : List Transition) (opening : SessionOpening) : Prop :=
  (∃ uri, Client.uriOf opening.workspace = .ok uri) ∧
    ∀ registration, registration ∈ HandlerRegistry.builtins opening.settings →
      HasRegistered past opening.task registration

def MadeReady (past : List Transition) (task : TaskId) : Prop :=
  ∃ transition, transition ∈ past ∧ transition.action.task? = some task ∧
    transition.entersReady = true

section Concat

variable {past : List Transition} {task : TaskId}

theorem AnsweredIn.concat
    {id : Nat} {answer : Answer} (answered : AnsweredIn past task id answer)
    (transition : Transition) : AnsweredIn (past ++ [transition]) task id answer := by
  obtain ⟨before, registration, between, response, later, rfl, answers⟩ := answered
  exact ⟨before, registration, between, response, later ++ [transition], by simp, answers⟩

theorem OpenedBy.concat
    {id : Nat} {result : InitializeResult} (opened : OpenedBy past task id result)
    (transition : Transition) : OpenedBy (past ++ [transition]) task id result := by
  obtain ⟨value, answered, decodes⟩ := opened
  exact ⟨value, answered.concat transition, decodes⟩

/-- Only the read loop reads an answer. -/
theorem OpenedBy.of_concat
    {transition : Transition} {id : Nat} {result : InitializeResult}
    (opened : OpenedBy (past ++ [transition]) task id result)
    (notRead : transition.response? = none) : OpenedBy past task id result := by
  obtain ⟨value, ⟨before, registration, between, response, later, split, registered, responds,
    first⟩, decodes⟩ := opened
  cases later using List.reverseRecOn with
  | nil =>
      obtain ⟨_, same⟩ := List.append_inj' split rfl
      injection same with same
      rw [← same, notRead] at responds
      cases responds
  | append_singleton later last =>
      rw [← List.cons_append, ← List.append_assoc] at split
      obtain ⟨sameBefore, _⟩ := List.append_inj' split rfl
      exact ⟨value, ⟨before, registration, between, response, later, sameBefore, registered,
        responds, first⟩, decodes⟩

theorem HasRegistered.concat
    {registration : Registration} (registered : HasRegistered past task registration)
    (transition : Transition) : HasRegistered (past ++ [transition]) task registration := by
  obtain ⟨installing, member, installs⟩ := registered
  exact ⟨installing, List.mem_append_left _ member, installs⟩

theorem Prepared.concat
    {opening : SessionOpening} (prepared : Prepared past opening) (transition : Transition) :
    Prepared (past ++ [transition]) opening :=
  ⟨prepared.1, fun registration member => (prepared.2 registration member).concat transition⟩

theorem MadeReady.concat (made : MadeReady past task) (transition : Transition) :
    MadeReady (past ++ [transition]) task := by
  obtain ⟨entering, member, enters⟩ := made
  exact ⟨entering, List.mem_append_left _ member, enters⟩

end Concat

/-! ## What was said -/

/-- The request that opens a session, as far as it was written. -/
def askingFrame
    (opening : SessionOpening) (id : Nat) (params : Option Json) (written : List UInt8) : Segment :=
  ⟨opening.task, .request id "initialize" params, written⟩

/-- The request that opens a session, the whole of it. -/
def askedFrame (opening : SessionOpening) (id : Nat) (params : Option Json) : Segment :=
  askingFrame opening id params (Outgoing.request id "initialize" params).frame

def tellingFrame (opening : SessionOpening) (written : List UInt8) : Segment :=
  ⟨opening.task, .initialized, written⟩

/-- The frames that a task which opens a session can have begun, the latest first. -/
inductive HandshakeLog (past : List Transition) (opening : SessionOpening) :
    List Segment → Prop
  | nothing : HandshakeLog past opening []
  | asking (id : Nat) (params : Option Json) (written : List UInt8) :
      Prepared past opening →
      HandshakeLog past opening [askingFrame opening id params written]
  /-- The session is open, and notices of files may follow. -/
  | telling {id : Nat} {result : InitializeResult} (params : Option Json)
      (written : List UInt8) {notices : List Segment} :
      Prepared past opening →
      OpenedBy past opening.task id result →
      (∀ segment, segment ∈ notices → ¬ segment.message.IsHandshake) →
      HandshakeLog past opening
        (notices ++ [tellingFrame opening written, askedFrame opening id params])

/-- What a task can leave behind that has claimed the client for the handshake. -/
inductive Handshaking (past : List Transition) (opening : SessionOpening) : TaskTrace → Prop
  | preparing :
      Handshaking past opening
        ⟨some (.openSession (.preparing opening.workspace opening.custom)), [], []⟩
  /-- Some of the built-in handlers were registered. -/
  | registering {rootUri : String} {registered : Nat} :
      Client.uriOf opening.workspace = .ok rootUri →
      (∀ registration,
        registration ∈ (HandlerRegistry.builtins opening.settings).take registered →
          HasRegistered past opening.task registration) →
      Handshaking past opening
        ⟨some (.openSession (.registering opening.workspace rootUri
            (Initializing.givenOptions opening.custom) registered)), [], []⟩
  /-- The request is not begun. -/
  | calling {timed : TimedCall} :
      Prepared past opening →
      timed.stage.request.method = "initialize" →
      timed.stage.IsProper →
      (∀ request id, timed.stage ≠ .waiting request id) →
      (∀ message rest, timed.stage.use ≠ .writing message rest) →
      Handshaking past opening ⟨some (.openSession (.calling opening.workspace timed)), [], []⟩
  | asking {timed : TimedCall} {id : Nat} {request : CallRequest}
      {written rest : List UInt8} :
      Prepared past opening →
      request.method = "initialize" →
      timed.stage =
        .sending request id (.writing (.request id "initialize" request.params) rest) →
      (Outgoing.request id "initialize" request.params).frame = written ++ rest →
      Handshaking past opening
        ⟨some (.openSession (.calling opening.workspace timed)),
          [askingFrame opening id request.params written], []⟩
  | asked {timed : TimedCall} {id : Nat} {request : CallRequest} :
      Prepared past opening →
      timed.stage = .waiting request id →
      Handshaking past opening
        ⟨some (.openSession (.calling opening.workspace timed)),
          [askedFrame opening id request.params], []⟩
  | announcing {id : Nat} {params : Option Json} {result : InitializeResult}
      {frame : Sending} :
      Prepared past opening →
      OpenedBy past opening.task id result →
      frame = .asking .initialized ∨ frame = .queued .initialized →
      Handshaking past opening
        ⟨some (.openSession (.announcing opening.workspace result frame)),
          [askedFrame opening id params], []⟩
  | telling {id : Nat} {params : Option Json} {result : InitializeResult}
      {written rest : List UInt8} :
      Prepared past opening →
      OpenedBy past opening.task id result →
      Outgoing.initialized.frame = written ++ rest →
      Handshaking past opening
        ⟨some (.openSession (.announcing opening.workspace result
            (.writing .initialized rest))),
          [tellingFrame opening written, askedFrame opening id params], []⟩
  | settling {id : Nat} {params : Option Json} {result : InitializeResult} :
      Prepared past opening →
      OpenedBy past opening.task id result →
      Handshaking past opening
        ⟨some (.openSession (.settling opening.workspace result)),
          [tellingFrame opening Outgoing.initialized.frame, askedFrame opening id params], []⟩
  | preloading {id : Nat} {params : Option Json} {result : InitializeResult}
      {files : Preloading} {notices : List Segment} :
      Prepared past opening →
      OpenedBy past opening.task id result →
      MadeReady past opening.task →
      (∀ segment, segment ∈ notices → ¬ segment.message.IsHandshake) →
      Handshaking past opening
        ⟨some (.openSession (.preloading result files)),
          notices ++ [tellingFrame opening Outgoing.initialized.frame,
            askedFrame opening id params], []⟩
  | failing {error : ClientError} {log : List Segment} :
      HandshakeLog past opening log →
      Handshaking past opening ⟨some (.openSession (.failing error)), log, []⟩
  | givenUp {log : List Segment} :
      HandshakeLog past opening log →
      Handshaking past opening ⟨none, log, []⟩
  | failed {error : ClientError} {log : List Segment} :
      HandshakeLog past opening log →
      Handshaking past opening ⟨none, log, [.error error]⟩
  | succeeded {id : Nat} {params : Option Json} {result : InitializeResult}
      {notices : List Segment} :
      Prepared past opening →
      OpenedBy past opening.task id result →
      MadeReady past opening.task →
      (∀ segment, segment ∈ notices → ¬ segment.message.IsHandshake) →
      Handshaking past opening
        ⟨none, notices ++ [tellingFrame opening Outgoing.initialized.frame,
            askedFrame opening id params], [.ok (.initialized result)]⟩

/-- The message that the session is open, and no notices yet. -/
theorem HandshakeLog.told
    {past : List Transition} {opening : SessionOpening} {id : Nat} {result : InitializeResult}
    (params : Option Json) (written : List UInt8) (prepared : Prepared past opening)
    (opened : OpenedBy past opening.task id result) :
    HandshakeLog past opening [tellingFrame opening written, askedFrame opening id params] :=
  @telling past opening id result params written [] prepared opened nofun

/-! ## Later pasts -/

section Later

variable {past : List Transition} {opening : SessionOpening} (transition : Transition)

theorem HandshakeLog.concat {log : List Segment} (said : HandshakeLog past opening log) :
    HandshakeLog (past ++ [transition]) opening log := by
  cases said with
  | nothing => exact .nothing
  | asking id params written prepared =>
      exact .asking id params written (prepared.concat transition)
  | telling params written prepared opened ordinary =>
      exact .telling params written (prepared.concat transition) (opened.concat transition)
        ordinary

theorem Handshaking.concat {trace : TaskTrace} (handshaking : Handshaking past opening trace) :
    Handshaking (past ++ [transition]) opening trace := by
  cases handshaking with
  | preparing => exact .preparing
  | registering hasUri registered =>
      exact .registering hasUri fun registration member =>
        (registered registration member).concat transition
  | calling prepared method isProper notWaiting notWriting =>
      exact .calling (prepared.concat transition) method isProper notWaiting notWriting
  | asking prepared method stage frame =>
      exact .asking (prepared.concat transition) method stage frame
  | asked prepared stage => exact .asked (prepared.concat transition) stage
  | announcing prepared opened waits =>
      exact .announcing (prepared.concat transition) (opened.concat transition) waits
  | telling prepared opened frame =>
      exact .telling (prepared.concat transition) (opened.concat transition) frame
  | settling prepared opened =>
      exact .settling (prepared.concat transition) (opened.concat transition)
  | preloading prepared opened made ordinary =>
      exact .preloading (prepared.concat transition) (opened.concat transition)
        (made.concat transition) ordinary
  | failing said => exact .failing (said.concat transition)
  | givenUp said => exact .givenUp (said.concat transition)
  | failed said => exact .failed (said.concat transition)
  | succeeded prepared opened made ordinary =>
      exact .succeeded (prepared.concat transition) (opened.concat transition)
        (made.concat transition) ordinary

end Later

/-! ## Steps -/

section Steps

variable {turn : Turn} {client client' : Client}

/-- How a call goes on. -/
theorem Calling.of_step_running
    {call next : Calling} (step : call.step turn client = .running client' next) :
    (∃ request id, call = .starting request ∧
        next = .sending request id
          (.asking (.request id request.method request.params))) ∨
      (∃ request id frame frame', call = .sending request id frame ∧
        frame.step turn client = .running client' frame' ∧
          next = .sending request id frame') ∨
      ∃ request id frame, call = .sending request id frame ∧
        frame.step turn client = .finished client' (.ok ()) ∧ next = .waiting request id := by
  cases call with
  | starting request =>
      simp only [Calling.step] at step
      split at step
      · cases step
      · split at step
        · cases step
        · cases step
          exact Or.inl ⟨request, _, rfl, rfl⟩
  | sending request id frame =>
      rcases Step.lift_eq_running_iff.mp step with ⟨frame', sends, rfl⟩ | ⟨_, result, sent, goesOn⟩
      · exact Or.inr (Or.inl ⟨request, id, frame, frame', rfl, sends, rfl⟩)
      · cases result with
        | error error => cases goesOn
        | ok =>
            cases goesOn
            exact Or.inr (Or.inr ⟨request, id, frame, rfl, sent, rfl⟩)
  | waiting request id =>
      simp only [Calling.step] at step
      split at step
      · cases step
      · cases step
      · cases step
      · split at step <;> cases step

/-- How the request that opens a session goes on: as a call, to a failure, or to the message
that the session is open if the answer can be read. -/
theorem Initializing.of_calling_running
    {workspace : Path} {timed : TimedCall} {next : Initializing}
    (step : (Initializing.calling workspace timed).step turn client = .running client' next) :
    (∃ timed', timed.step turn client = .running client' timed' ∧
        next = .calling workspace timed') ∨
      (∃ error, next = .failing error) ∨
      ∃ request id value result, timed.stage = .waiting request id ∧
        client.calls.mailbox? id = some (.full (.ok value)) ∧
          InitializeResult.decode value = .ok result ∧
            next = .announcing workspace result (.asking .initialized) := by
  rcases Step.lift_eq_running_iff.mp step with ⟨timed', calls, rfl⟩ | ⟨_, answer, ended, goesOn⟩
  · exact Or.inl ⟨timed', calls, rfl⟩
  · right
    cases answer with
    | error error =>
        cases goesOn
        exact Or.inl ⟨error, rfl⟩
    | ok value =>
        obtain ⟨request, id, answer, stage, full, same⟩ :=
          Calling.mailbox_of_answered (Timed.of_step_finished_ok ended) trivial
        obtain rfl : answer = .ok value := by
          cases answer with
          | ok value' => exact congrArg Except.ok (Except.ok.inj same).symm
          | error error => cases same
        simp only [announce] at goesOn
        cases decoded : InitializeResult.decode value with
        | error error =>
            rw [decoded] at goesOn
            cases goesOn
            exact Or.inl ⟨_, rfl⟩
        | ok result =>
            rw [decoded] at goesOn
            cases goesOn
            exact Or.inr ⟨request, id, value, result, stage, full, decoded, rfl⟩

/-- How the opening of a session ends. -/
theorem Initializing.of_step_finished
    {stage : Initializing} {result : Except ClientError InitializeResult}
    (step : stage.step turn client = .finished client' result) :
    (∃ workspace custom, stage = .starting workspace custom ∧ client' = client ∧
        result = .error (.invalidState client.state)) ∨
      (∃ opened files, stage = .preloading opened files ∧ result = .ok opened) ∨
      ∃ error, stage = .failing error ∧
        client' = { client with state := client.state.failHandshake error.message } ∧
          result = .error error := by
  cases stage with
  | starting workspace custom =>
      simp only [Initializing.step] at step
      split at step
      · cases step
      · cases step
        exact Or.inl ⟨workspace, custom, rfl, rfl, rfl⟩
  | preparing workspace custom =>
      simp only [Initializing.step, prepare] at step
      split at step <;> cases step
  | registering workspace rootUri options registered =>
      simp only [Initializing.step, register] at step
      split at step <;> cases step
  | calling workspace call =>
      obtain ⟨_, answer, _, goesOn⟩ := Step.lift_eq_finished_iff.mp step
      cases answer with
      | error error => cases goesOn
      | ok value =>
          simp only [announce] at goesOn
          split at goesOn <;> cases goesOn
  | announcing workspace opened frame =>
      obtain ⟨_, sent, _, goesOn⟩ := Step.lift_eq_finished_iff.mp step
      cases sent <;> cases goesOn
  | settling workspace opened =>
      simp only [Initializing.step] at step
      split at step <;> cases step
  | preloading opened files =>
      obtain ⟨_, loaded, _, goesOn⟩ := Step.lift_eq_finished_iff.mp step
      cases loaded with
      | error error => cases goesOn
      | ok value =>
          cases goesOn
          exact Or.inr (Or.inl ⟨opened, files, rfl, rfl⟩)
  | failing error =>
      cases step
      exact Or.inr (Or.inr ⟨error, rfl, rfl, rfl⟩)

end Steps

end LanguageClient
