import LanguageClient.Proofs.Calls.Numbers
import LanguageClient.Proofs.Session.Rest
import LanguageClient.Proofs.Wire.Framing

/-!
# How calls come to their ends

A call whose request is on the stream as a whole ends as soon as its response is read,
its token is cancelled or the read loop is over.  Up to then none of the three ends it:
while its request waits for the writer or for room in the pipe, the call waits with it.
-/

namespace LanguageClient

/-- A call of a task that is not over although nobody can take a step. -/
inductive Unfinished (past : List Transition) (session : Session) (task : TaskId) :
    Calling → Prop
  /-- Its request waits for the writer, which belongs to a task that has filled the pipe in
  the middle of its frame. -/
  | queued {request : CallRequest} {id : Nat} {own message : Outgoing} {holder : TaskId}
      {rest : List UInt8} :
      session.client.pipe.isBroken = false →
      session.client.pipe.room = 0 →
      holder ≠ task →
      session.use holder = .writing message rest →
      rest ≠ [] →
      Unfinished past session task (.sending request id (.queued own))
  /-- Its request has filled the pipe and is not written whole. -/
  | writing {request : CallRequest} {id : Nat} {own : Outgoing} {rest : List UInt8} :
      session.client.pipe.isBroken = false →
      session.client.pipe.room = 0 →
      rest ≠ [] →
      Unfinished past session task (.sending request id (.writing own rest))
  /-- Its request is sent, and none of the three things has happened that would end it. -/
  | unanswered {request : CallRequest} {id : Nat} :
      (∀ answer, ¬ AnsweredIn past task id answer) →
      Calling.isCancelled session.client request = false →
      session.loop = .reading →
      Unfinished past session task (.waiting request id)

/-- A call waits for its answer only while its mailbox is empty and its token is not
cancelled. -/
theorem Calling.of_waiting_blocked
    {turn : Turn} {client : Client} {request : CallRequest} {id : Nat}
    (blocked : (Calling.waiting request id).step turn client = .blocked) :
    client.calls.mailbox? id = some .empty ∧ isCancelled client request = false := by
  simp only [step] at blocked
  split at blocked
  · cases blocked
  · cases blocked
  · cases blocked
  · rename_i empty
    split at blocked
    · cases blocked
    · rename_i notCancelled
      exact ⟨empty, Bool.eq_false_iff.mpr notCancelled⟩

namespace Run

variable {client : Client} {session : Session} {past : List Transition}

/-- A call under way whose mailbox is empty was not answered, and its connection is not
lost. -/
private theorem open_of_mailbox
    (run : Run (Session.connect client) past session) (fresh : client.calls = .empty)
    {task : TaskId} {id : Nat} (number : session.callId? task = some id)
    (empty : session.client.calls.mailbox? id = some .empty) :
    (∀ answer, ¬ AnsweredIn past task id answer) ∧
      (session.loop = .reading ∨ ∃ reason, session.loop = .lost reason) := by
  have calls := run.callInvariant fresh
  have agrees := calls.agrees task id number
  generalize recordEq : CallRecord.ofPast past id = record at agrees
  cases agrees with
  | waiting stillOpen member _ =>
      refine ⟨fun answer answeredIn => ?_, calls.isOpen.mp stillOpen⟩
      exact nomatch recordEq.symm.trans (run.answered_of_answeredIn fresh answeredIn)
  | cutOff isClosed closed => cases empty.symm.trans closed
  | answered answer full => cases empty.symm.trans full

/-- When nobody can take a step, every call that is not over waits for room in the pipe,
or it has not been answered, nor cancelled, nor cut off. -/
theorem unfinished_of_isAtRest
    (run : Run (Session.connect client) past session) (fresh : client.calls = .empty)
    (freshOutlet : client.HasFreshOutlet) (atRest : session.IsAtRest)
    {task : TaskId} {call : Calling} (calling : session.calling? task = some call) :
    Unfinished past session task call := by
  obtain ⟨operation, found, inside⟩ := Session.found_of_view calling nofun
  have blocked : call.step ⟨task, 0⟩ session.client = .blocked :=
    Operation.calling_blocked (atRest.step_eq_blocked found 0) inside
  have sameUse : session.use task = call.use := Session.use_of_calling calling
  cases call with
  | starting request =>
      simp only [Calling.step] at blocked
      split at blocked
      · cases blocked
      · split at blocked <;> cases blocked
  | sending request id frame =>
      change session.use task = frame.use at sameUse
      cases frame with
      | asking message => cases blocked
      | queued own =>
          have uses : session.use task ≠ .apart := by simp [sameUse, Sending.use]
          obtain ⟨unbroken, full, holder, message, rest, writes, unfinished⟩ :=
            run.exists_stalled_of_isAtRest freshOutlet atRest uses
          refine .queued unbroken full ?_ writes unfinished
          rintro rfl
          cases sameUse.symm.trans writes
      | writing own rest =>
          have heldUp := Calling.isHeldUp_of_blocked blocked
          obtain ⟨unfinished, unbroken, full⟩ := heldUp
          exact .writing unbroken full unfinished
  | waiting request id =>
      obtain ⟨empty, notCancelled⟩ := Calling.of_waiting_blocked blocked
      have number : session.callId? task = some id := Session.callId?_of_calling calling
      obtain ⟨noAnswer, reading | ⟨reason, lost⟩⟩ := run.open_of_mailbox fresh number empty
      · exact .unanswered noAnswer notCancelled reading
      · rcases atRest.reading_or_finished with ⟨reading, _⟩ | finished
        · cases lost.symm.trans reading
        · cases lost.symm.trans finished

end Run

/-- A call whose request the server has read. -/
def sentCall : List Action :=
  [.start (.call { method := "ask", params := none }), .advance 0 1024, .advance 0 1024,
    .advance 0 1024, .advance 0 1024, .advance 0 1024, .serverTakes 1024]

/-- The only operation is a call that waits for its answer and has nothing to go on with. -/
private def Session.awaitsAnswer (session : Session) : Bool :=
  match session.tasks with
  | [(0, .call (.waiting request id))] =>
      session.client.calls.mailbox? id = some .empty &&
        !Calling.isCancelled session.client request && session.readStep.isNone
  | _ => false

theorem Run.unfinished_of_isAtRest_sentCall :
    ∃ past session,
      Run (Session.connect (.connect { processId := 1 } 1024 (.directory []) [])) past session ∧
        past.map Transition.action = sentCall ∧ session.IsAtRest ∧
          ∃ call, session.calling? 0 = some call ∧ Unfinished past session 0 call := by
  have waits :
      ((Session.connect (.connect { processId := 1 } 1024 (.directory []) [])).run
        sentCall).any Session.awaitsAnswer = true := by
    decide +kernel
  obtain ⟨session, ran, waits⟩ := (Option.any_eq_true _ _).mp waits
  unfold Session.awaitsAnswer at waits
  split at waits
  · rename_i request id tasks
    simp only [Bool.and_eq_true, Bool.not_eq_true', decide_eq_true_eq, Option.isNone_iff_eq_none]
      at waits
    obtain ⟨⟨empty, notCancelled⟩, noRead⟩ := waits
    have run := Run.of_run ran .refl
    have atRest : session.IsAtRest := by
      refine .of_tasks tasks (fun portion => ?_) noRead
      simp [Operation.step, Calling.step, Step.map, Step.lift, empty, notCancelled]
    have calling : session.calling? 0 = some (.waiting request id) := by
      simp [Session.calling?, Session.view, Session.task?, tasks, Operation.calling?]
    exact ⟨_, session, run, Session.map_action_transitions ran, atRest, _, calling,
      run.unfinished_of_isAtRest rfl (Client.hasFreshOutlet_connect _ _ _ _) atRest calling⟩
  · cases waits

/-! ## Calls that wait with their requests -/

/-- A call that can be cancelled is answered and cancelled and its connection is lost, all
while its request is held up in the pipe. -/
def endedInSend : List Action :=
  [.start (.call { method := "ask", params := none, token := some 7 }), .advance 0 1, .advance 0 1,
    .advance 0 1, .advance 0 1,
    .serverWrites (Text.Utf8.encode
      "Content-Length: 38\r\n\r\n\x7b\"jsonrpc\":\"2.0\",\"id\":1,\"result\":true\x7d"),
    .read, .cancel 7, .serverEnds .closed, .read, .read, .read]

/-- The only operation is a cancelled call whose request is held up in a full pipe, with
nobody reading any more. -/
private def Session.holdsUpCall (session : Session) : Bool :=
  match session.tasks with
  | [(0, .call (.sending request 1 (.writing _ (_ :: _))))] =>
      !session.client.pipe.isBroken && session.client.pipe.room = 0 &&
        session.loop = .finished && Calling.isCancelled session.client request
  | _ => false

private def CallRecord.isAnsweredBy (record : CallRecord) (answer : Answer) : Bool :=
  match record with
  | .answered 0 answer' => decide (answer' = answer)
  | _ => false

/-- None of the three things ends a call whose request is held up in the pipe. -/
theorem Run.unfinished_endedInSend :
    ∃ past session, Run (Session.connect .narrow) past session ∧
      past.map Transition.action = endedInSend ∧
        session.IsAtRest ∧
          AnsweredIn past 0 1 (.ok (.bool true)) ∧
            session.loop = .finished ∧
              ∃ request frame, session.calling? 0 = some (.sending request 1 frame) ∧
                Calling.isCancelled session.client request = true := by
  let start := Session.connect .narrow
  have heldUp : (start.run endedInSend).any Session.holdsUpCall = true := by
    decide +kernel
  have answered :
      (CallRecord.ofPast (start.transitions endedInSend) 1).isAnsweredBy (.ok (.bool true)) =
        true := by
    decide +kernel
  obtain ⟨session, ran, heldUp⟩ := (Option.any_eq_true _ _).mp heldUp
  refine ⟨_, session, Run.of_run ran .refl, Session.map_action_transitions ran, ?_⟩
  unfold Session.holdsUpCall at heldUp
  split at heldUp
  · rename_i request message byte rest tasks
    simp only [Bool.and_eq_true, Bool.not_eq_true', decide_eq_true_eq] at heldUp
    obtain ⟨⟨⟨unbroken, full⟩, finished⟩, isCancelled⟩ := heldUp
    refine ⟨.of_tasks tasks (fun portion => ?_) ?_, ?_, finished, request,
      .writing message (byte :: rest), ?_, isCancelled⟩
    · simp [Operation.step, Calling.step, Sending.step, Step.map, Step.lift, unbroken, full]
    · simp [Session.readStep, finished]
    · apply CallRecord.answeredIn_of_answered
      unfold CallRecord.isAnsweredBy at answered
      split at answered
      · rename_i answer record
        rw [List.nil_append, record, of_decide_eq_true answered]
      · cases answered
    · simp [Session.calling?, Session.view, Session.task?, tasks, Operation.calling?]
  · cases heldUp

end LanguageClient
