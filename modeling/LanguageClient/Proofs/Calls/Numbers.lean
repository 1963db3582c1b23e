import LanguageClient.Proofs.Calls.Answers
import LanguageClient.Proofs.Operation.Occupation
import LanguageClient.Proofs.Wire.Log

/-!
# The numbers of requests

A request goes out under the number of the call that sends it.  A call sends one
request, and no two calls have the same number, so that no two requests on the
stream have the same number.
-/

namespace LanguageClient

def Outgoing.requestId? : Outgoing → Option Nat
  | .request id _ _ => some id
  | .notification _ _ | .response _ _ => none

def Segment.requestIds (log : List Segment) : List Nat :=
  (headings log).filterMap fun heading => heading.2.requestId?

/-- Whether the frame of a sender was not begun. -/
def Sending.IsBeforehand (frame : Sending) : Prop :=
  ∀ message rest, frame.use ≠ .writing message rest

/-! ## One step -/

/-- Within a call the sender of its request uses the writer, and nobody else does. -/
theorem Operation.use_of_calling
    {operation : Operation} {call : Calling} (found : operation.calling? = some call) :
    operation.use = call.use := by
  cases operation with
  | openSession stage =>
      cases stage with
      | calling workspace timed =>
          injection found with same
          exact same ▸ rfl
      | _ => cases found
  | close stage =>
      cases stage with
      | shuttingDown timed =>
          injection found with same
          exact same ▸ rfl
      | _ => cases found
  | call stage =>
      injection found with same
      exact same ▸ rfl
  | timedCall timed =>
      injection found with same
      exact same ▸ rfl
  | shutdown timed =>
      injection found with same
      exact same ▸ rfl
  | _ => cases found

/-- Only a call sends a request, and it sends its own. -/
theorem Operation.sends_request
    {operation : Operation} {mayNotify : String → Prop} {message : Outgoing} {id : Nat}
    (isProper : operation.IsProper mayNotify) (waits : operation.use = .waiting message)
    (isRequest : message.requestId? = some id) :
    ∃ request frame, operation.calling? = some (.sending request id frame) ∧
      frame.IsBeforehand := by
  have sent {frame : Sending} (writer : operation.use = frame.use) : frame.message = message :=
    Sending.message_of_use (by rw [← writer, waits]; rfl)
  cases occupation isProper with
  | @calls request id' frame calling apart writer own =>
      rw [← sent writer, own] at isRequest
      injection isRequest with sameNumber
      subst sameNumber
      refine ⟨request, frame, calling, ?_⟩
      intro message' rest writes
      cases waits.symm.trans (writer.trans writes)
  | tells notice documents writer own =>
      rw [← sent writer, own] at isRequest
      cases isRequest
  | notifies allowed apart writer own =>
      rw [← sent writer, own] at isRequest
      cases isRequest
  | answers apart writer own =>
      rw [← sent writer, own] at isRequest
      cases isRequest
  | silent idle quiet =>
      rw [waits] at quiet
      cases quiet

/-- A sender that was begun does not go back. -/
private theorem Sending.step_beforehand (turn : Turn) (client : Client) (frame : Sending) :
    (frame.step turn client).Keeps fun next => next.IsBeforehand → frame.IsBeforehand := by
  cases frame with
  | asking message => exact fun _ => nofun
  | queued message =>
      have beforehand : (Sending.queued message).IsBeforehand := nofun
      cases (Sending.queued message).step turn client with
      | running client' next => exact fun _ => beforehand
      | _ => trivial
  | writing message rest =>
      cases rest with
      | nil => trivial
      | cons byte rest =>
          simp only [step]
          split
          · trivial
          · split
            · trivial
            · exact fun beforehand => absurd rfl (beforehand _ _)

/-- A call whose request was not begun has just registered, or was there already. -/
private theorem Calling.step_unsent (turn : Turn) (client : Client) (call : Calling) :
    (call.step turn client).Keeps fun next =>
      ∀ request id frame, next = .sending request id frame → frame.IsBeforehand →
        call.id? = none ∨ ∃ frame', call = .sending request id frame' ∧ frame'.IsBeforehand := by
  cases call with
  | starting request =>
      cases (Calling.starting request).step turn client with
      | running client' next => exact fun _ _ _ _ _ => Or.inl rfl
      | _ => trivial
  | sending request id frame =>
      apply (frame.step_beforehand turn client).lift
      · rintro inner keeps request' id' frame' ⟨⟩ beforehand
        exact Or.inr ⟨frame, rfl, keeps beforehand⟩
      · intro client' result
        cases result with
        | ok value => exact nofun
        | error error => trivial
  | waiting request id =>
      simp only [step]
      split
      · trivial
      · trivial
      · trivial
      · split <;> trivial

/-- A move puts a message on the stream only by beginning its frame. -/
private theorem headings_record
    {task : TaskId} {outlet outlet' : Outlet} {use use' : WriterUse}
    (move : WriterMove task outlet use outlet' use') (log : List Segment) :
    Segment.headings (Segment.record task use use' log) = Segment.headings log ∨
      ∃ message, use = .waiting message ∧ use' = .writing message message.frame ∧
        Segment.headings (Segment.record task use use' log) =
          (task, message) :: Segment.headings log := by
  cases move with
  | rest => exact Or.inl (by rw [Segment.record_rest])
  | begin message held isOpen => exact Or.inr ⟨message, rfl, rfl, rfl⟩
  | put message more rest unbroken nonempty fits =>
      rw [Segment.record_put]
      cases log <;> exact Or.inl rfl
  | leave =>
      rw [Segment.record_apart]
      exact Or.inl rfl
  | _ => exact Or.inl rfl

namespace Session

theorem use_of_calling
    {session : Session} {task : TaskId} {call : Calling}
    (found : session.calling? task = some call) : session.use task = call.use := by
  obtain ⟨operation, isTask, calling⟩ := found_of_view found nofun
  exact (view_of_found isTask).trans (operation.use_of_calling calling)

/-- The action of a task leaves the calls of the others alone. -/
theorem CallEffect.calling?_other
    {session after : Session} {action : Action} (effect : CallEffect session action after)
    {task other : TaskId} (isTask : action.task? = some task) (different : other ≠ task) :
    after.calling? other = session.calling? other := by
  cases effect with
  | moved turn isAction move others =>
      have sameTask : turn.task = task :=
        Option.some.inj ((Action.task?_of_turn isAction).symm.trans isTask)
      exact others other (sameTask ▸ different)
  | answered id answer isRead =>
      subst isRead
      cases isTask
  | closed isRead =>
      subst isRead
      cases isTask
  | quiet noTask => exact nomatch noTask.symm.trans isTask

end Session

/-! ## Runs -/

/-- How the requests on the stream agree with the calls. -/
structure RequestInvariant (past : List Transition) (session : Session) : Prop where
  nodup : (Segment.requestIds (wireLog past)).Nodup
  owned : ∀ task message id, (task, message) ∈ Segment.headings (wireLog past) →
    message.requestId? = some id →
      ∃ transition, transition ∈ past ∧ transition.registered? = some (task, id)
  unsent : ∀ task request id frame, session.calling? task = some (.sending request id frame) →
    frame.IsBeforehand → id ∉ Segment.requestIds (wireLog past)

namespace RequestInvariant

variable {past : List Transition} {session after : Session} {action : Action}

/-- The number of a request was given out. -/
private theorem issued
    (invariant : RequestInvariant past session) {id : Nat}
    (member : id ∈ Segment.requestIds (wireLog past)) :
    CallRecord.ofPast past id ≠ .unissued := by
  obtain ⟨⟨task, message⟩, inLog, isRequest⟩ := List.mem_filterMap.mp member
  obtain ⟨transition, inPast, registered⟩ := invariant.owned task message id inLog isRequest
  exact CallRecord.ofPast_ne_unissued inPast registered

/-- A step that puts no message on the stream. -/
private theorem quiet
    (invariant : RequestInvariant past session)
    (sameHeadings : Segment.headings (wireLog (past ++ [⟨session, action, after⟩])) =
      Segment.headings (wireLog past))
    (unsent : ∀ task request id frame, after.calling? task = some (.sending request id frame) →
      frame.IsBeforehand → id ∉ Segment.requestIds (wireLog past)) :
    RequestInvariant (past ++ [⟨session, action, after⟩]) after := by
  have sameIds : Segment.requestIds (wireLog (past ++ [⟨session, action, after⟩])) =
      Segment.requestIds (wireLog past) := by
    unfold Segment.requestIds
    rw [sameHeadings]
  constructor
  · rw [sameIds]
    exact invariant.nodup
  · intro task message id member isRequest
    rw [sameHeadings] at member
    obtain ⟨transition, inPast, registered⟩ := invariant.owned task message id member isRequest
    exact ⟨transition, List.mem_append_left _ inPast, registered⟩
  · intro task request id frame sends beforehand
    rw [sameIds]
    exact unsent task request id frame sends beforehand

/-- A step that begins the frame of a message. -/
private theorem begins
    {task : TaskId} {message : Outgoing} (invariant : RequestInvariant past session)
    (newHeading : Segment.headings (wireLog (past ++ [⟨session, action, after⟩])) =
      (task, message) :: Segment.headings (wireLog past))
    (calls : CallInvariant (CallRecord.ofPast past) session.loop session.client.calls
      session.callId?)
    (sender : ∀ id, message.requestId? = some id →
      ∃ request frame, session.calling? task = some (.sending request id frame) ∧
        frame.IsBeforehand)
    (begun : ∀ request id frame, after.calling? task = some (.sending request id frame) →
      ¬ frame.IsBeforehand)
    (others : ∀ other, other ≠ task → after.calling? other = session.calling? other) :
    RequestInvariant (past ++ [⟨session, action, after⟩]) after := by
  have newIds : Segment.requestIds (wireLog (past ++ [⟨session, action, after⟩])) =
      (message.requestId?).toList ++ Segment.requestIds (wireLog past) := by
    unfold Segment.requestIds
    rw [newHeading]
    cases number : message.requestId? <;> simp [number]
  constructor
  · rw [newIds]
    cases number : message.requestId? with
    | none => exact invariant.nodup
    | some id =>
        obtain ⟨request, frame, sends, beforehand⟩ := sender id number
        exact List.nodup_cons.mpr
          ⟨invariant.unsent task request id frame sends beforehand, invariant.nodup⟩
  · intro other message' id member isRequest
    rw [newHeading] at member
    rcases List.mem_cons.mp member with isNew | inLog
    · injection isNew with sameTask sameMessage
      subst sameTask sameMessage
      obtain ⟨request, frame, sends, _⟩ := sender id isRequest
      have number : session.callId? other = some id := Session.callId?_of_calling sends
      have known : (CallRecord.ofPast past id).task? = some other := by
        have agrees := calls.agrees other id number
        generalize CallRecord.ofPast past id = record at agrees
        cases agrees <;> rfl
      obtain ⟨transition, inPast, registered⟩ := CallRecord.exists_registered known
      exact ⟨transition, List.mem_append_left _ inPast, registered⟩
    · obtain ⟨transition, inPast, registered⟩ := invariant.owned other message' id inLog isRequest
      exact ⟨transition, List.mem_append_left _ inPast, registered⟩
  · intro other request id frame sends beforehand
    have different : other ≠ task := by
      rintro rfl
      exact begun request id frame sends beforehand
    rw [others other different] at sends
    rw [newIds, List.mem_append, not_or]
    refine ⟨?_, invariant.unsent other request id frame sends beforehand⟩
    intro isSame
    obtain ⟨request', frame', sends', _⟩ := sender id (Option.mem_toList.mp isSame)
    have number : session.callId? other = some id := Session.callId?_of_calling sends
    have number' : session.callId? task = some id := Session.callId?_of_calling sends'
    exact different (calls.number_unique number' number)

end RequestInvariant

namespace Run

variable {client : Client} {session : Session} {past : List Transition}

/-- After every step a call whose request was not begun has a number that no request
carries. -/
private theorem unsent_step
    {after : Session} {action : Action} (run : Run (Session.connect client) past session)
    (fresh : client.calls = .empty) (applied : session.apply action = some after)
    (invariant : RequestInvariant past session) {task : TaskId} {request : CallRequest} {id : Nat}
    {frame : Sending} (sends : after.calling? task = some (.sending request id frame))
    (beforehand : frame.IsBeforehand) : id ∉ Segment.requestIds (wireLog past) := by
  have kept {other : TaskId} (different : after.calling? other = session.calling? other)
      (sends : after.calling? other = some (.sending request id frame)) :
      id ∉ Segment.requestIds (wireLog past) :=
    invariant.unsent other request id frame (different.symm.trans sends) beforehand
  cases (Session.effect_of_apply applied).calls run.hasFreshTask with
  | moved turn isAction move others sameLoop =>
      by_cases same : task = turn.task
      · subst same
        have registered :
            (⟨session, action, after⟩ : Transition).registered? = some (turn.task, id) ∨
              ∃ frame', session.calling? turn.task = some (.sending request id frame') ∧
                frame'.IsBeforehand := by
          have isTask : action.task? = some turn.task := Action.task?_of_turn isAction
          simp only [Transition.registered?, isTask, Session.callId?, sends]
          rw [sends] at move
          generalize session.calling? turn.task = before at move
          generalize after.client.calls = calls at move
          cases move with
          | rests => exact Or.inr ⟨frame, rfl, beforehand⟩
          | @steps call next client' step =>
              have keeps := call.step_unsent turn session.client
              rw [step] at keeps
              rcases keeps request id frame rfl beforehand with noNumber | ⟨frame', same, early⟩
              · left
                have before : (some call).bind Calling.id? = none := noNumber
                rw [before]
                rfl
              · exact Or.inr ⟨frame', congrArg some same, early⟩
        rcases registered with isNew | ⟨frame', sends', beforehand'⟩
        · intro member
          exact invariant.issued member (run.unissued_of_registered fresh applied isNew)
        · exact invariant.unsent turn.task request id frame' sends' beforehand'
      · exact kept (others task same) sends
  | answered id' answer isRead response calls sameCalling => exact kept (sameCalling task) sends
  | closed isRead lost calls sameCalling => exact kept (sameCalling task) sends
  | quiet noTask noResponse sameCalls sameCalling =>
      rcases sameCalling task with same | ⟨_, request', starting⟩
      · exact kept same sends
      · cases starting.symm.trans sends

/-- A task that waits to send a request is in the middle of the call of its number. -/
private theorem sender_of_waits
    (run : Run (Session.connect client) past session) {task : TaskId} {message : Outgoing}
    (waits : session.use task = .waiting message) {id : Nat}
    (isRequest : message.requestId? = some id) :
    ∃ request frame, session.calling? task = some (.sending request id frame) ∧
      frame.IsBeforehand := by
  have isProper : session.IsProper fun _ => True := run.isProper fun _ _ _ _ _ => True.intro
  obtain ⟨operation, found, uses⟩ := Session.found_of_view waits nofun
  obtain ⟨request, frame, calling, beforehand⟩ :=
    Operation.sends_request (isProper task operation found) uses isRequest
  exact ⟨request, frame, (Session.view_of_found found).trans calling, beforehand⟩

/-- The requests on the stream agree with the calls at the end of every run. -/
theorem requestInvariant
    (run : Run (Session.connect client) past session) (fresh : client.calls = .empty) :
    RequestInvariant past session := by
  induction run with
  | refl =>
      constructor
      · exact List.nodup_nil
      · intro task message id member
        cases member
      · intro task request id frame sends
        cases sends
  | @step past session after action run applied invariant =>
      have unsent (task : TaskId) (request : CallRequest) (id : Nat) (frame : Sending)
          (sends : after.calling? task = some (.sending request id frame))
          (beforehand : frame.IsBeforehand) : id ∉ Segment.requestIds (wireLog past) :=
        run.unsent_step fresh applied invariant sends beforehand
      have effect := Session.effect_of_apply applied
      cases effect.wire run.hasFreshTask with
      | @moved task isTask move others =>
          rcases headings_record move (wireLog past) with
            sameHeadings | ⟨message, waits, writes, newHeading⟩
          · apply invariant.quiet _ unsent
            rw [wireLog_concat]
            simp only [Transition.record, isTask]
            exact sameHeadings
          · have heading :
                Segment.headings (wireLog (past ++ [⟨session, action, after⟩])) =
                  (task, message) :: Segment.headings (wireLog past) := by
              rw [wireLog_concat]
              simp only [Transition.record, isTask]
              exact newHeading
            apply invariant.begins heading (run.callInvariant fresh)
            · intro id isRequest
              exact run.sender_of_waits waits isRequest
            · intro request id frame sends beforehand
              have sameUse := Session.use_of_calling sends
              rw [writes] at sameUse
              exact beforehand message message.frame sameUse.symm
            · intro other different
              exact (effect.calls run.hasFreshTask).calling?_other isTask different
      | quiet noTask =>
          apply invariant.quiet _ unsent
          rw [wireLog_concat]
          simp only [Transition.record, noTask]
      | taken count noTask =>
          apply invariant.quiet _ unsent
          rw [wireLog_concat]
          simp only [Transition.record, noTask]
      | broken noTask =>
          apply invariant.quiet _ unsent
          rw [wireLog_concat]
          simp only [Transition.record, noTask]

end Run

end LanguageClient
