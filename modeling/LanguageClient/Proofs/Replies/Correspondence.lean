import LanguageClient.Proofs.Replies.Account

/-!
# Answers and requests

The answers that a client has written are those to the requests of the server whose handlers
have come to an answer and whose sending has come to its end: one to each, under its own
identifier, and no others.
-/

namespace LanguageClient

/-! ## Answers as messages -/

namespace Outgoing

/-- An answer with a result has this result, be it null, and no error. -/
theorem members_of_result (id result : Json) :
    (toJson (.response id (.ok result))).member? "id" = some id ∧
      (toJson (.response id (.ok result))).member? "result" = some result ∧
        (toJson (.response id (.ok result))).member? "error" = none ∧
          (toJson (.response id (.ok result))).member? "method" = none := by
  refine ⟨rfl, rfl, rfl, rfl⟩

/-- An answer with an error has this error and no result. -/
theorem members_of_error (id : Json) (error : ResponseError) :
    (toJson (.response id (.error error))).member? "id" = some id ∧
      (toJson (.response id (.error error))).member? "error" = some error.toJson ∧
        (toJson (.response id (.error error))).member? "result" = none ∧
          (toJson (.response id (.error error))).member? "method" = none := by
  refine ⟨rfl, rfl, rfl, rfl⟩

end Outgoing

def Segment.isWholeAnswer (segment : Segment) : Bool :=
  segment.message.isResponse && segment.written == segment.message.frame

/-- The answers that were written as a whole in a run, with the tasks that have written
them. -/
def writtenAnswers (past : List Transition) : List (TaskId × Outgoing) :=
  Segment.headings ((wireLog past).filter Segment.isWholeAnswer)

/-! ## Sent answers -/

/-- Whether a task has put the whole of its frame into the pipe, or has come to its end that
way. -/
def TaskTrace.hasSent (trace : TaskTrace) : Bool :=
  match trace.operation?.map Operation.use with
  | some (.writing _ []) => true
  | _ => trace.results.any Except.isOk

namespace ServerRequest

variable (request : ServerRequest) (past : List Transition)

def answer? : Option Answer :=
  (request.work.behind request.task past).answer?

def sent? (session : Session) : Option (TaskId × Outgoing) :=
  if (TaskTrace.of past session request.task).hasSent then
    (request.answer? past).map fun answer => (request.task, .response request.id answer)
  else none

end ServerRequest

namespace AnswerCourse

variable {task : TaskId} {id : Json} {work : RequestWork} {trace : TaskTrace}

/-- The frames of a task that answers a request are one at most, the answer that its work
has come to. -/
theorem segments_cases (course : AnswerCourse task id work trace) :
    trace.segments = [] ∨
      ∃ answer written, work.answer? = some answer ∧
        trace.segments = [⟨task, .response id answer, written⟩] := by
  cases course with
  | working | resting | waiting | refused => exact Or.inl rfl
  | writing known => exact Or.inr ⟨_, _, known, rfl⟩
  | answered known => exact Or.inr ⟨_, _, known, rfl⟩
  | brokenOff known => exact Or.inr ⟨_, _, known, rfl⟩

private theorem ne_whole
    {message message' : Outgoing} {written rest : List UInt8}
    (frame : message.frame = written ++ rest) (unfinished : rest ≠ []) :
    [Segment.mk task message written] ≠ [⟨task, message', message'.frame⟩] := by
  intro same
  injection same with sameSegment _
  injection sameSegment with _ sameMessage whole
  rw [whole, sameMessage] at frame
  exact unfinished (List.append_right_eq_self.mp frame.symm)

/-- The answer was sent exactly if the whole of it was written. -/
theorem hasSent_iff (course : AnswerCourse task id work trace) :
    trace.hasSent = true ↔ ∃ answer, work.answer? = some answer ∧
      trace.segments = [⟨task, .response id answer, (Outgoing.response id answer).frame⟩] := by
  cases course with
  | working | resting | refused => exact ⟨nofun, nofun⟩
  | waiting known waits => rcases waits with rfl | rfl <;> exact ⟨nofun, nofun⟩
  | @writing answer written rest known frame =>
      cases rest with
      | nil =>
          refine ⟨fun _ => ⟨answer, known, ?_⟩, fun _ => rfl⟩
          rw [frame, List.append_nil]
      | cons byte rest =>
          refine ⟨nofun, ?_⟩
          rintro ⟨answer', _, same⟩
          exact absurd same (ne_whole frame (List.cons_ne_nil byte rest))
  | answered known => exact ⟨fun _ => ⟨_, known, rfl⟩, fun _ => rfl⟩
  | brokenOff known frame unfinished =>
      refine ⟨nofun, ?_⟩
      rintro ⟨answer', _, same⟩
      exact absurd same (ne_whole frame unfinished)

end AnswerCourse

/-! ## The correspondence -/

section Correspondence

variable {past : List Transition} {session : Session}

theorem mem_writtenAnswers {task : TaskId} {message : Outgoing} :
    (task, message) ∈ writtenAnswers past ↔
      ⟨task, message, message.frame⟩ ∈ wireLog past ∧ message.isResponse = true := by
  simp only [writtenAnswers, Segment.headings, List.mem_map, List.mem_filter,
    Segment.isWholeAnswer, Bool.and_eq_true, beq_iff_eq]
  constructor
  · rintro ⟨⟨task', message', written⟩, ⟨logged, isResponse, isWhole⟩, same⟩
    cases same
    exact ⟨isWhole ▸ logged, isResponse⟩
  · rintro ⟨logged, isResponse⟩
    exact ⟨_, ⟨logged, isResponse, rfl⟩, rfl⟩

namespace AnswerInvariant

/-- Only the tasks of requests write answers. -/
theorem exists_request
    (invariant : AnswerInvariant past session) {segment : Segment}
    (logged : segment ∈ wireLog past) (isResponse : segment.message.isResponse = true) :
    ∃ request, request ∈ serverRequests past ∧ request.task = segment.task := by
  by_contra none
  have apart := invariant.apart segment.task fun request member same => none ⟨request, member, same⟩
  have own : segment ∈ (TaskTrace.of past session segment.task).segments :=
    TaskTrace.mem_segments.mpr ⟨logged, rfl⟩
  generalize TaskTrace.of past session segment.task = trace at apart own
  cases apart with
  | unknown => cases own
  | users isUsers noAnswer noResponse =>
      exact absurd isResponse (Bool.eq_false_iff.mp (noResponse segment own))

/-- A task begins one answer at most. -/
private theorem length_ofTask_le_one
    (invariant : AnswerInvariant past session) {request : ServerRequest}
    (member : request ∈ serverRequests past) :
    (Segment.ofTask request.task (wireLog past)).length ≤ 1 := by
  have course := invariant.course request member
  have cases' := course.segments_cases
  change Segment.ofTask _ _ = [] ∨ ∃ _ _, _ ∧ Segment.ofTask _ _ = _ at cases'
  rcases cases' with none | ⟨_, _, _, one⟩
  · rw [none]
    exact Nat.zero_le 1
  · rw [one]
    exact Nat.le_refl 1

private theorem nodup_writtenAnswers (invariant : AnswerInvariant past session) :
    (writtenAnswers past).Nodup := by
  let answers := (wireLog past).filter Segment.isWholeAnswer
  have tasks : (writtenAnswers past).map Prod.fst = answers.map Segment.task := by
    simp [writtenAnswers, Segment.headings, answers]
  suffices distinct : (answers.map Segment.task).Nodup from .of_map Prod.fst (tasks ▸ distinct)
  refine List.nodup_iff_count_le_one.mpr fun task => ?_
  by_cases asked : task ∈ answers.map Segment.task
  · obtain ⟨segment, member, rfl⟩ := List.mem_map.mp asked
    obtain ⟨logged, isWhole⟩ := List.mem_filter.mp member
    have isResponse := (Bool.and_eq_true_iff.mp isWhole).1
    obtain ⟨request, isRequest, sameTask⟩ := invariant.exists_request logged isResponse
    calc (answers.map Segment.task).count segment.task
        = answers.countP fun other => other.task == segment.task := List.countP_map
      _ ≤ (wireLog past).countP fun other => other.task == segment.task :=
          List.filter_sublist.countP_le
      _ = (Segment.ofTask segment.task (wireLog past)).length := List.countP_eq_length_filter
      _ ≤ 1 := sameTask ▸ invariant.length_ofTask_le_one isRequest
  · exact Nat.le_of_eq (List.count_eq_zero.mpr asked) |>.trans (Nat.zero_le 1)

private theorem nodup_sent (invariant : AnswerInvariant past session) :
    ((serverRequests past).filterMap fun request => request.sent? past session).Nodup := by
  have task_of_sent {request : ServerRequest} {answer : TaskId × Outgoing}
      (sent : request.sent? past session = some answer) : answer.1 = request.task := by
    unfold ServerRequest.sent? at sent
    split at sent
    · obtain ⟨_, _, rfl⟩ := Option.map_eq_some_iff.mp sent
      rfl
    · cases sent
  refine List.Pairwise.filterMap _ (fun request request' different answer sent answer' sent' same =>
    different ?_) (List.pairwise_map.mp invariant.distinct)
  rw [← task_of_sent sent, ← task_of_sent sent', same]

private theorem sent?_eq_some_iff
    (invariant : AnswerInvariant past session) {request : ServerRequest}
    (member : request ∈ serverRequests past) {task : TaskId} {message : Outgoing} :
    request.sent? past session = some (task, message) ↔
      request.task = task ∧ (task, message) ∈ writtenAnswers past := by
  have course := invariant.course request member
  constructor
  · intro sent
    unfold ServerRequest.sent? at sent
    split at sent
    · rename_i hasSent
      obtain ⟨answer, known, same⟩ := Option.map_eq_some_iff.mp sent
      obtain ⟨answer', known', segments⟩ := course.hasSent_iff.mp hasSent
      obtain rfl : answer' = answer := Option.some.inj (known'.symm.trans known)
      cases same
      have own := segments ▸ List.mem_singleton_self _
      exact ⟨rfl, mem_writtenAnswers.mpr ⟨(TaskTrace.mem_segments.mp own).1, rfl⟩⟩
    · cases sent
  · rintro ⟨rfl, written⟩
    obtain ⟨logged, isResponse⟩ := mem_writtenAnswers.mp written
    have own : (⟨request.task, message, message.frame⟩ : Segment) ∈
        (TaskTrace.of past session request.task).segments :=
      TaskTrace.mem_segments.mpr ⟨logged, rfl⟩
    rcases course.segments_cases with none | ⟨answer, written, known, one⟩
    · rw [none] at own
      cases own
    · rw [one, List.mem_singleton] at own
      injection own with _ sameMessage whole
      subst sameMessage whole
      have hasSent := course.hasSent_iff.mpr ⟨answer, known, one⟩
      rw [ServerRequest.sent?, if_pos hasSent, ServerRequest.answer?, known]
      rfl

/-- The answers that were written as a whole are those that were sent, one for one. -/
theorem perm (invariant : AnswerInvariant past session) :
    (writtenAnswers past).Perm
      ((serverRequests past).filterMap fun request => request.sent? past session) := by
  refine (List.perm_ext_iff_of_nodup invariant.nodup_writtenAnswers invariant.nodup_sent).mpr ?_
  rintro ⟨task, message⟩
  rw [List.mem_filterMap]
  constructor
  · intro written
    obtain ⟨logged, isResponse⟩ := mem_writtenAnswers.mp written
    obtain ⟨request, member, sameTask⟩ := invariant.exists_request logged isResponse
    exact ⟨request, member, (invariant.sent?_eq_some_iff member).mpr ⟨sameTask, written⟩⟩
  · rintro ⟨request, member, sent⟩
    exact ((invariant.sent?_eq_some_iff member).mp sent).2

end AnswerInvariant

end Correspondence

/-! ## The whole -/

/-- How a client answers the requests of the server in a run. -/
structure AnswersOnce (past : List Transition) (session : Session) : Prop where
  /-- The requests are the frames that are requests by their members, each with the handler
  that its method has at that moment. -/
  requests : ∀ transition request, transition ∈ past →
    (transition.asked? = some request ↔
      ∃ value, transition.taken? = some (.frame value) ∧
        Incoming.Tells value (.request request.id request.method request.params) ∧
          request.handler? = transition.before.client.handlers.request? request.method ∧
            request.task = transition.before.nextTask)
  /-- The work on a request is that of this handler. -/
  handled : ∀ request : ServerRequest, ∀ handler, request.handler? = some handler →
    request.work = handler.start request.params
  /-- Without a handler it is the error that there is none. -/
  unhandled : ∀ request : ServerRequest, request.handler? = none →
    request.work = .answered (.error (.methodNotFound request.method)) ∧
      (ResponseError.methodNotFound request.method).code = -32601
  /-- Every request has a task of its own. -/
  distinct : ((serverRequests past).map ServerRequest.task).Nodup
  /-- This task goes the course of one answer, that which the work comes to, under the
  identifier of the request. -/
  course : ∀ request, request ∈ serverRequests past →
    AnswerCourse request.task request.id (request.work.behind request.task past)
      (TaskTrace.of past session request.task)
  /-- Nobody can give it up. -/
  kept : ∀ request, request ∈ serverRequests past → session.apply (.abandon request.task) = none
  /-- The answers that were written are those to the requests whose handlers have come to an
  answer and whose tasks have sent it, one for one. -/
  answers :
    (writtenAnswers past).Perm
      ((serverRequests past).filterMap fun request => request.sent? past session)
  /-- An answer has the identifier of the request, and a result or an error. -/
  result : ∀ id result : Json,
    let value := (Outgoing.response id (.ok result)).toJson
    value.member? "id" = some id ∧ value.member? "result" = some result ∧
      value.member? "error" = none ∧ value.member? "method" = none
  error : ∀ (id : Json) (error : ResponseError),
    let value := (Outgoing.response id (.error error)).toJson
    value.member? "id" = some id ∧ value.member? "error" = some error.toJson ∧
      value.member? "result" = none ∧ value.member? "method" = none
  /-- All frames that are no answers to requests are frames of what users have begun. -/
  others : ∀ segment, segment ∈ wireLog past →
    (∃ request, request ∈ serverRequests past ∧ request.task = segment.task) ∨
      IsUsers past segment.task ∧ segment.message.isResponse = false
  /-- What is read and is no request begins nothing and puts nothing on the stream. -/
  passed : ∀ transition, transition ∈ past → transition.action = .read →
    transition.asked? = none →
      transition.after.tasks = transition.before.tasks ∧
        transition.after.nextTask = transition.before.nextTask ∧
          transition.after.client.outlet = transition.before.client.outlet
  /-- What the server has read are bytes of these frames. -/
  received : session.client.pipe.received <+: Segment.bytes (wireLog past)

namespace Run

variable {client : Client} {session : Session} {past : List Transition}

/-- The client writes one answer to each request of the server, in every run. -/
theorem answersOnce
    (run : Run (Session.connect client) past session) (freshOutlet : client.HasFreshOutlet) :
    AnswersOnce past session := by
  have invariant := run.answerInvariant freshOutlet
  constructor
  case requests => exact fun transition request _ => transition.asked?_eq_some_iff request
  case handled =>
    intro request handler isHandler
    rw [ServerRequest.work, isHandler, RequestWork.begin]
  case unhandled =>
    intro request noHandler
    rw [ServerRequest.work, noHandler, RequestWork.begin]
    exact ⟨rfl, rfl⟩
  case distinct => exact invariant.distinct
  case course => exact invariant.course
  case kept =>
    intro request member
    have course := invariant.course request member
    generalize traceEq : TaskTrace.of past session request.task = trace at course
    have found : session.task? request.task = trace.operation? := traceEq ▸ rfl
    cases course <;> simp [Session.apply, Session.abandon, found]
  case answers => exact invariant.perm
  case result => exact Outgoing.members_of_result
  case error => exact Outgoing.members_of_error
  case others =>
    intro segment logged
    by_cases asked : ∃ request, request ∈ serverRequests past ∧ request.task = segment.task
    · exact Or.inl asked
    · right
      have own : segment ∈ (TaskTrace.of past session segment.task).segments :=
        TaskTrace.mem_segments.mpr ⟨logged, rfl⟩
      have apart := invariant.apart segment.task fun request member same =>
        asked ⟨request, member, same⟩
      generalize TaskTrace.of past session segment.task = trace at own apart
      cases apart with
      | unknown => cases own
      | users isUsers noAnswer noResponse => exact ⟨isUsers, noResponse segment own⟩
  case passed =>
    intro transition member isRead unasked
    obtain ⟨earlier, later, rfl⟩ := List.append_of_mem member
    obtain ⟨runBefore, applied⟩ := run.before_transition
    obtain ⟨tasks, nextTask⟩ := Session.tasks_of_unasked isRead applied unasked
    exact ⟨tasks, nextTask, Session.outlet_of_read (isRead ▸ applied)⟩
  case received => exact (run.wireInvariant freshOutlet).received

end Run

/-- Of two requests the second, which nobody handles, is answered first. -/
def overtakenAnswer : List Action :=
  [.registerRequest "slow" (.record (.string "slow") (some (.ok .null)) 5),
    .serverWrites (Text.Utf8.encode
      "Content-Length: 24\r\n\r\n\x7b\"id\":1,\"method\":\"slow\"\x7d"),
    .serverWrites (Text.Utf8.encode
      "Content-Length: 28\r\n\r\n\x7b\"id\":null,\"method\":\"other\"\x7d"),
    .read, .read, .advance 0 1024, .advance 1 1024, .advance 1 1024, .advance 1 1024,
    .advance 1 1024, .advance 1 1024, .elapse 5, .advance 0 1024, .advance 0 1024,
    .advance 0 1024, .advance 0 1024, .advance 0 1024]

theorem Run.answersOnce_overtakenAnswer :
    ∃ past session,
      Run (Session.connect (.connect { processId := 1 } 1024 (.directory []) [])) past session ∧
        past.map Transition.action = overtakenAnswer ∧
          session.results = [(0, .ok .nothing), (1, .ok .nothing)] ∧
            writtenAnswers past =
              [(0, .response (.nat 1) (.ok .null)),
                (1, .response .null (.error (.methodNotFound "other")))] ∧
              AnswersOnce past session := by
  let start := Session.connect (.connect { processId := 1 } 1024 (.directory []) [])
  have results : (start.run overtakenAnswer).map (fun session => session.results) =
      some [(0, .ok .nothing), (1, .ok .nothing)] := by
    decide +kernel
  have written : writtenAnswers (start.transitions overtakenAnswer) =
      [(0, .response (.nat 1) (.ok .null)),
        (1, .response .null (.error (.methodNotFound "other")))] := by
    decide +kernel
  obtain ⟨session, ran, results⟩ := Option.map_eq_some_iff.mp results
  have run := Run.of_run ran .refl
  exact ⟨_, session, run, Session.map_action_transitions ran, results, written,
    run.answersOnce (Client.hasFreshOutlet_connect _ _ _ _)⟩

end LanguageClient
