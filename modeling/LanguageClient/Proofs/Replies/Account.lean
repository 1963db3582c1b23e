import LanguageClient.Proofs.Operation.Occupation
import LanguageClient.Proofs.Replies.Course
import LanguageClient.Proofs.Replies.Request

/-!
# The account of answers

Every task answers a request of the server, and then it goes the course of an answer, or it
was begun by a user, and then it never sends an answer.  No action changes the account of
another task.
-/

namespace LanguageClient

namespace Outgoing

def isResponse : Outgoing → Bool
  | .response _ _ => true
  | .request _ _ _ | .notification _ _ => false

theorem exists_of_isResponse {message : Outgoing} (isResponse : message.isResponse = true) :
    ∃ id answer, message = .response id answer := by
  cases message with
  | response id answer => exact ⟨id, answer, rfl⟩
  | request | notification => cases isResponse

end Outgoing

/-! ## Tasks of requests and others -/

def IsUsers (past : List Transition) (task : TaskId) : Prop :=
  ∃ transition, transition ∈ past ∧ ∃ command, transition.action = .start command ∧
    transition.before.task? task = none ∧
      transition.after.task? task = some (command.begin transition.before.client)

/-- What a task can leave behind that is not that of a request: nothing, or that of a task
which a user has begun and which sends no answers. -/
inductive TaskTrace.IsApart (past : List Transition) (task : TaskId) : TaskTrace → Prop
  | unknown : IsApart past task ⟨none, [], []⟩
  | users {trace : TaskTrace} :
      IsUsers past task →
      (∀ stage, trace.operation? ≠ some (.answer stage)) →
      (∀ segment, segment ∈ trace.segments → segment.message.isResponse = false) →
      IsApart past task trace

theorem IsUsers.concat
    {past : List Transition} {task : TaskId} (isUsers : IsUsers past task)
    (transition : Transition) : IsUsers (past ++ [transition]) task := by
  obtain ⟨earlier, member, begun⟩ := isUsers
  exact ⟨earlier, List.mem_append_left _ member, begun⟩

/-- A frame of a log was there before, or it is that of the task that moves. -/
theorem Segment.message_of_mem_record
    {task : TaskId} {use use' : WriterUse} {log : List Segment} {segment : Segment}
    (member : segment ∈ Segment.record task use use' log) :
    (∃ earlier, earlier ∈ log ∧ earlier.message = segment.message) ∨
      use'.message? = some segment.message := by
  unfold Segment.record at member
  split at member
  · rcases List.mem_cons.mp member with rfl | earlier
    · exact Or.inr rfl
    · exact Or.inl ⟨segment, earlier, rfl⟩
  · unfold Segment.extend at member
    split at member
    · cases member
    · rename_i latest earlier
      rcases List.mem_cons.mp member with rfl | older
      · exact Or.inl ⟨latest, List.mem_cons_self, rfl⟩
      · exact Or.inl ⟨segment, List.mem_cons_of_mem _ older, rfl⟩
  · exact Or.inl ⟨segment, member, rfl⟩

/-- What the past tells of every task: those of requests answer them, and the others have
nothing to do with requests. -/
structure AnswerInvariant (past : List Transition) (session : Session) : Prop where
  old : ∀ request, request ∈ serverRequests past → request.task < session.nextTask
  distinct : ((serverRequests past).map ServerRequest.task).Nodup
  course : ∀ request, request ∈ serverRequests past →
    AnswerCourse request.task request.id (request.work.behind request.task past)
      (TaskTrace.of past session request.task)
  apart : ∀ task, (∀ request, request ∈ serverRequests past → request.task ≠ task) →
    TaskTrace.IsApart past task (TaskTrace.of past session task)

namespace Run

variable {client : Client} {session after : Session} {past : List Transition} {action : Action}

/-- Nothing is done by a task whose number was not given out. -/
theorem idle_of_fresh
    (run : Run (Session.connect client) past session) {task : TaskId}
    (new : session.nextTask ≤ task) {transition : Transition} (member : transition ∈ past) :
    transition.action.task? ≠ some task := by
  induction run with
  | refl => cases member
  | @step past session after action run applied inductionHypothesis =>
      have effect := Session.effect_of_apply applied
      have newBefore := Nat.le_trans effect.nextTask_le new
      rcases List.mem_append.mp member with earlier | last
      · exact inductionHypothesis newBefore earlier
      · obtain rfl := List.mem_singleton.mp last
        intro isTask
        obtain ⟨operation, found⟩ := effect.exists_operation isTask
        exact absurd (run.hasFreshTask.lt found) (Nat.not_lt.mpr newBefore)

private theorem course_of_asked
    (run : Run (Session.connect client) past session) (freshOutlet : client.HasFreshOutlet)
    (applied : session.apply action = some after) {request : ServerRequest}
    (asked : Transition.asked? ⟨session, action, after⟩ = some request) :
    AnswerCourse request.task request.id
      (request.work.behind request.task (past ++ [⟨session, action, after⟩]))
      (TaskTrace.of (past ++ [⟨session, action, after⟩]) after request.task) := by
  obtain ⟨isNext, _, begins⟩ := Session.begins_of_asked run.hasFreshTask applied asked
  have new : session.nextTask ≤ request.task := Nat.le_of_eq isNext.symm
  have isRead : action = .read := by
    obtain ⟨value, entry, _⟩ := (Transition.asked?_eq_some_iff _ request).mp asked
    cases action with
    | read => rfl
    | _ => cases entry
  have idle : ∀ transition, transition ∈ past ++ [⟨session, action, after⟩] →
      transition.action.task? ≠ some request.task := by
    intro transition member
    rcases List.mem_append.mp member with earlier | last
    · exact run.idle_of_fresh new earlier
    · obtain rfl := List.mem_singleton.mp last
      exact isRead ▸ nofun
  have move := run.traceMove freshOutlet applied request.task
  rw [RequestWork.behind_of_idle idle]
  rw [run.trace_of_fresh new] at move
  generalize traceEq : TaskTrace.of _ after request.task = trace at move ⊢
  have operation : trace.operation? = some (.answer (.working request.id request.work)) :=
    traceEq ▸ begins
  cases move with
  | kept => cases operation
  | begun =>
      cases operation
      exact .working

private theorem apart_of_move
    (run : Run (Session.connect client) past session) (freshOutlet : client.HasFreshOutlet)
    (applied : session.apply action = some after) {task : TaskId}
    (apart : TaskTrace.IsApart past task (TaskTrace.of past session task))
    (unasked : ∀ request, Transition.asked? ⟨session, action, after⟩ = some request →
      request.task ≠ task) :
    TaskTrace.IsApart (past ++ [⟨session, action, after⟩]) task
      (TaskTrace.of (past ++ [⟨session, action, after⟩]) after task) := by
  have move := run.traceMove freshOutlet applied task
  have isProper : after.IsProper fun _ => True :=
    (run.step applied).isProper fun _ _ _ _ _ => trivial
  generalize before : TaskTrace.of past session task = trace at move apart
  generalize afterwards : TaskTrace.of _ after task = trace' at move ⊢
  have found : session.task? task = trace.operation? := before ▸ rfl
  have found' : after.task? task = trace'.operation? := afterwards ▸ rfl
  cases move with
  | kept _ notTask =>
      cases apart with
      | unknown => exact .unknown
      | users isUsers noAnswer noResponse => exact .users (isUsers.concat _) noAnswer noResponse
  | @begun operation notTask new origin =>
      cases origin with
      | kept same => cases found.symm.trans same
      | begun command isAction _ =>
          refine .users ⟨_, List.mem_append_right _ List.mem_cons_self, command, isAction, found,
            found'⟩ (fun stage same => ?_) nofun
          exact Operation.begin_ne_answer _ command stage (Option.some.inj same)
      | asked id work _ =>
          obtain ⟨request, asked, sameTask⟩ :=
            Session.exists_asked run.hasFreshTask applied found found'
          exact absurd sameTask (unasked request asked)
      | stepped isAction => exact absurd (isAction ▸ rfl) notTask
  | @stepped portion operation next client' segments results isAction step =>
      cases apart with
      | users isUsers noAnswer noResponse =>
          -- A task of a user never turns into an answer, so its frames are none either.
          have noAnswer' : ∀ stage, next ≠ .answer stage :=
            (Operation.step_ne_answer fun stage same => noAnswer stage (congrArg some same)).of_running
              step
          refine .users (isUsers.concat _) (fun stage same => noAnswer' stage (Option.some.inj same))
            fun segment member => ?_
          rcases Segment.message_of_mem_record member with ⟨earlier, logged, same⟩ | sends
          · exact same ▸ noResponse earlier logged
          · by_contra isResponse
            obtain ⟨id, answer, same⟩ :=
              Outgoing.exists_of_isResponse (Bool.not_eq_false _ ▸ isResponse)
            obtain ⟨stage, isAnswer⟩ :=
              Operation.exists_answer_of_response (isProper task next found') (same ▸ sends)
            exact noAnswer' stage isAnswer
  | ended isAction step =>
      cases apart with
      | users isUsers noAnswer noResponse => exact .users (isUsers.concat _) nofun noResponse
  | abandoned isAction noAnswer =>
      cases apart with
      | users isUsers noAnswer noResponse => exact .users (isUsers.concat _) nofun noResponse

/-- Every run keeps the account of requests and answers. -/
theorem answerInvariant
    (run : Run (Session.connect client) past session) (freshOutlet : client.HasFreshOutlet) :
    AnswerInvariant past session := by
  induction run with
  | refl => exact ⟨nofun, List.nodup_nil, nofun, fun _ _ => .unknown⟩
  | @step past session after action run applied invariant =>
      have effect := Session.effect_of_apply applied
      have member {request : ServerRequest}
          (isMember : request ∈ serverRequests (past ++ [⟨session, action, after⟩])) :
          request ∈ serverRequests past ∨
            Transition.asked? ⟨session, action, after⟩ = some request := by
        rw [serverRequests_concat] at isMember
        simpa using isMember
      constructor
      case old =>
        intro request isMember
        rcases member isMember with earlier | asked
        · exact Nat.lt_of_lt_of_le (invariant.old request earlier) effect.nextTask_le
        · obtain ⟨isNext, bound, _⟩ := Session.begins_of_asked run.hasFreshTask applied asked
          rw [bound, isNext]
          exact Nat.lt_succ_self _
      case distinct =>
        rw [serverRequests_concat, List.map_append]
        refine invariant.distinct.append ?_ ?_
        · cases Transition.asked? ⟨session, action, after⟩ <;> simp
        · intro task earlier last
          obtain ⟨request, isEarlier, rfl⟩ := List.mem_map.mp earlier
          obtain ⟨request', asked, same⟩ := List.mem_map.mp last
          obtain ⟨isNext, _, _⟩ :=
            Session.begins_of_asked run.hasFreshTask applied (Option.mem_toList.mp asked)
          exact absurd (invariant.old request isEarlier) (by rw [← same, isNext]; exact Nat.lt_irrefl _)
      case course =>
        intro request isMember
        rcases member isMember with earlier | asked
        · rw [RequestWork.behind_concat]
          exact (invariant.course request earlier).move (run.traceMove freshOutlet applied _)
        · exact run.course_of_asked freshOutlet applied asked
      case apart =>
        intro task others
        rw [serverRequests_concat] at others
        refine run.apart_of_move freshOutlet applied (invariant.apart task fun request isMember =>
          others request (List.mem_append_left _ isMember)) fun request asked => ?_
        exact others request (List.mem_append_right _ (Option.mem_toList.mpr asked))

end Run

end LanguageClient
