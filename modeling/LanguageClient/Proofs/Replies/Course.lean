import LanguageClient.Proofs.Wire.Trace
import LanguageClient.Proofs.Wire.Turns

/-!
# The course of an answer

The task that answers a request of the server first comes to the answer, then sends it as
one frame.  What it leaves behind is this frame, if it was sent, and one result, and at no
time anything else.
-/

namespace LanguageClient

/-! ## Work -/

namespace RequestWork

/-- The work behind a turn that has found some files, and may write so many bytes. -/
def turn (portion : Nat) (files : FileTree) : RequestWork → RequestWork
  | .editing progress => .editing (progress.step (some portion) files).1
  | work => work

def answer? : RequestWork → Option Answer
  | .answered answer | .delayed _ answer => some answer
  | .editing progress =>
      progress.outcome?.map fun outcome => .ok (WorkspaceEdit.resultOf outcome)

/-- Once there is an answer it stays. -/
theorem turn_of_answer?
    {work : RequestWork} {answer : Answer} (known : work.answer? = some answer)
    (portion : Nat) (files : FileTree) : work.turn portion files = work := by
  cases work with
  | answered | delayed => rfl
  | editing progress =>
      cases progress with
      | finished outcome => rfl
      | reading | writing => cases known

end RequestWork

def Transition.work (task : TaskId) (work : RequestWork) (transition : Transition) : RequestWork :=
  match transition.action with
  | .advance mover portion =>
      if mover = task then work.turn portion transition.before.client.files else work
  | _ => work

namespace Transition

variable {task : TaskId} {work : RequestWork} {session after : Session} {action : Action}

theorem work_of_advance (portion : Nat) :
    Transition.work task work ⟨session, .advance task portion, after⟩ =
      work.turn portion session.client.files :=
  if_pos rfl

theorem work_of_ne (notTask : action.task? ≠ some task) :
    Transition.work task work ⟨session, action, after⟩ = work := by
  cases action with
  | advance mover portion => exact if_neg fun same => notTask (congrArg some same)
  | _ => rfl

end Transition

def RequestWork.behind (task : TaskId) (work : RequestWork) (past : List Transition) : RequestWork :=
  past.foldl (Transition.work task) work

namespace RequestWork

variable {task : TaskId} {work : RequestWork}

theorem behind_concat (past : List Transition) (transition : Transition) :
    work.behind task (past ++ [transition]) = transition.work task (work.behind task past) := by
  simp [behind]

theorem behind_of_idle
    {past : List Transition}
    (idle : ∀ transition, transition ∈ past → transition.action.task? ≠ some task) :
    work.behind task past = work := by
  induction past using List.reverseRecOn with
  | nil => rfl
  | append_singleton past last inductionHypothesis =>
      have isLast : last ∈ past ++ [last] := List.mem_append_right _ List.mem_cons_self
      rw [behind_concat, Transition.work_of_ne (idle last isLast)]
      exact inductionHypothesis fun transition member =>
        idle transition (List.mem_append_left _ member)

end RequestWork

/-! ## Sending -/

theorem Sending.of_writing_running
    {turn : Turn} {client client' : Client} {message : Outgoing} {rest : List UInt8}
    {next : Sending}
    (step : (Sending.writing message rest).step turn client = .running client' next) :
    ∃ more rest', rest = more ++ rest' ∧ next = .writing message rest' := by
  cases rest with
  | nil => cases step
  | cons byte rest =>
      simp only [Sending.step] at step
      split at step
      · cases step
      · split at step
        · cases step
        · injection step with _ same
          exact ⟨_, _, (List.take_append_drop _ _).symm, same.symm⟩

theorem Sending.of_queued_running
    {turn : Turn} {client client' : Client} {message : Outgoing} {next : Sending}
    (step : (Sending.queued message).step turn client = .running client' next) :
    next = .writing message message.frame := by
  simp only [Sending.step] at step
  split at step
  · split at step
    · injection step with _ same
      exact same.symm
    · cases step
  · cases step

/-! ## Courses -/

/-- What a task can leave behind that answers the request with an identifier, when the work
on it has come so far. -/
inductive AnswerCourse (task : TaskId) (id : Json) (work : RequestWork) : TaskTrace → Prop
  | working : AnswerCourse task id work ⟨some (.answer (.working id work)), [], []⟩
  | resting {wakeTime : Nat} {answer : Answer} :
      work.answer? = some answer →
      AnswerCourse task id work ⟨some (.answer (.resting id wakeTime answer)), [], []⟩
  | waiting {frame : Sending} {answer : Answer} :
      work.answer? = some answer →
      frame = .asking (.response id answer) ∨ frame = .queued (.response id answer) →
      AnswerCourse task id work ⟨some (.answer (.sending frame)), [], []⟩
  | writing {answer : Answer} {written rest : List UInt8} :
      work.answer? = some answer →
      (Outgoing.response id answer).frame = written ++ rest →
      AnswerCourse task id work
        ⟨some (.answer (.sending (.writing (.response id answer) rest))),
          [⟨task, .response id answer, written⟩], []⟩
  | answered {answer : Answer} :
      work.answer? = some answer →
      AnswerCourse task id work
        ⟨none, [⟨task, .response id answer, (Outgoing.response id answer).frame⟩],
          [.ok .nothing]⟩
  /-- The stream was closed before the answer was begun. -/
  | refused {answer : Answer} {error : ClientError} :
      work.answer? = some answer →
      AnswerCourse task id work ⟨none, [], [.error error]⟩
  /-- The stream broke in the middle of the answer. -/
  | brokenOff {answer : Answer} {written rest : List UInt8} {error : ClientError} :
      work.answer? = some answer →
      (Outgoing.response id answer).frame = written ++ rest →
      rest ≠ [] →
      AnswerCourse task id work
        ⟨none, [⟨task, .response id answer, written⟩], [.error error]⟩

namespace AnswerCourse

variable {task : TaskId} {id : Json} {work : RequestWork} {turn : Turn} {client client' : Client}
  {segments : List Segment}

private theorem of_working
    (task : TaskId) {next : Answering}
    (step : (Answering.working id work).step turn client = .running client' next) :
    AnswerCourse task id (work.turn turn.portion client.files) ⟨some (.answer next), [], []⟩ ∧
      (Operation.answer next).use = .apart := by
  cases work with
  | answered answer =>
      cases step
      exact ⟨.waiting rfl (Or.inl rfl), rfl⟩
  | delayed milliseconds answer =>
      cases step
      exact ⟨.resting rfl, rfl⟩
  | editing progress =>
      simp only [Answering.step] at step
      cases outcome : progress.outcome? with
      | none =>
          rw [outcome] at step
          cases step
          exact ⟨.working, rfl⟩
      | some outcome' =>
          rw [outcome] at step
          cases step
          have known : (RequestWork.editing progress).answer? =
              some (.ok (WorkspaceEdit.resultOf outcome')) := by
            rw [RequestWork.answer?, outcome]
            rfl
          rw [RequestWork.turn_of_answer? known]
          exact ⟨.waiting known (Or.inl rfl), rfl⟩

private theorem of_resting
    (task : TaskId) {wakeTime : Nat} {answer : Answer} {next : Answering} (known : work.answer? = some answer)
    (step : (Answering.resting id wakeTime answer).step turn client = .running client' next) :
    AnswerCourse task id work ⟨some (.answer next), [], []⟩ ∧
      (Operation.answer next).use = .apart := by
  simp only [Answering.step] at step
  split at step
  · cases step
    exact ⟨.waiting known (Or.inl rfl), rfl⟩
  · cases step

private theorem of_sending
    {frame next : Sending} {answer : Answer} (known : work.answer? = some answer)
    (waits : frame = .asking (.response id answer) ∨ frame = .queued (.response id answer))
    (step : frame.step turn client = .running client' next) :
    AnswerCourse task id work
      ⟨some (.answer (.sending next)), Segment.record task frame.use next.use [], []⟩ := by
  rcases waits with rfl | rfl
  · cases step
    exact .waiting known (Or.inr rfl)
  · obtain rfl := Sending.of_queued_running step
    exact .writing known rfl

private theorem of_writing
    {answer : Answer} {written rest : List UInt8} {next : Sending}
    (known : work.answer? = some answer)
    (frame : (Outgoing.response id answer).frame = written ++ rest)
    (step : (Sending.writing (.response id answer) rest).step turn client =
      .running client' next) :
    AnswerCourse task id work
      ⟨some (.answer (.sending next)),
        Segment.record task (.writing (.response id answer) rest) next.use
          [⟨task, .response id answer, written⟩], []⟩ := by
  obtain ⟨more, rest', rfl, rfl⟩ := Sending.of_writing_running step
  rw [Sending.use, Segment.record_put, Segment.extend]
  exact .writing known (by rw [frame, List.append_assoc])

/-- No stage before the frame is the last one. -/
private theorem not_finished
    {stage : Answering} {result : Except ClientError Unit}
    (early : ∀ frame, stage ≠ .sending frame) :
    stage.step turn client ≠ .finished client' result := by
  intro step
  cases stage with
  | sending frame => exact early frame rfl
  | resting id wakeTime answer =>
      simp only [Answering.step] at step
      split at step <;> cases step
  | working id work =>
      cases work with
      | answered | delayed => cases step
      | editing progress =>
          simp only [Answering.step] at step
          split at step <;> cases step

private theorem stepped
    {portion : Nat} {operation next : Operation} {results : List OperationResult}
    (course : AnswerCourse task id work ⟨some operation, segments, results⟩)
    (step : operation.step ⟨task, portion⟩ client = .running client' next) :
    AnswerCourse task id (work.turn portion client.files)
      ⟨some next, Segment.record task operation.use next.use segments, results⟩ := by
  cases course with
  | working =>
      obtain ⟨next', inner, rfl⟩ := Step.map_eq_running_iff.mp step
      obtain ⟨course, isApart⟩ := of_working task inner
      rw [isApart, Segment.record_apart]
      exact course
  | resting known =>
      obtain ⟨next', inner, rfl⟩ := Step.map_eq_running_iff.mp step
      obtain ⟨course, isApart⟩ := of_resting task known inner
      rw [isApart, Segment.record_apart, RequestWork.turn_of_answer? known]
      exact course
  | waiting known waits =>
      obtain ⟨stage, inner, rfl⟩ := Step.map_eq_running_iff.mp step
      obtain ⟨next, sends, rfl⟩ := Step.map_eq_running_iff.mp inner
      rw [RequestWork.turn_of_answer? known]
      exact of_sending known waits sends
  | writing known frame =>
      obtain ⟨stage, inner, rfl⟩ := Step.map_eq_running_iff.mp step
      obtain ⟨next, sends, rfl⟩ := Step.map_eq_running_iff.mp inner
      rw [RequestWork.turn_of_answer? known]
      exact of_writing known frame sends

private theorem ended
    {portion : Nat} {operation : Operation} {result : OperationResult}
    {results : List OperationResult}
    (course : AnswerCourse task id work ⟨some operation, segments, results⟩)
    (step : operation.step ⟨task, portion⟩ client = .finished client' result) :
    AnswerCourse task id (work.turn portion client.files)
      ⟨none, segments, result :: results⟩ := by
  obtain ⟨stage, rfl⟩ : ∃ stage, operation = .answer stage := by
    cases course <;> exact ⟨_, rfl⟩
  obtain ⟨result, inner, rfl⟩ := Step.map_eq_finished_iff.mp step
  cases course with
  | working => exact absurd inner (not_finished nofun)
  | resting => exact absurd inner (not_finished nofun)
  | waiting known waits =>
      obtain ⟨result, sends, rfl⟩ := Step.map_eq_finished_iff.mp inner
      rw [RequestWork.turn_of_answer? known]
      rcases waits with rfl | rfl
      · cases sends
      · obtain ⟨_, rfl⟩ := Sending.of_queued_finished sends
        exact .refused known
  | writing known frame =>
      obtain ⟨result, sends, rfl⟩ := Step.map_eq_finished_iff.mp inner
      rw [RequestWork.turn_of_answer? known]
      rcases Sending.of_writing_finished sends with ⟨rfl, rfl⟩ | ⟨unfinished, _, rfl⟩
      · rw [List.append_nil] at frame
        exact frame ▸ .answered known
      · exact .brokenOff known frame unfinished

/-- A task that answers a request keeps its course, whatever happens. -/
theorem move
    {session after : Session} {action : Action} {trace trace' : TaskTrace}
    (course : AnswerCourse task id work trace) (move : TraceMove session action after task trace trace') :
    AnswerCourse task id (Transition.work task work ⟨session, action, after⟩) trace' := by
  cases move with
  | kept _ notTask => exact (Transition.work_of_ne notTask).symm ▸ course
  | begun => cases course
  | stepped isAction step =>
      subst isAction
      exact (Transition.work_of_advance _).symm ▸ course.stepped step
  | ended isAction step =>
      subst isAction
      exact (Transition.work_of_advance _).symm ▸ course.ended step
  | abandoned isAction noAnswer => cases course <;> exact absurd rfl (noAnswer _)

end AnswerCourse

end LanguageClient
