import LanguageClient.Proofs.Wire.Log

/-!
# What is left of a task

What a run tells of one task: the operation that it is at, the frames that it has begun and
the results that it has come to.  What other tasks do leaves all of this as it is, so that
what becomes of a task is told by its own steps.
-/

namespace LanguageClient

/-! ## The frames of a task -/

namespace Segment

def ofTask (task : TaskId) (log : List Segment) : List Segment :=
  log.filter fun segment => segment.task = task

theorem mem_ofTask {task : TaskId} {log : List Segment} {segment : Segment} :
    segment ∈ ofTask task log ↔ segment ∈ log ∧ segment.task = task := by
  simp [ofTask]

theorem ofTask_cons (task : TaskId) (segment : Segment) (log : List Segment) :
    ofTask task (segment :: log) =
      if segment.task = task then segment :: ofTask task log else ofTask task log := by
  simp [ofTask, List.filter_cons]

end Segment

namespace WireInvariant

variable {log : List Segment} {outlet : Outlet} {use : TaskId → WriterUse}

/-- The log of a task that makes a move is the one of its own frames. -/
theorem ofTask_record
    (invariant : WireInvariant log outlet use) (task : TaskId) (next : WriterUse) :
    Segment.ofTask task (Segment.record task (use task) next log) =
      Segment.record task (use task) next (Segment.ofTask task log) := by
  cases uses : use task with
  | apart => rfl
  | closing => rfl
  | waiting message =>
      cases next with
      | writing message' rest => rw [Segment.record, Segment.ofTask_cons, if_pos rfl, Segment.record]
      | apart | waiting | closing => rfl
  | writing message rest =>
      cases next with
      | apart | waiting | closing => rfl
      | writing message' rest' =>
          obtain ⟨_, written, earlier, rfl, _⟩ := invariant.writing task message rest uses
          simp [Segment.record, Segment.extend, Segment.ofTask_cons]

/-- The frames of a task are left alone by the others. -/
theorem ofTask_record_of_ne
    (invariant : WireInvariant log outlet use) {task mover : TaskId} (different : task ≠ mover)
    (next : WriterUse) :
    Segment.ofTask task (Segment.record mover (use mover) next log) =
      Segment.ofTask task log := by
  cases uses : use mover with
  | apart => rfl
  | closing => rfl
  | waiting message =>
      cases next with
      | writing message' rest =>
          rw [Segment.record, Segment.ofTask_cons, if_neg (Ne.symm different)]
      | apart | waiting | closing => rfl
  | writing message rest =>
      cases next with
      | apart | waiting | closing => rfl
      | writing message' rest' =>
          obtain ⟨_, written, earlier, rfl, _⟩ := invariant.writing mover message rest uses
          simp [Segment.record, Segment.extend, Segment.ofTask_cons, Ne.symm different]

end WireInvariant

/-! ## The results of a task -/

namespace Session

variable {session after : Session} {action : Action}

def resultsOf (session : Session) (task : TaskId) : List OperationResult :=
  (session.results.filter fun entry => entry.1 = task).map Prod.snd

theorem mem_resultsOf {task : TaskId} {result : OperationResult} :
    result ∈ session.resultsOf task ↔ (task, result) ∈ session.results := by
  simp [resultsOf]

theorem dispatch_results (session : Session) (value : Json) :
    (session.dispatch value).results = session.results := by
  rcases session.dispatch_cases value with
    ⟨id, answer, _, equality⟩ | ⟨id, method, params, records, _, equality⟩ |
      ⟨_, diagnostics, records, equality⟩
  · rw [equality]
    unfold deliver
    cases id.nat? <;> rfl
  · rw [equality]
    rfl
  · rw [equality]

/-- Only the step that ends a task leaves a result. -/
theorem Effect.resultsOf_of_ne
    (effect : Effect session action after) {task : TaskId} (notTask : action.task? ≠ some task) :
    after.resultsOf task = session.resultsOf task := by
  cases effect with
  | @ended mover portion operation client result found step =>
      have different : mover ≠ task := fun same => notTask (congrArg some same)
      simp [resultsOf, different]
  | @dispatched value rest reading read =>
      unfold resultsOf
      rw [dispatch_results]
  | _ => rfl

end Session

/-! ## The trace -/

structure TaskTrace where
  operation? : Option Operation
  /-- The frames that were begun, the latest first. -/
  segments : List Segment
  results : List OperationResult

def TaskTrace.of (past : List Transition) (session : Session) (task : TaskId) : TaskTrace :=
  ⟨session.task? task, Segment.ofTask task (wireLog past), session.resultsOf task⟩

theorem TaskTrace.mem_segments
    {past : List Transition} {session : Session} {task : TaskId} {segment : Segment} :
    segment ∈ (TaskTrace.of past session task).segments ↔
      segment ∈ wireLog past ∧ segment.task = task :=
  Segment.mem_ofTask

inductive TraceMove (session : Session) (action : Action) (after : Session) (task : TaskId) :
    TaskTrace → TaskTrace → Prop
  | kept (trace : TaskTrace) :
      action.task? ≠ some task →
      TraceMove session action after task trace trace
  | begun {operation : Operation} :
      action.task? ≠ some task →
      session.nextTask ≤ task →
      Session.Origin session action task operation →
      TraceMove session action after task ⟨none, [], []⟩ ⟨some operation, [], []⟩
  | stepped {portion : Nat} {operation next : Operation} {client : Client}
      {segments : List Segment} {results : List OperationResult} :
      action = .advance task portion →
      operation.step ⟨task, portion⟩ session.client = .running client next →
      after.client = client →
      TraceMove session action after task ⟨some operation, segments, results⟩
        ⟨some next, Segment.record task operation.use next.use segments, results⟩
  | ended {portion : Nat} {operation : Operation} {client : Client} {result : OperationResult}
      {segments : List Segment} {results : List OperationResult} :
      action = .advance task portion →
      operation.step ⟨task, portion⟩ session.client = .finished client result →
      after.client = client →
      TraceMove session action after task ⟨some operation, segments, results⟩
        ⟨none, segments, result :: results⟩
  | abandoned {operation : Operation} {segments : List Segment}
      {results : List OperationResult} :
      action = .abandon task →
      (∀ stage, operation ≠ .answer stage) →
      TraceMove session action after task ⟨some operation, segments, results⟩
        ⟨none, segments, results⟩

/-- A task that has come to a result makes no move any more. -/
theorem TraceMove.kept_of_result
    {session after : Session} {action : Action} {task : TaskId} {segments : List Segment}
    {result : OperationResult} {trace : TaskTrace}
    (move : TraceMove session action after task ⟨none, segments, [result]⟩ trace) :
    action.task? ≠ some task ∧ trace = ⟨none, segments, [result]⟩ := by
  cases move with
  | kept _ notTask => exact ⟨notTask, rfl⟩

theorem Session.Effect.exists_operation
    {session after : Session} {action : Action} {task : TaskId}
    (effect : Session.Effect session action after) (isTask : action.task? = some task) :
    ∃ operation, session.task? task = some operation := by
  cases effect with
  | advanced found | ended found | abandoned found => cases isTask; exact ⟨_, found⟩
  | handled handlers noTask => cases noTask.symm.trans isTask
  | _ => cases isTask

/-- What is not an action of a task leaves its operation as it is. -/
theorem Session.Effect.task?_of_ne
    {session after : Session} {action : Action} {task : TaskId}
    (effect : Session.Effect session action after) (fresh : session.HasFreshTask)
    (old : task < session.nextTask) (notTask : action.task? ≠ some task) :
    after.task? task = session.task? task := by
  cases effect with
  | started command =>
      rw [Session.task?_spawn fresh, if_neg (Nat.ne_of_lt old)]
  | @advanced mover portion operation next client found step =>
      have different : task ≠ mover := fun same => notTask (congrArg some same.symm)
      rw [Session.task?_setTask, if_neg different]
      rfl
  | @ended mover portion operation client result found step =>
      have different : task ≠ mover := fun same => notTask (congrArg some same.symm)
      change (({ session with client } : Session).dropTask mover).task? task = _
      rw [Session.task?_dropTask, if_neg different]
      rfl
  | @abandoned mover operation found noAnswer =>
      have different : task ≠ mover := fun same => notTask (congrArg some same.symm)
      change (session.dropTask mover).task? task = _
      rw [Session.task?_dropTask, if_neg different]
  | @dispatched value rest reading read =>
      let passed : Session := { session with inbound := ⟨rest, session.inbound.ending⟩ }
      rcases passed.dispatch_cases value with
        ⟨id, answer, _, equality⟩ | ⟨id, method, params, records, _, equality⟩ |
          ⟨_, diagnostics, records, equality⟩
      · rw [equality]
        unfold Session.deliver
        cases id.nat? <;> rfl
      · let recorded : Session := { passed with records }
        have recordedFresh : recorded.HasFreshTask := fresh
        have notNew : task ≠ recorded.nextTask := Nat.ne_of_lt old
        rw [equality]
        exact (Session.task?_spawn recordedFresh _ task).trans (if_neg notNew)
      · rw [equality]
        rfl
  | _ => rfl

namespace Run

variable {client : Client} {session after : Session} {past : List Transition} {action : Action}

/-- Nothing is told of a task whose number was not given out. -/
theorem trace_of_fresh
    (run : Run (Session.connect client) past session) {task : TaskId}
    (new : session.nextTask ≤ task) : TaskTrace.of past session task = ⟨none, [], []⟩ := by
  have absent := run.hasFreshTask.task?_of_le new
  suffices rest : Segment.ofTask task (wireLog past) = [] ∧ session.resultsOf task = [] by
    rw [TaskTrace.of, absent, rest.1, rest.2]
  clear absent
  induction run with
  | refl => exact ⟨rfl, rfl⟩
  | @step past session after action run applied inductionHypothesis =>
      have effect := Session.effect_of_apply applied
      have newBefore : session.nextTask ≤ task := Nat.le_trans effect.nextTask_le new
      have notTask : action.task? ≠ some task := fun isTask => by
        obtain ⟨operation, found⟩ := effect.exists_operation isTask
        exact absurd (run.hasFreshTask.lt found) (Nat.not_lt.mpr newBefore)
      obtain ⟨noSegment, noResult⟩ := inductionHypothesis newBefore
      refine ⟨List.eq_nil_iff_forall_not_mem.mpr fun segment member => ?_,
        (effect.resultsOf_of_ne notTask).trans noResult⟩
      obtain ⟨logged, sameTask⟩ := Segment.mem_ofTask.mp member
      have notLogged : ∀ earlier, earlier ∈ wireLog past → earlier.task ≠ task :=
        fun earlier logged same => List.eq_nil_iff_forall_not_mem.mp noSegment earlier
          (Segment.mem_ofTask.mpr ⟨logged, same⟩)
      rw [wireLog_concat, Transition.record] at logged
      split at logged
      · exact notLogged segment logged sameTask
      · rename_i mover isMover
        rcases Segment.of_mem_record logged with ⟨earlier, logged, same⟩ | ⟨isTask, _⟩
        · exact notLogged earlier logged (same.trans sameTask)
        · exact notTask (isMover.trans (congrArg some (isTask.symm.trans sameTask)))

private theorem segments_of_ne
    (run : Run (Session.connect client) past session) (freshOutlet : client.HasFreshOutlet)
    {task : TaskId} (notTask : action.task? ≠ some task) (after : Session) :
    Segment.ofTask task (wireLog (past ++ [⟨session, action, after⟩])) =
      Segment.ofTask task (wireLog past) := by
  rw [wireLog_concat, Transition.record]
  split
  · rfl
  · rename_i mover isMover
    have different : task ≠ mover := fun same => notTask (same ▸ isMover)
    exact (run.wireInvariant freshOutlet).ofTask_record_of_ne different _

private theorem segments_of_task
    (run : Run (Session.connect client) past session) (freshOutlet : client.HasFreshOutlet)
    {task : TaskId} (isTask : action.task? = some task) (after : Session) :
    Segment.ofTask task (wireLog (past ++ [⟨session, action, after⟩])) =
      Segment.record task (session.use task) (after.use task)
        (Segment.ofTask task (wireLog past)) := by
  rw [wireLog_concat, Transition.record]
  simp only [isTask]
  exact (run.wireInvariant freshOutlet).ofTask_record task _

/-- What every action does to the trace of every task. -/
theorem traceMove
    (run : Run (Session.connect client) past session) (freshOutlet : client.HasFreshOutlet)
    (applied : session.apply action = some after) (task : TaskId) :
    TraceMove session action after task (TaskTrace.of past session task)
      (TaskTrace.of (past ++ [⟨session, action, after⟩]) after task) := by
  have effect := Session.effect_of_apply applied
  by_cases isTask : action.task? = some task
  · have segments := run.segments_of_task freshOutlet isTask after
    unfold TaskTrace.of
    rw [segments]
    cases effect with
    | @advanced mover portion operation next client' found step =>
        obtain rfl : mover = task := Option.some.inj isTask
        have found' : ({ session with client := client' } : Session).task? mover = some operation :=
          found
        have isNext : (({ session with client := client' } : Session).setTask mover next).task?
            mover = some next := by
          simp [Session.task?_setTask, found']
        have before : session.use mover = operation.use := Session.view_of_found found
        have afterwards :
            (({ session with client := client' } : Session).setTask mover next).use mover =
              next.use := Session.view_of_found isNext
        rw [found, isNext, before, afterwards]
        exact .stepped rfl step rfl
    | @ended mover portion operation client' result found step =>
        obtain rfl : mover = task := Option.some.inj isTask
        have absent : (({ session with client := client' } : Session).dropTask mover).task? mover =
            none := by
          rw [Session.task?_dropTask, if_pos rfl]
        have afterwards : Session.use { ({ session with client := client' } : Session).dropTask
            mover with results := (mover, result) :: session.results } mover = .apart :=
          Session.view_of_absent absent
        have results : Session.resultsOf { ({ session with client := client' } : Session).dropTask
            mover with results := (mover, result) :: session.results } mover =
              result :: session.resultsOf mover := by
          simp [Session.resultsOf]
        rw [afterwards, Segment.record_apart, results, found]
        exact absent ▸ .ended rfl step rfl
    | @abandoned mover operation found noAnswer =>
        obtain rfl : mover = task := Option.some.inj isTask
        have absent : (session.dropTask mover).task? mover = none := by
          rw [Session.task?_dropTask, if_pos rfl]
        have afterwards : Session.use { session.dropTask mover with
            client := operation.abandon mover session.client } mover = .apart :=
          Session.view_of_absent absent
        rw [afterwards, Segment.record_apart, found]
        exact absent ▸ .abandoned rfl noAnswer
    | handled handlers noTask => cases noTask.symm.trans isTask
    | _ => cases isTask
  · -- Another task moves or none, and a task that is not known yet may be begun.
    have segments := run.segments_of_ne freshOutlet isTask after
    have results := effect.resultsOf_of_ne isTask
    by_cases old : task < session.nextTask
    · rw [TaskTrace.of, TaskTrace.of, segments, results,
        effect.task?_of_ne run.hasFreshTask old isTask]
      exact .kept _ isTask
    · have new := Nat.le_of_not_lt old
      have nothing := run.trace_of_fresh new
      unfold TaskTrace.of at nothing ⊢
      injection nothing with _ noSegment noResult
      rw [segments, results, noSegment, noResult, run.hasFreshTask.task?_of_le new]
      cases found : after.task? task with
      | none => exact .kept _ isTask
      | some operation => exact .begun isTask new (effect.origin run.hasFreshTask found)

/-- A task that is under way has no result yet. -/
theorem resultsOf_of_found
    (run : Run (Session.connect client) past session) (freshOutlet : client.HasFreshOutlet)
    {task : TaskId} {operation : Operation} (found : session.task? task = some operation) :
    session.resultsOf task = [] := by
  induction run generalizing operation with
  | refl => cases found
  | @step past session after action run applied inductionHypothesis =>
      have move := run.traceMove freshOutlet applied task
      generalize traceBefore : TaskTrace.of past session task = trace at move
      generalize traceAfter :
        TaskTrace.of (past ++ [⟨session, action, after⟩]) after task = trace' at move
      have sameResults : trace'.results = after.resultsOf task := by rw [← traceAfter]; rfl
      have isFound : trace'.operation? = some operation := by rw [← traceAfter]; exact found
      rw [← sameResults]
      cases move with
      | kept notTask =>
          rw [← traceBefore] at isFound ⊢
          exact inductionHypothesis isFound
      | begun notTask new origin => rfl
      | @stepped portion stage next client' segments results advances step same =>
          have foundBefore : session.task? task = some stage :=
            congrArg TaskTrace.operation? traceBefore
          exact (congrArg TaskTrace.results traceBefore).symm.trans
            (inductionHypothesis foundBefore)
      | ended | abandoned => cases isFound

end Run

end LanguageClient
