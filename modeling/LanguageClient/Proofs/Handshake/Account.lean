import LanguageClient.Proofs.Handshake.Step
import LanguageClient.Proofs.Replies.Account

/-!
# The account of openings

A task that was begun to open the session waits for its first step, was turned away, or has
claimed the client and goes the course of the handshake.  No other task sends a message of
the handshake, and no two of them claim the client.
-/

namespace LanguageClient

/-! ## Claims -/

namespace Transition

variable {session after : Session} {action : Action} {task : TaskId}

theorem claim?_eq_some_iff :
    Transition.claim? ⟨session, action, after⟩ = some task ↔
      (∃ portion, action = .advance task portion) ∧ session.client.state = .starting ∧
        after.client.state = .initializing := by
  unfold claim?
  cases action with
  | advance mover portion =>
      dsimp only
      split
      · rename_i states
        constructor
        · intro same
          exact ⟨⟨portion, by rw [Option.some.inj same]⟩, states⟩
        · rintro ⟨⟨_, same⟩, _⟩
          injection same with sameTask
          rw [sameTask]
      · rename_i states
        exact ⟨nofun, fun ⟨_, isClaim⟩ => absurd isClaim states⟩
  | _ => exact ⟨nofun, fun ⟨⟨_, same⟩, _⟩ => nomatch same⟩

theorem claim?_ne_of_ne (notTask : action.task? ≠ some task) :
    Transition.claim? ⟨session, action, after⟩ ≠ some task := by
  intro isClaim
  obtain ⟨⟨portion, rfl⟩, _⟩ := claim?_eq_some_iff.mp isClaim
  exact notTask rfl

end Transition

/-! ## Courses -/

/-- What a task can leave behind that was begun to open the session, when the client is in a
state. -/
inductive OpeningCourse
    (past : List Transition) (state : Lifecycle) (opening : SessionOpening) : TaskTrace → Prop
  | waiting :
      opening.task ∉ claims past →
      OpeningCourse past state opening
        ⟨some (.openSession (.starting opening.workspace opening.custom)), [], []⟩
  /-- The client was not at its start, or the task was given up. -/
  | turnedAway {results : List OperationResult} :
      opening.task ∉ claims past →
      (∀ result, result ∈ results → ∃ state, result = .error (.invalidState state)) →
      OpeningCourse past state opening ⟨none, [], results⟩
  /-- A client whose handshake has failed is not in use any more. -/
  | claimed {trace : TaskTrace} :
      opening.task ∈ claims past →
      Handshaking past opening trace →
      (∀ error, .error error ∈ trace.results → 3 ≤ state.rank) →
      OpeningCourse past state opening trace

/-- A task that has not come to its end has no result. -/
theorem Handshaking.results_of_running
    {past : List Transition} {opening : SessionOpening} {operation : Operation}
    {segments : List Segment} {results : List OperationResult}
    (handshaking : Handshaking past opening ⟨some operation, segments, results⟩) :
    results = [] := by
  cases handshaking <;> rfl

namespace OpeningCourse

variable {past : List Transition} {session after : Session} {action : Action}
  {opening : SessionOpening} {trace trace' : TaskTrace}

/-- The first step of an opening claims the client if it is at its start. -/
private theorem of_starting
    {turn : Turn} {client client' : Client} {workspace : Path} {custom : Option Json.Members}
    {next : Operation}
    (step : (Operation.openSession (.starting workspace custom)).step turn client =
      .running client' next) :
    client.state = .starting ∧ client'.state = .initializing ∧
      next = .openSession (.preparing workspace custom) := by
  obtain ⟨stage, inside, rfl⟩ := Step.map_eq_running_iff.mp step
  simp only [Initializing.step] at inside
  split at inside
  · rename_i isStarting
    cases inside
    exact ⟨isStarting, rfl, rfl⟩
  · cases inside

private theorem of_starting_finished
    {turn : Turn} {client client' : Client} {workspace : Path} {custom : Option Json.Members}
    {result : OperationResult}
    (step : (Operation.openSession (.starting workspace custom)).step turn client =
      .finished client' result) :
    client' = client ∧ result = .error (.invalidState client.state) := by
  obtain ⟨opened, inside, rfl⟩ := Step.map_eq_finished_iff.mp step
  rcases Initializing.of_step_finished inside with
    ⟨_, _, _, sameClient, rfl⟩ | ⟨_, _, isPreloading, _⟩ | ⟨_, isFailing, _⟩
  · exact ⟨sameClient, rfl⟩
  · cases isPreloading
  · cases isFailing

/-- What other tasks and the server do leaves an opening on its course. -/
private theorem kept
    (course : OpeningCourse past session.client.state opening trace)
    (follows : session.client.state.Follows after.client.state)
    (notTask : action.task? ≠ some opening.task) :
    OpeningCourse (past ++ [⟨session, action, after⟩]) after.client.state opening trace := by
  have unclaimed (notClaimed : opening.task ∉ claims past) :
      opening.task ∉ claims (past ++ [⟨session, action, after⟩]) := by
    rw [mem_claims_concat, not_or]
    exact ⟨notClaimed, Transition.claim?_ne_of_ne notTask⟩
  cases course with
  | waiting notClaimed => exact .waiting (unclaimed notClaimed)
  | turnedAway notClaimed refused => exact .turnedAway (unclaimed notClaimed) refused
  | claimed isClaimed handshaking failed =>
      exact .claimed (mem_claims_concat.mpr (Or.inl isClaimed)) (handshaking.concat _)
        fun error member => (failed error member).trans follows.rank_le

/-- Every action leaves an opening on its course. -/
theorem move
    (course : OpeningCourse past session.client.state opening trace)
    (move : TraceMove session action after opening.task trace trace')
    (old : opening.task < session.nextTask)
    (follows : session.client.state.Follows after.client.state)
    (started : opening.task ∈ claims past → 1 ≤ session.client.state.rank)
    (supported : ∀ portion operation, action = .advance opening.task portion →
      trace.operation? = some operation →
        Handshaking.Support (past ++ [⟨session, action, after⟩]) opening session.client
          after.client operation trace.segments) :
    OpeningCourse (past ++ [⟨session, action, after⟩]) after.client.state opening trace' := by
  cases move with
  | kept _ notTask => exact course.kept follows notTask
  | begun _ new _ => exact absurd old (Nat.not_lt.mpr new)
  | stepped isAction step sameClient =>
      subst sameClient
      cases course with
      | waiting notClaimed =>
          -- The first step goes on only from the start of the client, so it is a claim.
          obtain ⟨isStarting, isInitializing, rfl⟩ := of_starting step
          have isClaim := Transition.claim?_eq_some_iff.mpr
            ⟨⟨_, isAction⟩, isStarting, isInitializing⟩
          exact .claimed (mem_claims_concat.mpr (Or.inr isClaim)) .preparing nofun
      | claimed isClaimed handshaking failed =>
          have handshaking' :=
            (handshaking.concat _).stepped (supported _ _ isAction rfl) step
          refine .claimed (mem_claims_concat.mpr (Or.inl isClaimed)) handshaking' ?_
          rw [handshaking'.results_of_running]
          exact nofun
  | ended isAction step sameClient =>
      subst sameClient
      cases course with
      | waiting notClaimed =>
          obtain ⟨sameClient, rfl⟩ := of_starting_finished step
          refine .turnedAway ?_ fun result member => ⟨_, List.mem_singleton.mp member⟩
          rw [mem_claims_concat, not_or]
          refine ⟨notClaimed, fun isClaim => ?_⟩
          obtain ⟨_, isStarting, isInitializing⟩ := Transition.claim?_eq_some_iff.mp isClaim
          rw [sameClient, isStarting] at isInitializing
          cases isInitializing
      | claimed isClaimed handshaking failed =>
          obtain ⟨handshaking', fails⟩ := (handshaking.concat _).ended step
          refine .claimed (mem_claims_concat.mpr (Or.inl isClaimed)) handshaking' ?_
          rw [handshaking.results_of_running]
          intro error member
          obtain ⟨reason, failure⟩ := fails ⟨error, (List.mem_singleton.mp member).symm⟩
          rw [failure]
          exact Lifecycle.rank_of_failHandshake (started isClaimed) reason
  | abandoned isAction noAnswer =>
      have notAdvance : Transition.claim? ⟨session, action, after⟩ ≠ some opening.task := by
        intro isClaim
        obtain ⟨⟨portion, advances⟩, _⟩ := Transition.claim?_eq_some_iff.mp isClaim
        cases isAction.symm.trans advances
      cases course with
      | waiting notClaimed =>
          refine .turnedAway ?_ nofun
          rw [mem_claims_concat, not_or]
          exact ⟨notClaimed, notAdvance⟩
      | claimed isClaimed handshaking failed =>
          obtain rfl := handshaking.results_of_running
          exact .claimed (mem_claims_concat.mpr (Or.inl isClaimed))
            (.givenUp (handshaking.concat _).said) nofun

/-- Only an opening that has a place for the server and the built-in handlers writes. -/
theorem prepared
    {state : Lifecycle} (course : OpeningCourse past state opening trace) {segment : Segment}
    (own : segment ∈ trace.segments) : Prepared past opening := by
  cases course with
  | waiting | turnedAway => cases own
  | claimed _ handshaking _ => exact handshaking.said.prepared own

/-- An opening that comes to a result has told the server so and made the client ready. -/
theorem exists_opened
    {state : Lifecycle} {value : OperationValue} (course : OpeningCourse past state opening trace)
    (isResult : .ok value ∈ trace.results) :
    ∃ id params result, value = .initialized result ∧ OpenedBy past opening.task id result ∧
      MadeReady past opening.task ∧ askedFrame opening id params ∈ trace.segments ∧
        tellingFrame opening Outgoing.initialized.frame ∈ trace.segments := by
  cases course with
  | waiting => cases isResult
  | turnedAway _ refused =>
      obtain ⟨_, isError⟩ := refused _ isResult
      cases isError
  | claimed _ handshaking _ =>
      cases handshaking with
      | @succeeded id params result notices _ opened made _ =>
          have isValue := List.mem_singleton.mp isResult
          refine ⟨id, params, result, Except.ok.inj isValue, opened, made, ?_, ?_⟩
          · exact List.mem_append_right _ (List.mem_cons_of_mem _ List.mem_cons_self)
          · exact List.mem_append_right _ List.mem_cons_self
      | failed => cases List.mem_singleton.mp isResult
      | _ => cases isResult

/-- When an opening that has claimed the client has come to an error, the client is out of
use. -/
theorem rank_of_error
    {state : Lifecycle} {error : ClientError} (course : OpeningCourse past state opening trace)
    (isClaimed : opening.task ∈ claims past) (isResult : .error error ∈ trace.results) :
    3 ≤ state.rank := by
  cases course with
  | waiting notClaimed | turnedAway notClaimed => exact absurd isClaimed notClaimed
  | claimed _ _ failed => exact failed error isResult

end OpeningCourse

/-! ## The account -/

/-- What a task can leave behind that does not open the session. -/
structure TaskTrace.IsOrdinary (trace : TaskTrace) : Prop where
  operation : ∀ stage, trace.operation? ≠ some (.openSession stage)
  segments : ∀ segment, segment ∈ trace.segments → ¬ segment.message.IsHandshake

/-- What the past tells of every task: those that open the session go their course, and the
others have nothing to do with the handshake. -/
structure OpeningInvariant (past : List Transition) (session : Session) : Prop where
  old : ∀ opening, opening ∈ sessionOpenings past → opening.task < session.nextTask
  course : ∀ opening, opening ∈ sessionOpenings past →
    OpeningCourse past session.client.state opening (TaskTrace.of past session opening.task)
  apart : ∀ task, (∀ opening, opening ∈ sessionOpenings past → opening.task ≠ task) →
    (TaskTrace.of past session task).IsOrdinary

namespace Run

variable {client : Client} {session after : Session} {past : List Transition} {action : Action}

/-- A client that was claimed has left its start. -/
theorem started_of_claim
    (run : Run (Session.connect client) past session) {task : TaskId}
    (isClaimed : task ∈ claims past) : 1 ≤ session.client.state.rank := by
  induction run with
  | refl => cases isClaimed
  | @step past session after action run applied inductionHypothesis =>
      rcases mem_claims_concat.mp isClaimed with earlier | isClaim
      · exact rank_kept 1 past session action after run applied (inductionHypothesis earlier)
      · obtain ⟨_, _, isInitializing⟩ := Transition.claim?_eq_some_iff.mp isClaim
        rw [isInitializing]
        exact Nat.le_refl 1

/-- The client is claimed once at most. -/
theorem length_claims_le_one (run : Run (Session.connect client) past session) :
    (claims past).length ≤ 1 := by
  rw [claims, List.length_filterMap_eq_countP]
  refine (run.countP_le_one (rank_kept 1) ?_).1
  intro past session action after run applied isClaim
  obtain ⟨task, isClaim⟩ := Option.isSome_iff_exists.mp isClaim
  obtain ⟨_, isStarting, isInitializing⟩ := Transition.claim?_eq_some_iff.mp isClaim
  rw [isStarting, isInitializing]
  exact ⟨by decide, Nat.le_refl 1⟩

private theorem support
    (run : Run (Session.connect client) past session) (fresh : client.calls = .empty)
    (freshOutlet : client.HasFreshOutlet) {opening : SessionOpening} {portion : Nat}
    {operation : Operation} (isAction : action = .advance opening.task portion)
    (found : session.task? opening.task = some operation) :
    Handshaking.Support (past ++ [⟨session, action, after⟩]) opening session.client after.client
      operation (Segment.ofTask opening.task (wireLog past)) := by
  have isLast : (⟨session, action, after⟩ : Transition) ∈ past ++ [⟨session, action, after⟩] :=
    List.mem_append_right _ List.mem_cons_self
  have isTask : action.task? = some opening.task := isAction ▸ rfl
  constructor
  case registers =>
    intro registration isNext
    refine ⟨_, isLast, isTask, ?_⟩
    simp only [Transition.builtin?, isAction, found, Option.bind_some, isNext]
  case answers =>
    intro request id value calling full
    have inside : session.calling? opening.task = some (.waiting request id) :=
      (Session.view_of_found found).trans calling
    exact (run.answeredIn_of_full fresh (Session.callId?_of_calling inside) full).concat _
  case ready =>
    intro isInitializing isReady
    refine ⟨_, isLast, isTask, ?_⟩
    simp [Transition.entersReady, isInitializing, isReady]
  case isProper => exact run.isProper (fun _ _ _ _ _ => trivial) _ _ found
  case writing =>
    intro message rest writes
    obtain ⟨_, written, earlier, log, _⟩ := (run.wireInvariant freshOutlet).writing opening.task
      message rest ((Session.view_of_found found).trans writes)
    refine ⟨written, Segment.ofTask opening.task earlier, ?_⟩
    rw [log, Segment.ofTask_cons, if_pos rfl]

private theorem course_of_begun
    (run : Run (Session.connect client) past session) (freshOutlet : client.HasFreshOutlet)
    (applied : session.apply action = some after) {opening : SessionOpening}
    (begun : Transition.opening? ⟨session, action, after⟩ = some opening) :
    opening.task = session.nextTask ∧ after.nextTask = session.nextTask + 1 ∧
      OpeningCourse (past ++ [⟨session, action, after⟩]) after.client.state opening
        (TaskTrace.of (past ++ [⟨session, action, after⟩]) after opening.task) := by
  unfold Transition.opening? at begun
  split at begun
  · rename_i workspace custom isAction
    dsimp only at isAction
    obtain rfl := Option.some.inj begun
    subst isAction
    have isSpawned : after = session.spawn (.openSession (.starting workspace custom)) :=
      (Option.some.inj applied).symm
    refine ⟨rfl, by rw [isSpawned]; rfl, ?_⟩
    have found : after.task? session.nextTask =
        some (.openSession (.starting workspace custom)) := by
      rw [isSpawned]
      exact (Session.task?_spawn run.hasFreshTask _ _).trans (if_pos rfl)
    have unclaimed : session.nextTask ∉
        claims (past ++ [⟨session, .start (.openSession workspace custom), after⟩]) := by
      rw [mem_claims_concat, not_or]
      refine ⟨fun isClaimed => ?_, Transition.claim?_ne_of_ne nofun⟩
      obtain ⟨transition, member, isClaim⟩ := List.mem_filterMap.mp isClaimed
      obtain ⟨⟨portion, advances⟩, _⟩ := Transition.claim?_eq_some_iff.mp isClaim
      exact run.idle_of_fresh (Nat.le_refl _) member (by rw [advances]; rfl)
    have move := run.traceMove freshOutlet applied session.nextTask
    rw [run.trace_of_fresh (Nat.le_refl _)] at move
    -- What is there behind the action is the operation that it has begun.
    generalize traceEq : TaskTrace.of _ after session.nextTask = trace at move ⊢
    have operation : trace.operation? = some (.openSession (.starting workspace custom)) :=
      traceEq ▸ found
    cases move with
    | kept => cases operation
    | begun =>
        cases operation
        exact .waiting unclaimed
  · cases begun

/-- Only a user who opens the session begins an operation for it. -/
private theorem exists_opening
    (applied : session.apply action = some after) {command : Command} {stage : Initializing}
    (isAction : action = .start command) {task : TaskId} (new : session.nextTask ≤ task)
    (old : task < after.nextTask) (begins : command.begin session.client = .openSession stage) :
    ∃ opening, Transition.opening? ⟨session, action, after⟩ = some opening ∧
      opening.task = task := by
  subst isAction
  have bound : after.nextTask = session.nextTask + 1 := by
    rw [← Option.some.inj applied]
    rfl
  rw [bound] at old
  have isNext : session.nextTask = task := Nat.le_antisymm new (Nat.le_of_lt_succ old)
  cases command with
  | openSession workspace custom => exact ⟨_, rfl, isNext⟩
  | _ => cases begins

private theorem ordinary_of_move
    (run : Run (Session.connect client) past session) (freshOutlet : client.HasFreshOutlet)
    (leaves : LeavesHandshake (past ++ [⟨session, action, after⟩]))
    (applied : session.apply action = some after) {task : TaskId}
    (ordinary : (TaskTrace.of past session task).IsOrdinary)
    (unopened : ∀ opening, Transition.opening? ⟨session, action, after⟩ = some opening →
      opening.task ≠ task) :
    (TaskTrace.of (past ++ [⟨session, action, after⟩]) after task).IsOrdinary := by
  have move := run.traceMove freshOutlet applied task
  have runAfter := run.step applied
  generalize before : TaskTrace.of past session task = trace at move ordinary
  generalize afterwards : TaskTrace.of _ after task = trace' at move ⊢
  have found : session.task? task = trace.operation? := before ▸ rfl
  have found' : after.task? task = trace'.operation? := afterwards ▸ rfl
  cases move with
  | kept => exact ordinary
  | begun notTask new origin =>
      refine ⟨fun stage same => ?_, nofun⟩
      have begins := Option.some.inj same
      cases origin with
      | kept same => cases found.symm.trans same
      | begun command isAction _ =>
          obtain ⟨opening, isOpening, sameTask⟩ :=
            exists_opening applied isAction new (runAfter.hasFreshTask.lt found') begins
          exact unopened opening isOpening sameTask
      | asked => cases begins
      | stepped isAction => exact notTask (isAction ▸ rfl)
  | stepped isAction step =>
      -- The frame of the step is that of an operation of another kind.
      have notOpening := (Operation.step_ne_openSession fun stage same =>
        ordinary.operation stage (congrArg some same)).of_running step
      refine ⟨fun stage same => notOpening stage (Option.some.inj same), fun segment member => ?_⟩
      rcases Segment.message_of_mem_record member with ⟨earlier, logged, same⟩ | sends
      · exact same ▸ ordinary.segments earlier logged
      · exact runAfter.not_isHandshake_of_use leaves found' notOpening sends
  | ended | abandoned =>
      refine ⟨fun stage same => ?_, ordinary.segments⟩
      cases same

/-- Every run keeps the account of openings. -/
theorem openingInvariant
    (run : Run (Session.connect client) past session) (fresh : client.calls = .empty)
    (freshOutlet : client.HasFreshOutlet) (leaves : LeavesHandshake past) :
    OpeningInvariant past session := by
  induction run with
  | refl =>
      refine ⟨fun _ member => ?_, fun _ member => ?_, fun task _ =>
        ⟨fun stage same => ?_, fun segment member => ?_⟩⟩
      · cases member
      · cases member
      · cases same
      · cases member
  | @step past session after action run applied inductionHypothesis =>
      have invariant := inductionHypothesis leaves.left
      have effect := Session.effect_of_apply applied
      have member {opening : SessionOpening}
          (isMember : opening ∈ sessionOpenings (past ++ [⟨session, action, after⟩])) :
          opening ∈ sessionOpenings past ∨
            Transition.opening? ⟨session, action, after⟩ = some opening := by
        rw [sessionOpenings_concat] at isMember
        simpa using isMember
      constructor
      case old =>
        intro opening isMember
        rcases member isMember with earlier | begun
        · exact Nat.lt_of_lt_of_le (invariant.old opening earlier) effect.nextTask_le
        · obtain ⟨isNext, bound, _⟩ := run.course_of_begun freshOutlet applied begun
          rw [bound, isNext]
          exact Nat.lt_succ_self _
      case course =>
        intro opening isMember
        rcases member isMember with earlier | begun
        · exact (invariant.course opening earlier).move (run.traceMove freshOutlet applied _)
            (invariant.old opening earlier) (run.follows applied) run.started_of_claim
            fun portion operation isAction found => run.support fresh freshOutlet isAction found
        · exact (run.course_of_begun freshOutlet applied begun).2.2
      case apart =>
        intro task others
        rw [sessionOpenings_concat] at others
        refine run.ordinary_of_move freshOutlet leaves applied (invariant.apart task
          fun opening isMember => others opening (List.mem_append_left _ isMember))
            fun opening begun => ?_
        exact others opening (List.mem_append_right _ (Option.mem_toList.mpr begun))

end Run

end LanguageClient
