import LanguageClient.Proofs.Closing.Sequence
import LanguageClient.Proofs.Sequence

/-!
# Closing all documents

A task that closes all documents tries to tell the server of every one of them, whatever
comes of it, and when it is over no document is open.  The induction is on what comes behind
the transition that begins the task; the order of the table and the time at which writes begin
to fail are those of the run.
-/

namespace LanguageClient

/-! ## What is tried -/

/-- The document of which a task begins to tell the server that it is closed. -/
def Transition.triesToClose? (transition : Transition) (closer : TaskId) : Option String :=
  if (transition.before.documentUse closer).closing?.isSome then none
  else (transition.after.documentUse closer).closing?

/-- The documents of which a task has tried to tell the server that they are closed. -/
def triedToClose (closer : TaskId) (later : List Transition) : List String :=
  later.filterMap fun transition => transition.triesToClose? closer

structure Transition.BeginsClearing (begun : Transition) (closer : TaskId) : Prop where
  starts : begun.action = .start .closeAll
  isNew : closer = begun.before.nextTask

/-- Nobody but one task has to do with the open documents, and that is not dropped. -/
structure Transition.LetsClear (transition : Transition) (closer : TaskId) : Prop where
  apart : ∀ task, task ≠ closer → transition.before.documentUse task = .apart
  kept : transition.action ≠ .abandon closer

private theorem triedToClose_concat
    (closer : TaskId) (later : List Transition) (transition : Transition) :
    triedToClose closer (later ++ [transition]) =
      triedToClose closer later ++ (transition.triesToClose? closer).toList :=
  filterMap_concat _ later transition

namespace Session

variable {session after : Session} {action : Action} {closer : TaskId}

/-- Nothing is tried as long as a task has the same to do with the documents. -/
private theorem triesToClose?_of_same
    (same : after.documentUse closer = session.documentUse closer) :
    Transition.triesToClose? ⟨session, action, after⟩ closer = none := by
  simp only [Transition.triesToClose?, same]
  cases (session.documentUse closer).closing? <;> rfl

private theorem toList_or_closing?
    {before next : DocumentUse} (isBefore : session.documentUse closer = before)
    (isNext : after.documentUse closer = next) :
    (before.closing?.or next.closing?).toList =
      before.closing?.toList ++
        (Transition.triesToClose? ⟨session, action, after⟩ closer).toList := by
  simp only [Transition.triesToClose?, isBefore, isNext]
  cases before.closing? <;> rfl

private theorem documents_of_letsClear
    (effect : Effect session action after) (fresh : session.HasFreshTask)
    (lets : Transition.LetsClear ⟨session, action, after⟩ closer)
    (notCloser : action.task? = some closer → session.documentUse closer = .apart) :
    after.client.documents = session.client.documents := by
  apply effect.documents_of_apart fresh
  intro task isTask
  by_cases isCloser : task = closer
  · exact isCloser ▸ notCloser (isCloser ▸ isTask)
  · exact lets.apart task isCloser

end Session

/-! ## How far the closing has come -/

/-- How far a task has come that closes all documents: it is under way, or it is over and has
left none open. -/
inductive ClearingProgress (closer : TaskId) (uris : List String)
    (past later : List Transition) (session : Session) : Prop
  | underway {stage : ClosingAll} {tried told : List String} {segments : List Segment} :
      TaskTrace.of past session closer = ⟨some (.closeAll stage), segments, []⟩ →
      FilesCourse closer uris session.client.uris stage tried told segments →
      triedToClose closer later = tried ++ stage.documentUse.closing?.toList →
      ClearingProgress closer uris past later session
  | ended {told : List String} {segments : List Segment} :
      TaskTrace.of past session closer = ⟨none, segments, [.ok (.count told.length)]⟩ →
      TellsOf closer uris told segments →
      triedToClose closer later = uris →
      session.client.documents = [] →
      ClearingProgress closer uris past later session

namespace ClearingProgress

variable {client : Client} {session after : Session} {past later : List Transition}
  {action : Action} {closer : TaskId} {uris : List String}

theorem step
    (progress : ClearingProgress closer uris past later session)
    (run : Run (Session.connect client) past session) (freshOutlet : client.HasFreshOutlet)
    (distinct : client.shelf.HasDistinct)
    (lets : Transition.LetsClear ⟨session, action, after⟩ closer)
    (applied : session.apply action = some after) :
    ClearingProgress closer uris (past ++ [⟨session, action, after⟩])
      (later ++ [⟨session, action, after⟩]) after := by
  have effect := Session.effect_of_apply applied
  have move := run.traceMove freshOutlet applied closer
  generalize traceAfter : TaskTrace.of (past ++ [⟨session, action, after⟩]) after closer = trace'
    at move
  cases progress with
  | @underway stage tried told segments trace course tries =>
      have found : session.task? closer = some (.closeAll stage) :=
        congrArg TaskTrace.operation? trace
      have isBefore : session.documentUse closer = stage.documentUse := Session.view_of_found found
      rw [trace] at move
      cases move with
      | kept _ notCloser =>
          have foundAfter : after.task? closer = some (.closeAll stage) :=
            congrArg TaskTrace.operation? traceAfter
          have same : after.documentUse closer = session.documentUse closer :=
            (Session.view_of_found foundAfter).trans isBefore.symm
          have sameDocuments := Session.documents_of_letsClear effect run.hasFreshTask lets
            fun isCloser => absurd isCloser notCloser
          have sameUris : after.client.uris = session.client.uris :=
            congrArg (List.map Prod.fst) sameDocuments
          refine .underway traceAfter (sameUris ▸ course) ?_
          rw [triedToClose_concat, Session.triesToClose?_of_same same]
          exact (List.append_nil _).trans tries
      | @stepped portion _ next _ _ _ advances step same =>
          subst advances same
          obtain ⟨next, inside, rfl⟩ := Step.map_eq_running_iff.mp step
          obtain ⟨tried', told', course', goesOn, _⟩ :=
            course.step inside (run.hasDistinct distinct)
          have foundAfter : after.task? closer = some (.closeAll next) :=
            congrArg TaskTrace.operation? traceAfter
          have isNext : after.documentUse closer = next.documentUse :=
            Session.view_of_found foundAfter
          refine .underway traceAfter course' ?_
          rw [triedToClose_concat, tries, goesOn, List.append_assoc]
          exact congrArg (tried ++ ·) (Session.toList_or_closing? isBefore isNext).symm
      | @ended portion _ _ _ _ _ advances step same =>
          subst advances same
          obtain ⟨result, inside, rfl⟩ := Step.map_eq_finished_iff.mp step
          obtain ⟨rfl, noDocuments, rfl, rfl, tells⟩ := course.finished inside
          have overAfter : after.task? closer = none := congrArg TaskTrace.operation? traceAfter
          have same : after.documentUse closer = session.documentUse closer :=
            (Session.view_of_absent overAfter).trans isBefore.symm
          refine .ended traceAfter tells ?_ noDocuments
          rw [triedToClose_concat, Session.triesToClose?_of_same same, tries]
          exact (List.append_nil _).trans (List.append_nil _)
      | abandoned abandons noAnswer => exact absurd abandons lets.kept
  | @ended told segments trace tells tries noDocuments =>
      rw [trace] at move
      obtain ⟨notCloser, rfl⟩ := move.kept_of_result
      have isOver : session.task? closer = none := congrArg TaskTrace.operation? trace
      have overAfter : after.task? closer = none := congrArg TaskTrace.operation? traceAfter
      have same : after.documentUse closer = session.documentUse closer :=
        (Session.view_of_absent overAfter).trans (Session.view_of_absent isOver).symm
      have sameDocuments := Session.documents_of_letsClear effect run.hasFreshTask lets
        fun isCloser => absurd isCloser notCloser
      refine .ended traceAfter tells ?_ (sameDocuments.trans noDocuments)
      rw [triedToClose_concat, Session.triesToClose?_of_same same]
      exact (List.append_nil _).trans tries

end ClearingProgress

/-! ## The whole -/

/-- What is left when all documents are closed. -/
structure EndsCleared (closer : TaskId) (uris : List String) (past later : List Transition)
    (session : Session) : Prop where
  noDocuments : session.client.documents = []
  /-- Every document that was open is tried, whatever has come of the others. -/
  tries : triedToClose closer later = uris
  /-- What is sent, whole or in part, tells of documents that were open. -/
  sends : ∀ segment, segment ∈ Segment.ofTask closer (wireLog past) →
    ∃ uri, uri ∈ uris ∧ segment.message = (DocumentNotice.closed uri).message
  tells : ∃ told, told.Sublist uris ∧
    (Segment.ofTask closer (wireLog past)).filter Segment.isWhole =
      Segment.wholes closer (closingNotices told)
  counts : session.resultsOf closer =
    [.ok (.count ((Segment.ofTask closer (wireLog past)).filter Segment.isWhole).length)]

/-- How all documents are closed while nobody else has to do with them. -/
structure ClearsDocuments (closer : TaskId) (uris : List String) (past later : List Transition)
    (session : Session) : Prop where
  /-- No document is tried twice. -/
  distinct : uris.Nodup
  tries : triedToClose closer later <+: uris
  ends : session.task? closer = none → EndsCleared closer uris past later session
  /-- It comes to an end, unless somebody is stuck in the middle of a frame. -/
  settles : ∀ operation, session.task? closer = some operation →
    Step.Settles Operation.step operation
  returns : session.IsAtRest →
    (∀ task message rest, session.use task ≠ .writing message rest) →
      session.task? closer = none

namespace Run

variable {client : Client} {session : Session} {earlier later : List Transition}
  {begun : Transition} {closer : TaskId}

private theorem clearingProgress_begun
    (run : Run (Session.connect client) earlier begun.before) (freshOutlet : client.HasFreshOutlet)
    (applied : begun.before.apply begun.action = some begun.after)
    (begins : begun.BeginsClearing closer) :
    ClearingProgress closer begun.before.client.uris (earlier ++ [begun]) [] begun.after := by
  obtain ⟨starts, rfl⟩ := begins
  have move := run.traceMove freshOutlet applied begun.before.nextTask
  rw [run.trace_of_fresh (Nat.le_refl _)] at move
  generalize traceAfter : TaskTrace.of (earlier ++ [⟨begun.before, begun.action, begun.after⟩])
    begun.after begun.before.nextTask = trace' at move
  rw [starts] at applied
  injection applied with spawned
  have found : begun.after.task? begun.before.nextTask = some (.closeAll .starting) := by
    rw [← spawned]
    exact (Session.task?_spawn run.hasFreshTask _ _).trans (if_pos rfl)
  have sameUris : begun.after.client.uris = begun.before.client.uris := by rw [← spawned]; rfl
  cases move with
  | kept => cases found.symm.trans (congrArg TaskTrace.operation? traceAfter)
  | begun =>
      obtain rfl := Option.some.inj (found.symm.trans (congrArg TaskTrace.operation? traceAfter))
      have course : FilesCourse begun.before.nextTask begun.before.client.uris
          begun.after.client.uris .starting [] [] [] := sameUris ▸ .listing (Or.inl rfl)
      exact .underway traceAfter course rfl

/-- Whatever fails, a task that closes all documents leaves none open. -/
theorem clearsDocuments
    (run : Run (Session.connect client) (earlier ++ begun :: later) session)
    (freshOutlet : client.HasFreshOutlet) (unlocked : client.documentsLock = .free)
    (distinct : client.shelf.HasDistinct) (begins : begun.BeginsClearing closer)
    (lets : ∀ transition, transition ∈ later → transition.LetsClear closer) :
    ClearsDocuments closer begun.before.client.uris (earlier ++ begun :: later) later session := by
  obtain ⟨runBefore, applied⟩ := run.before_transition
  have progress : ClearingProgress closer begun.before.client.uris (earlier ++ begun :: later)
      later session := by
    refine run.later_induction_of
      (motive := fun later session =>
        ClearingProgress closer begun.before.client.uris (earlier ++ begun :: later) later session)
      lets (runBefore.clearingProgress_begun freshOutlet applied begins) ?_
    intro later session action after run applied letsLast progress
    rw [← List.cons_append, ← List.append_assoc]
    exact progress.step run freshOutlet distinct letsLast applied
  constructor
  case distinct => exact runBefore.hasDistinct distinct
  case tries =>
    cases progress with
    | underway trace course tries => exact tries ▸ course.isPrefix
    | ended trace tells tries noDocuments => exact tries ▸ List.prefix_refl _
  case ends =>
    intro isOver
    cases progress with
    | underway trace => cases (congrArg TaskTrace.operation? trace).symm.trans isOver
    | @ended told segments trace tells tries noDocuments =>
        have sameSegments : Segment.ofTask closer (wireLog (earlier ++ begun :: later)) = segments :=
          congrArg TaskTrace.segments trace
        have wholes := tells.filter_isWhole
        rw [← sameSegments] at tells wholes
        refine ⟨noDocuments, tries, fun segment => tells.exists_of_mem,
          ⟨told, tells.sublist, wholes⟩, ?_⟩
        have counted : (Segment.wholes closer (closingNotices told)).length = told.length := by
          simp [Segment.wholes, closingNotices]
        rw [wholes, counted]
        exact congrArg TaskTrace.results trace
  case settles =>
    intro operation found
    cases progress with
    | underway trace course =>
        obtain rfl := Option.some.inj ((congrArg TaskTrace.operation? trace).symm.trans found)
        exact Operation.settles_closeAll _
    | ended trace => cases (congrArg TaskTrace.operation? trace).symm.trans found
  case returns =>
    intro atRest unblocked
    cases progress with
    | ended trace => exact congrArg TaskTrace.operation? trace
    | @underway stage _ _ _ trace course =>
        have found : session.task? closer = some (.closeAll stage) :=
          congrArg TaskTrace.operation? trace
        have unused := run.use_of_isAtRest freshOutlet atRest unblocked
        have apart : stage.documentUse = .apart :=
          (Session.view_of_found found).symm.trans
            (run.documentUse_of_isAtRest unlocked atRest unused closer)
        have blocked := Step.eq_blocked_of_map (atRest.step_eq_blocked found 0)
        exact absurd blocked (ClosingAll.not_blocked_of_apart apart)

end Run

/-- A client with three documents beside a pipe that has no room for the notices of two. -/
def Client.withDocuments : Client :=
  { connect { processId := 1 } 150 (.directory []) [] with
    documents := [("file:///b", 3), ("file:///a", 1), ("file:///c", 1)] }

/-- The server stops reading in the middle of the second notice. -/
def closedWhileBreaking : List Action :=
  List.replicate 15 (.advance 0 1024) ++ .serverStopsReading :: List.replicate 8 (.advance 0 1024)

/-- The second notice is cut and the third fails, and only the first is counted; all three
documents are tried, and none is open in the end. -/
theorem Run.clearsDocuments_whileBreaking :
    ∃ begun later session,
      Run (Session.connect .withDocuments) ([] ++ begun :: later) session ∧
        later.map Transition.action = closedWhileBreaking ∧
          session.results = [(0, .ok (.count 1))] ∧ session.task? 0 = none ∧
            begun.BeginsClearing 0 ∧ (∀ transition, transition ∈ later → transition.LetsClear 0) ∧
              begun.before.client.uris = ["file:///b", "file:///a", "file:///c"] ∧
                ClearsDocuments 0 begun.before.client.uris ([] ++ begun :: later) later session := by
  let start := Session.connect .withDocuments
  have computed :
      ((start.apply (.start .closeAll)).bind fun begun =>
        (begun.run closedWhileBreaking).map fun session =>
          ((begun.transitions closedWhileBreaking).all fun transition =>
            transition.before.nextTask = 1, session.results, (session.task? 0).isNone)) =
        some (true, [(0, .ok (.count 1))], true) := by
    decide +kernel
  obtain ⟨after, applied, computed⟩ := Option.bind_eq_some_iff.mp computed
  obtain ⟨session, ran, same⟩ := Option.map_eq_some_iff.mp computed
  simp only [Prod.mk.injEq, List.all_eq_true, decide_eq_true_eq, Option.isNone_iff_eq_none] at same
  obtain ⟨oneTask, results, isOver⟩ := same
  have run : Run start ([] ++ ⟨start, .start .closeAll, after⟩ :: after.transitions
      closedWhileBreaking) session := Run.of_run ran (Run.refl.step applied)
  have actions := Session.map_action_transitions ran
  have begins : Transition.BeginsClearing ⟨start, .start .closeAll, after⟩ 0 := ⟨rfl, rfl⟩
  have lets : ∀ transition, transition ∈ after.transitions closedWhileBreaking →
      transition.LetsClear 0 := by
    intro transition member
    obtain ⟨_, _, _, runBefore, _⟩ := run.before_later member
    refine ⟨fun task other => ?_, fun abandons => ?_⟩
    · have new : transition.before.nextTask ≤ task := by
        rw [oneTask transition member]
        exact Nat.pos_of_ne_zero other
      exact Session.view_of_absent (runBefore.hasFreshTask.task?_of_le new)
    · have isAction : transition.action ∈ closedWhileBreaking :=
        actions ▸ List.mem_map_of_mem member
      rw [abandons] at isAction
      simp [closedWhileBreaking] at isAction
  have distinct : ["file:///b", "file:///a", "file:///c"].Nodup := by decide
  exact ⟨_, _, session, run, actions, results, isOver, begins, lets, rfl,
    run.clearsDocuments ⟨rfl, rfl, rfl⟩ rfl distinct begins lets⟩

end LanguageClient
