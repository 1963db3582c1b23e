import LanguageClient.Proofs.Calls.Record
import LanguageClient.Proofs.Closing.Course
import LanguageClient.Proofs.Closing.Silence
import LanguageClient.Proofs.Documents.Synchronization
import LanguageClient.Proofs.Operation.Occupation
import LanguageClient.Proofs.Session.Settling

/-!
# The sequence of closing

A client that is closed while nobody else uses it tells the server that its documents are
closed, asks it to shut down, tells it to exit and closes the stream, whatever the server
does.  The induction is on what comes behind the step with which the closing begins.
-/

namespace LanguageClient

/-! ## Who may do what -/

def Session.OthersAnswer (closer : TaskId) (session : Session) : Prop :=
  ∀ task operation, session.task? task = some operation → task ≠ closer →
    ∃ stage, operation = .answer stage

/-- No write fails, and nobody is stuck in the middle of a frame at rest. -/
structure Session.WritesFreely (session : Session) : Prop where
  flows : ∀ task, (session.use task).Flows session.client
  unblocked : session.IsAtRest → ∀ task message rest, session.use task ≠ .writing message rest

/-- A task begins to close a client that no other operation uses; only answers to the server
are under way. -/
structure Transition.BeginsClosing (gate : Transition) (closer : TaskId) : Prop where
  advances : ∃ portion, gate.action = .advance closer portion
  found : gate.before.task? closer = some (.close .starting)
  working : gate.before.client.state.isClosing = false
  alone : gate.before.OthersAnswer closer

/-- Users leave a client alone that is being closed, time passes as on a virtual clock, and
writes go through. -/
structure Transition.LetsClose (transition : Transition) (closer : TaskId) : Prop where
  noCommand : ∀ command, transition.action ≠ .start command
  kept : transition.action ≠ .abandon closer
  timely : transition.IsTimely
  free : transition.before.WritesFreely

/-- Whether the step of a task is the one that asks for a number for the request to shut
down. -/
def Transition.asksToShutDown (closer : TaskId) (transition : Transition) : Bool :=
  match transition.action, transition.before.task? closer with
  | .advance task _, some (.close stage) => task = closer && stage.asksToShutDown
  | _, _ => false

/-- Whether the read loop has told the calls that no answer will come. -/
def ReadLoop.hasEnded : ReadLoop → Bool
  | .reading | .lost _ => false
  | .leaving _ | .finished => true

/-! ## The others -/

namespace Session

variable {session after : Session} {action : Action} {closer : TaskId}

theorem OthersAnswer.effect
    (others : session.OthersAnswer closer) (effect : Effect session action after)
    (fresh : session.HasFreshTask) (noCommand : ∀ command, action ≠ .start command) :
    after.OthersAnswer closer := by
  intro task operation found different
  cases effect.origin fresh found with
  | kept same => exact others task operation same different
  | begun command isAction new => exact absurd isAction (noCommand command)
  | asked id work new => exact ⟨_, rfl⟩
  | stepped isAction before step =>
      obtain ⟨stage, rfl⟩ := others task _ before different
      obtain ⟨next, _, rfl⟩ := Step.map_eq_running_iff.mp step
      exact ⟨next, rfl⟩

theorem OthersAnswer.view_eq
    {ν : Type} {of : Operation → ν} {nothing : ν} (others : session.OthersAnswer closer)
    (unseen : ∀ stage, of (.answer stage) = nothing) {task : TaskId} (different : task ≠ closer) :
    session.view of nothing task = nothing := by
  cases found : session.task? task with
  | none => exact view_of_absent found
  | some operation =>
      obtain ⟨stage, rfl⟩ := others task operation found different
      exact (view_of_found found).trans (unseen stage)

/-- Nobody changes the table of documents who has nothing to do with them. -/
theorem Effect.documents_of_apart
    (effect : Effect session action after) (fresh : session.HasFreshTask)
    (apart : ∀ task, action.task? = some task → session.documentUse task = .apart) :
    after.client.documents = session.client.documents := by
  cases effect.documents fresh fun _ => True.intro with
  | quiet noTask sameShelf sameUse => exact congrArg Shelf.documents sameShelf
  | moved turn isAction move others =>
      have isTask : action.task? = some turn.task := by
        rcases isAction with rfl | ⟨rfl, _⟩ <;> rfl
      rw [apart turn.task isTask] at move
      generalize after.documentUse turn.task = use at move
      generalize shelfAfter : after.client.shelf = shelf at move
      refine (congrArg Shelf.documents shelfAfter).trans ?_
      cases move <;> rfl

end Session

namespace Run

variable {client : Client} {session after : Session} {earlier later past : List Transition}
  {action : Action} {gate : Transition} {closer : TaskId}

/-- Behind the beginning of the closing only answers are begun. -/
theorem othersAnswer
    (run : Run (Session.connect client) (earlier ++ gate :: later) session)
    (begins : gate.BeginsClosing closer)
    (lets : ∀ transition, transition ∈ later → transition.LetsClose closer) :
    session.OthersAnswer closer := by
  obtain ⟨runBefore, applied⟩ := run.before_transition
  obtain ⟨portion, advances⟩ := begins.advances
  refine run.later_induction_of (motive := fun _ session => session.OthersAnswer closer) lets ?_ ?_
  · apply Session.OthersAnswer.effect begins.alone (Session.effect_of_apply applied)
      runBefore.hasFreshTask
    rw [advances]
    simp
  · intro later session action after run applied letsLast others
    exact others.effect (Session.effect_of_apply applied) run.hasFreshTask letsLast.noCommand

/-- What is begun behind the beginning of the closing, and not by the closing, is an
answer. -/
theorem response_of_acquires
    (run : Run (Session.connect client) (earlier ++ gate :: later) session)
    (begins : gate.BeginsClosing closer)
    (lets : ∀ transition, transition ∈ later → transition.LetsClose closer)
    {transition : Transition} (member : transition ∈ later) {task : TaskId} {message : Outgoing}
    (acquires : transition.acquires? = some (task, message)) (different : task ≠ closer) :
    ∃ id answer, message = .response id answer := by
  obtain ⟨middle, rest, rfl, runBefore, applied⟩ := run.before_later member
  obtain ⟨waits, _⟩ := runBefore.begins_of_acquires applied acquires
  obtain ⟨operation, found, sameUse⟩ := Session.found_of_view waits (by simp)
  obtain ⟨stage, rfl⟩ := runBefore.othersAnswer begins
    (fun transition member => lets transition (List.mem_append_left _ member)) task operation
    found different
  have isProper : transition.before.IsProper fun _ => True := runBefore.isProper fun _ _ _ _ _ => trivial
  have proper := isProper task _ found
  cases stage with
  | sending frame =>
      obtain ⟨id, answer, isMessage⟩ := proper
      have sends : frame.use.message? = some message := congrArg WriterUse.message? sameUse
      exact ⟨id, answer, (Sending.message_of_use sends).symm.trans isMessage⟩
  | working | resting => cases sameUse

end Run

/-! ## How far the closing has come -/

/-- How far the closing of a client has come behind its beginning: it is under way, or all is
sent and the stream is closed. -/
inductive ClosingProgress (closer : TaskId) (gate : Transition) (limits : CloseLimits)
    (past later : List Transition) (session : Session) : Prop
  | underway {stage : Closing} {segments : List Segment} :
      TaskTrace.of past session closer = ⟨some (.close stage), segments, []⟩ →
      ClosingCourse closer gate.before.client.uris limits gate.before.client.now session.client
        (later.filter (Transition.asksToShutDown closer)) stage segments →
      ClosingProgress closer gate limits past later session
  | ended {asking : Transition} {id? : Option Nat} :
      TaskTrace.of past session closer =
        ⟨none, Segment.wholes closer (closingMessages gate.before.client.uris id?),
          [.ok (.exited none)]⟩ →
      later.filter (Transition.asksToShutDown closer) = [asking] →
      id?.isSome = !asking.before.client.calls.isClosed →
      session.client.state = .closed →
      session.client.documents = [] →
      session.client.isInputOpen = false →
      ClosingProgress closer gate limits past later session

/-- Nobody else asks for the number. -/
theorem Transition.asksToShutDown_of_ne
    {transition : Transition} {closer : TaskId} (notCloser : transition.action.task? ≠ some closer) :
    transition.asksToShutDown closer = false := by
  unfold asksToShutDown
  split
  · rename_i task portion stage advances found
    have different : task ≠ closer := fun same => notCloser (by rw [advances, ← same]; rfl)
    simp [different]
  · rfl

namespace ClosingProgress

variable {options : ClientOptions} {capacity : Nat} {files : FileTree}
  {directory : List EntryName} {session after : Session} {past later : List Transition}
  {action : Action} {gate : Transition} {closer : TaskId}

private theorem filter_concat_of_ne
    (notCloser : action.task? ≠ some closer) :
    (later ++ [(⟨session, action, after⟩ : Transition)]).filter
        (Transition.asksToShutDown closer) =
      later.filter (Transition.asksToShutDown closer) := by
  have notAsking : Transition.asksToShutDown closer ⟨session, action, after⟩ = false :=
    Transition.asksToShutDown_of_ne notCloser
  simp [notAsking]

private theorem filter_concat_of_closing
    {portion : Nat} {stage : Closing} (found : session.task? closer = some (.close stage)) :
    (later ++ [(⟨session, .advance closer portion, after⟩ : Transition)]).filter
        (Transition.asksToShutDown closer) =
      later.filter (Transition.asksToShutDown closer) ++
        if stage.asksToShutDown then [⟨session, .advance closer portion, after⟩] else [] := by
  have asks : Transition.asksToShutDown closer ⟨session, .advance closer portion, after⟩ =
      stage.asksToShutDown := by
    simp [Transition.asksToShutDown, found]
  rw [List.filter_append, List.filter_cons, List.filter_nil, asks]

/-- Nobody else has to do with the documents. -/
private theorem documentUse_of_ne
    (others : session.OthersAnswer closer) {task : TaskId} (different : task ≠ closer) :
    session.documentUse task = .apart :=
  others.view_eq (fun _ => rfl) different

/-- What others do leaves the closing as far as it is. -/
private theorem kept
    {stage : Closing} {segments : List Segment} {asked : List Transition} {start : Nat}
    {uris : List String}
    (run : Run (Session.connect (.connect options capacity files directory)) past session)
    (course : ClosingCourse closer uris options.limits start session.client asked stage segments)
    (found : session.task? closer = some (.close stage))
    (others : session.OthersAnswer closer)
    (lets : Transition.LetsClose ⟨session, action, after⟩ closer)
    (applied : session.apply action = some after) (notCloser : action.task? ≠ some closer) :
    ClosingCourse closer uris options.limits start after.client asked stage segments := by
  have fresh := Client.hasFreshOutlet_connect options capacity files directory
  have effect := Session.effect_of_apply applied
  apply course.kept
  · apply effect.documents_of_apart run.hasFreshTask
    intro task isTask
    exact documentUse_of_ne others fun same => notCloser (same ▸ isTask)
  · exact fun closed => (run.quiet_of_closed fresh applied closed).2.2
  · rcases effect.now with same | ⟨milliseconds, elapses, _⟩
    · exact Or.inl same
    · -- Time passes at rest only, where the closing waits for the server.
      right
      have atRest := lets.timely.atRest milliseconds elapses
      have unused := run.use_of_isAtRest fresh atRest (lets.free.unblocked atRest)
      have apart : session.use closer = stage.use := Session.view_of_found found
      have apartDocuments : session.documentUse closer = (Operation.close stage).documentUse :=
        Session.view_of_found found
      rw [unused closer] at apart
      rw [run.documentUse_of_isAtRest rfl atRest unused closer] at apartDocuments
      have blocked := Step.eq_blocked_of_map (atRest.step_eq_blocked found 0)
      obtain ⟨_, id, _, isStage⟩ := course.waiting_of_blocked blocked (run.server_eq_none rfl)
        apart.symm apartDocuments.symm
      exact ⟨_, _, id, isStage⟩

/-- A step of the closing brings it on. -/
private theorem stepped
    {stage next : Closing} {segments : List Segment} {start portion : Nat}
    {uris : List String}
    (run : Run (Session.connect (.connect options capacity files directory)) past session)
    (course : ClosingCourse closer uris options.limits start session.client
      (later.filter (Transition.asksToShutDown closer)) stage segments)
    (found : session.task? closer = some (.close stage))
    (lets : Transition.LetsClose ⟨session, .advance closer portion, after⟩ closer)
    (positive : options.limits.ArePositive)
    (step : stage.step ⟨closer, portion⟩ session.client = .running after.client next) :
    ClosingCourse closer uris options.limits start after.client
      ((later ++ [(⟨session, .advance closer portion, after⟩ : Transition)]).filter
        (Transition.asksToShutDown closer)) next
      (Segment.record closer stage.use next.use segments) := by
  have flows : stage.use.Flows session.client := by
    have sameUse : session.use closer = stage.use := Session.view_of_found found
    exact sameUse ▸ lets.free.flows closer
  have isLatest : (⟨session, .advance closer portion, after⟩ : Transition).before.client =
      session.client := rfl
  rw [filter_concat_of_closing found]
  exact course.step step isLatest (congrArg ClientOptions.limits run.options_eq) positive
    (run.server_eq_none rfl) (run.hasDistinct List.nodup_nil)
    (run.isInputOpen_of_phase rfl found course.ne_starting) flows

theorem step
    (progress : ClosingProgress closer gate options.limits past later session)
    (run : Run (Session.connect (.connect options capacity files directory)) past session)
    (others : session.OthersAnswer closer)
    (lets : Transition.LetsClose ⟨session, action, after⟩ closer)
    (positive : options.limits.ArePositive) (applied : session.apply action = some after) :
    ClosingProgress closer gate options.limits (past ++ [⟨session, action, after⟩])
      (later ++ [⟨session, action, after⟩]) after := by
  have fresh := Client.hasFreshOutlet_connect options capacity files directory
  have effect := Session.effect_of_apply applied
  have move := run.traceMove fresh applied closer
  generalize traceAfter : TaskTrace.of (past ++ [⟨session, action, after⟩]) after closer = trace'
    at move
  cases progress with
  | @underway stage segments trace course =>
      have found : session.task? closer = some (.close stage) :=
        congrArg TaskTrace.operation? trace
      rw [trace] at move
      cases move with
      | kept _ notCloser =>
          refine .underway traceAfter ?_
          rw [filter_concat_of_ne notCloser]
          exact kept run course found others lets applied notCloser
      | stepped advances step same =>
          subst advances same
          obtain ⟨next, inside, rfl⟩ := Step.map_eq_running_iff.mp step
          exact .underway traceAfter (stepped run course found lets positive inside)
      | @ended portion _ _ _ _ _ advances step same =>
          subst advances same
          obtain ⟨result, inside, rfl⟩ := Step.map_eq_finished_iff.mp step
          obtain ⟨rfl, isClosed, noDocuments, closed, asking, id?, isAsking, isAsked, rfl⟩ :=
            course.finished inside
          obtain ⟨status, rfl, _⟩ := Closing.eq_settling_of_finished inside course.ne_starting
          refine .ended traceAfter ?_ isAsked isClosed noDocuments closed
          rw [filter_concat_of_closing found]
          exact (List.append_nil _).trans isAsking
      | abandoned abandons noAnswer => exact absurd abandons lets.kept
  | @ended asking id? trace isAsking isAsked isClosed noDocuments closed =>
      rw [trace] at move
      obtain ⟨notCloser, rfl⟩ := move.kept_of_result
      refine .ended traceAfter ((filter_concat_of_ne notCloser).trans isAsking) isAsked ?_ ?_ ?_
      · have reached : 5 ≤ session.client.state.rank := by
          rw [isClosed]
          exact Nat.le_refl 5
        exact Lifecycle.eq_closed_of_rank (Run.rank_kept 5 _ _ _ _ run applied reached)
      · refine (effect.documents_of_apart run.hasFreshTask ?_).trans noDocuments
        intro task isTask
        exact documentUse_of_ne others fun same => notCloser (same ▸ isTask)
      · exact (run.quiet_of_closed fresh applied closed).2.2

end ClosingProgress

namespace Run

variable {options : ClientOptions} {capacity : Nat} {files : FileTree}
  {directory : List EntryName} {session : Session} {past earlier later : List Transition}
  {gate : Transition} {closer : TaskId}

/-- The closing begins with nothing sent. -/
private theorem closingProgress_begun
    (run : Run (Session.connect (.connect options capacity files directory)) earlier gate.before)
    (applied : gate.before.apply gate.action = some gate.after) (begins : gate.BeginsClosing closer) :
    ClosingProgress closer gate options.limits (earlier ++ [gate]) [] gate.after := by
  obtain ⟨⟨portion, advances⟩, found, working, _⟩ := begins
  have fresh := Client.hasFreshOutlet_connect options capacity files directory
  have silent : IsSilent earlier closer :=
    run.isSilent_of_early areEarly_isAtGate (Session.view_of_found found)
  have noSegment : Segment.ofTask closer (wireLog earlier) = [] := by
    apply List.eq_nil_iff_forall_not_mem.mpr
    intro segment member
    obtain ⟨logged, sameTask⟩ := Segment.mem_ofTask.mp member
    exact silent.not_mem_wireLog logged sameTask
  have move := run.traceMove fresh applied closer
  generalize traceAfter : TaskTrace.of (earlier ++ [⟨gate.before, gate.action, gate.after⟩])
    gate.after closer = trace' at move
  rw [TaskTrace.of, found, noSegment, run.resultsOf_of_found fresh found] at move
  cases move with
  | kept _ notCloser => exact absurd (by rw [advances]; rfl) notCloser
  | stepped _ step same =>
      obtain ⟨next, inside, rfl⟩ := Step.map_eq_running_iff.mp step
      simp only [Closing.step, working] at inside
      cases inside
      refine .underway traceAfter (@ClosingCourse.closingFiles _ _ _ _ _ _ [] _ ?_ ?_ ?_)
      · rw [same]
      · have sameLimits : gate.before.client.options.limits = options.limits :=
          congrArg ClientOptions.limits run.options_eq
        rw [same, ← sameLimits]
        rfl
      · rw [same]
        exact .listing (Or.inl rfl)
  | ended _ step =>
      obtain ⟨result, inside, _⟩ := Step.map_eq_finished_iff.mp step
      simp only [Closing.step, working] at inside
      cases inside
  | abandoned abandons => cases advances.symm.trans abandons

/-- How far the closing has come at every time behind its beginning. -/
theorem closingProgress
    (run : Run (Session.connect (.connect options capacity files directory))
      (earlier ++ gate :: later) session)
    (begins : gate.BeginsClosing closer)
    (lets : ∀ transition, transition ∈ later → transition.LetsClose closer)
    (positive : options.limits.ArePositive) :
    ClosingProgress closer gate options.limits (earlier ++ gate :: later) later session := by
  obtain ⟨runBefore, applied⟩ := run.before_transition
  refine run.later_induction
    (motive := fun later session =>
      (∀ transition, transition ∈ later → transition.LetsClose closer) →
        ClosingProgress closer gate options.limits (earlier ++ gate :: later) later session)
    ?_ ?_ lets
  · exact fun _ => runBefore.closingProgress_begun applied begins
  · intro later session action after run applied inductionHypothesis lets
    have letsBefore : ∀ transition, transition ∈ later → transition.LetsClose closer :=
      fun transition member => lets transition (List.mem_append_left _ member)
    have progress := inductionHypothesis letsBefore
    rw [← List.cons_append, ← List.append_assoc]
    exact progress.step run (run.othersAnswer begins letsBefore)
      (lets _ (List.mem_append_right later List.mem_cons_self)) positive applied

/-- The table of calls is closed when the read loop has ended. -/
theorem isClosed_calls
    (run : Run (Session.connect (.connect options capacity files directory)) past session) :
    session.client.calls.isClosed = session.loop.hasEnded := by
  have isOpen := (run.callInvariant rfl).isOpen
  cases loop : session.loop <;> simp [loop, ReadLoop.hasEnded] at isOpen ⊢ <;> exact isOpen

end Run

/-! ## The whole -/

/-- What is left when the closing of a client is over. -/
structure EndsClosed
    (closer : TaskId) (gate : Transition) (past later : List Transition) (session : Session) :
    Prop where
  result : session.resultsOf closer = [.ok (.exited none)]
  isClosed : session.client.state = .closed
  noDocuments : session.client.documents = []
  noCalls : session.client.calls.waiting = []
  shuts : session.client.isInputOpen = false ∧ session.client.pipe.isClosed = true
  /-- Every open document is closed, the server is asked to shut down unless the read loop had
  ended when this was to be done, and it is told to exit. -/
  sends : ∃ asking id?, later.filter (Transition.asksToShutDown closer) = [asking] ∧
    id?.isSome = !asking.before.loop.hasEnded ∧
      Segment.ofTask closer (wireLog past) =
        Segment.wholes closer (closingMessages gate.before.client.uris id?)

/-- How a client is closed that nobody else uses. -/
structure ClosesDown
    (limits : CloseLimits) (closer : TaskId) (gate : Transition) (past later : List Transition)
    (session : Session) : Prop where
  /-- No document is closed twice. -/
  distinct : gate.before.client.uris.Nodup
  /-- What others send are answers to the server. -/
  answers : ∀ transition, transition ∈ later → ∀ task message,
    transition.acquires? = some (task, message) → task ≠ closer →
      ∃ id answer, message = .response id answer
  ends : session.task? closer = none → EndsClosed closer gate past later session
  /-- It does not wait but for the answer of the server, up to the limit of that. -/
  waits : session.WritesFreely → session.IsAtRest → ∀ operation,
    session.task? closer = some operation →
      session.client.now < gate.before.client.now + limits.shutdownRequest ∧
        ∃ id, session.client.calls.mailbox? id = some .empty ∧
          operation = .close (.shuttingDown (.underway
            (gate.before.client.now + limits.shutdownRequest) (.waiting shutdownRequest id)))
  /-- The client comes to rest. -/
  settles : Acc Session.GoesOn session
  /-- What the server has read are bytes of the frames that were begun, and what it has not
  read is in the pipe. -/
  received : session.client.pipe.received <+: Segment.bytes (wireLog past)
  held : session.client.pipe.isBroken = false →
    session.client.pipe.received ++ session.client.pipe.held = Segment.bytes (wireLog past)

private theorem Run.endsClosed
    {options : ClientOptions} {capacity : Nat} {files : FileTree} {directory : List EntryName}
    {session : Session} {earlier later : List Transition} {gate : Transition} {closer : TaskId}
    (run : Run (Session.connect (.connect options capacity files directory))
      (earlier ++ gate :: later) session)
    (progress : ClosingProgress closer gate options.limits (earlier ++ gate :: later) later session)
    (others : session.OthersAnswer closer) (isOver : session.task? closer = none) :
    EndsClosed closer gate (earlier ++ gate :: later) later session := by
  cases progress with
  | underway trace => cases (congrArg TaskTrace.operation? trace).symm.trans isOver
  | @ended asking id? trace isAsking isAsked isClosed noDocuments closed =>
      refine ⟨congrArg TaskTrace.results trace, isClosed, noDocuments, ?_, ?_, ?_⟩
      · -- Only answers are under way, and no answer is a call.
        apply List.eq_nil_iff_forall_not_mem.mpr
        intro id isWaiting
        obtain ⟨task, number, _⟩ := (run.callInvariant rfl).waiting id isWaiting
        have noCall : session.calling? task = none := by
          by_cases isCloser : task = closer
          · exact Session.view_of_absent (isCloser ▸ isOver)
          · exact others.view_eq (fun _ => rfl) isCloser
        rw [Session.callId?, noCall] at number
        cases number
      · refine ⟨closed, ?_⟩
        rw [run.isClosed_pipe rfl, closed]
        rfl
      · have member : asking ∈ later :=
          List.mem_of_mem_filter (isAsking ▸ List.mem_cons_self)
        obtain ⟨_, _, _, runBefore, _⟩ := run.before_later member
        refine ⟨asking, id?, isAsking, ?_, congrArg TaskTrace.segments trace⟩
        rw [isAsked, runBefore.isClosed_calls]

/-- The closing of a client that nobody else uses goes through all its steps, whatever the
server does and whatever was open. -/
theorem Run.closesDown
    {options : ClientOptions} {capacity : Nat} {files : FileTree} {directory : List EntryName}
    {session : Session} {earlier later : List Transition} {gate : Transition} {closer : TaskId}
    (run : Run (Session.connect (.connect options capacity files directory))
      (earlier ++ gate :: later) session)
    (begins : gate.BeginsClosing closer)
    (lets : ∀ transition, transition ∈ later → transition.LetsClose closer)
    (positive : options.limits.ArePositive) :
    ClosesDown options.limits closer gate (earlier ++ gate :: later) later session := by
  have fresh := Client.hasFreshOutlet_connect options capacity files directory
  have others := run.othersAnswer begins lets
  have progress := run.closingProgress begins lets positive
  constructor
  case distinct =>
    exact run.before_transition.1.hasDistinct List.nodup_nil
  case answers =>
    intro transition member task message acquires different
    exact run.response_of_acquires begins lets member acquires different
  case ends =>
    intro isOver
    exact run.endsClosed progress others isOver
  case waits =>
    intro free atRest operation found
    cases progress with
    | ended trace =>
        have isOver : session.task? closer = none := congrArg TaskTrace.operation? trace
        cases isOver.symm.trans found
    | @underway stage segments trace course =>
        have isStage : session.task? closer = some (.close stage) :=
          congrArg TaskTrace.operation? trace
        obtain rfl := Option.some.inj (isStage.symm.trans found)
        have unused := run.use_of_isAtRest fresh atRest (free.unblocked atRest)
        have apart : stage.use = .apart :=
          (Session.view_of_found found).symm.trans (unused closer)
        have apartDocuments : (Operation.close stage).documentUse = .apart :=
          (Session.view_of_found found).symm.trans
            (run.documentUse_of_isAtRest rfl atRest unused closer)
        have blocked := Step.eq_blocked_of_map (atRest.step_eq_blocked found 0)
        obtain ⟨early, id, empty, isWaiting⟩ :=
          course.waiting_of_blocked blocked (run.server_eq_none rfl) apart apartDocuments
        exact ⟨early, id, empty, congrArg Operation.close isWaiting⟩
  case settles =>
    apply Session.Settles.acc_goesOn _ run.hasFreshTask
    intro task operation found
    by_cases isCloser : task = closer
    · subst isCloser
      cases progress with
      | ended trace => cases (congrArg TaskTrace.operation? trace).symm.trans found
      | underway trace course =>
          obtain rfl := Option.some.inj ((congrArg TaskTrace.operation? trace).symm.trans found)
          exact Operation.settles_close _
    · obtain ⟨stage, rfl⟩ := others task operation found isCloser
      exact Operation.settles_answer stage
  case received => exact (run.wireInvariant fresh).received
  case held => exact (run.wireInvariant fresh).held

/-- A document is opened, the server ends its output, and a user begins to close the client. -/
def openedThenLost : List Action :=
  .start (.openFile (.ofString "/a")) :: List.replicate 7 (.advance 0 1024) ++
    [.serverEnds .closed, .read, .read, .read, .start .close]

/-- The only operation is a closing that has not begun yet. -/
private def Session.isToClose (session : Session) : Bool :=
  match session.tasks with
  | [(1, .close .starting)] => !session.client.state.isClosing
  | _ => false

/-- The closing of a client whose server has gone closes the document and tells the server to
exit, but does not ask it to shut down. -/
theorem Run.closesDown_openedThenLost :
    ∃ earlier gate later session, Run (Session.connect .withFile) (earlier ++ gate :: later) session ∧
      earlier.map Transition.action = openedThenLost ∧ gate.action = .advance 1 1024 ∧
        later.map Transition.action = List.replicate 23 (.advance 1 1024) ∧
          session.results = [(1, .ok (.exited none)), (0, .ok .nothing)] ∧
            gate.BeginsClosing 1 ∧ (∀ transition, transition ∈ later → transition.LetsClose 1) ∧
              ClosesDown {} 1 gate (earlier ++ gate :: later) later session := by
  let start := Session.connect .withFile
  let rest := List.replicate 23 (Action.advance 1 1024)
  have computed :
      ((start.run openedThenLost).bind fun before =>
        (before.apply (.advance 1 1024)).bind fun after =>
          (after.run rest).map fun session =>
            (before.isToClose, (after.transitions rest).all fun transition =>
              !transition.before.client.pipe.isBroken, session.results)) =
        some (true, true, [(1, .ok (.exited none)), (0, .ok .nothing)]) := by
    decide +kernel
  obtain ⟨before, ran, computed⟩ := Option.bind_eq_some_iff.mp computed
  obtain ⟨after, applied, computed⟩ := Option.bind_eq_some_iff.mp computed
  obtain ⟨session, ranOn, same⟩ := Option.map_eq_some_iff.mp computed
  simp only [Prod.mk.injEq, List.all_eq_true, Bool.not_eq_true'] at same
  obtain ⟨isToClose, unbroken, results⟩ := same
  have begins : Transition.BeginsClosing ⟨before, .advance 1 1024, after⟩ 1 := by
    unfold Session.isToClose at isToClose
    split at isToClose
    · rename_i tasks
      refine ⟨⟨1024, rfl⟩, ?_, by simpa using isToClose, ?_⟩
      · simp [Session.task?, tasks]
      · intro task operation found different
        simp [Session.task?, tasks, Ne.symm different] at found
    · cases isToClose
  have run : Run start (start.transitions openedThenLost ++
      ⟨before, .advance 1 1024, after⟩ :: after.transitions rest) session := by
    have whole := Run.of_run ranOn ((Run.of_run ran .refl).step applied)
    simpa using whole
  have actions := Session.map_action_transitions ranOn
  have lets : ∀ transition, transition ∈ after.transitions rest → transition.LetsClose 1 := by
    intro transition member
    have isAction : transition.action ∈ rest := actions ▸ List.mem_map_of_mem member
    have advances : transition.action = .advance 1 1024 := List.eq_of_mem_replicate isAction
    obtain ⟨_, _, _, _, applied⟩ := run.before_later member
    rw [advances] at applied
    refine ⟨by simp [advances], by simp [advances], ⟨by simp [advances], by simp [advances]⟩, ?_, ?_⟩
    · exact fun task message rest writes unfinished => unbroken transition member
    · intro atRest
      cases (atRest.tasks 1 1024).symm.trans applied
  exact ⟨_, _, _, session, run, Session.map_action_transitions ran, rfl, actions, results, begins,
    lets, run.closesDown begins lets ⟨by decide, by decide, by decide⟩⟩

end LanguageClient
