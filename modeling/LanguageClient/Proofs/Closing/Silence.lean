import LanguageClient.Proofs.Closing.Output
import LanguageClient.Proofs.Closing.Shut
import LanguageClient.Proofs.Wire.Trace

/-!
# Silence behind the closing

When the closing of a client has returned, the stream is closed and nothing is sent any
more, unless the time was over before the writer could be had.
-/

namespace LanguageClient

/-- The task that got to close the client comes to the end of it. -/
def Transition.ReturnsClosed (transition : Transition) (task : TaskId) : Prop :=
  ∃ portion stage, transition.action = .advance task portion ∧
    transition.before.task? task = some (.close stage) ∧ stage ≠ .starting ∧
      transition.after.task? task = none

/-- With its last step the closing of a client settles the state, and nothing else. -/
theorem Transition.ReturnsClosed.settles
    {transition : Transition} {task : TaskId} (returns : transition.ReturnsClosed task)
    (applied : transition.before.apply transition.action = some transition.after) :
    ∃ status, transition.before.task? task = some (.close (.settling status)) ∧
      transition.after.client = { transition.before.client with state := .closed } := by
  obtain ⟨portion, stage, isAction, found, beyond, isOver⟩ := returns
  rw [isAction] at applied
  obtain ⟨status, rfl, sameClient, _⟩ := Session.settling_of_ended applied found beyond isOver
  exact ⟨status, found, sameClient⟩

/-- What a run tells of a task that comes to no good end: it still has to send something, it
has failed, or it was given up. -/
inductive TaskTrace.IsInVain (client : Client) (abandoned : Prop) : TaskTrace → Prop
  | pending {operation : Operation} {segments : List Segment} :
      operation.HasToSend client → IsInVain client abandoned ⟨some operation, segments, []⟩
  | failed {error : ClientError} {segments : List Segment} :
      IsInVain client abandoned ⟨none, segments, [.error error]⟩
  | abandoned {segments : List Segment} :
      abandoned → IsInVain client abandoned ⟨none, segments, []⟩

/-- Nothing is sent on a stream that was closed with a transition. -/
structure IsSilentBehind
    (earlier : List Transition) (transition : Transition) (later : List Transition)
    (session : Session) : Prop where
  isInputOpen : session.client.isInputOpen = false
  /-- The server finds the end of the stream behind the bytes that are in it. -/
  isClosed : session.client.pipe.isClosed = true
  log : wireLog (earlier ++ transition :: later) = wireLog (earlier ++ [transition])
  bytes : session.client.pipe.isBroken = false →
    session.client.pipe.received ++ session.client.pipe.held =
      transition.after.client.pipe.received ++ transition.after.client.pipe.held
  sends : ∀ latest, latest ∈ later → ∀ task frame result,
    latest.SendReturns task frame result → result = .error .connectionClosed
  operations : ∀ latest, latest ∈ transition :: later → ∀ task operation,
    latest.after.task? task = some operation → operation.HasToSend latest.after.client →
      (TaskTrace.of (earlier ++ transition :: later) session task).IsInVain session.client
        (∃ given, given ∈ earlier ++ transition :: later ∧ given.action = .abandon task)
  /-- What has to be sent does not hang: it waits for nothing but a time. -/
  atRest : session.IsAtRest → ∀ task operation, session.task? task = some operation →
    operation.HasToSend session.client →
      ∃ wakeTime, operation.wakeTime? = some wakeTime ∧ session.client.now < wakeTime

namespace Run

variable {client : Client} {session after : Session} {past : List Transition} {action : Action}

/-! ## The pipe -/

/-- The pipe is closed by the client exactly when the stream is. -/
theorem isClosed_pipe
    (run : Run (Session.connect client) past session)
    (agrees : client.pipe.isClosed = !client.isInputOpen) :
    session.client.pipe.isClosed = !session.client.isInputOpen := by
  induction run with
  | refl => exact agrees
  | @step past session after action run applied inductionHypothesis =>
      have seen {outlet : Outlet} (same : after.client.outlet = outlet)
          (isClosed : outlet.pipe.isClosed = !outlet.isInputOpen) :
          after.client.pipe.isClosed = !after.client.isInputOpen := by
        rw [← same] at isClosed
        exact isClosed
      cases (Session.effect_of_apply applied).wire run.hasFreshTask with
      | moved isTask move others =>
          refine seen rfl ?_
          generalize session.use _ = use at move
          generalize after.use _ = use' at move
          generalize after.client.outlet = outlet at move
          cases move with
          | shut held isOpen => rfl
          | _ => exact inductionHypothesis
      | quiet noTask sameUse same => exact seen same inductionHypothesis
      | taken count noTask sameUse unbroken same => exact seen same inductionHypothesis
      | broken noTask sameUse same => exact seen same inductionHypothesis

/-- A pipe that the reader has not left is one that it had not left before. -/
theorem isBroken_of_later
    {earlier later : List Transition} {transition : Transition}
    (run : Run (Session.connect client) (earlier ++ transition :: later) session)
    (unbroken : session.client.pipe.isBroken = false) :
    transition.after.client.pipe.isBroken = false := by
  by_contra broken
  have stillBroken := run.from_transition
    (motive := fun _ session => session.client.pipe.isBroken = true)
    (Bool.eq_true_of_not_eq_false broken)
    fun past session action after run applied broken => (run.bytes_of_broken applied broken).2
  cases unbroken.symm.trans stillBroken

/-! ## Operations -/

/-- Nobody is in the middle of a frame on a closed stream. -/
theorem idle_of_closed
    (run : Run (Session.connect client) past session) (fresh : client.HasFreshOutlet)
    (closed : session.client.isInputOpen = false) (task : TaskId) :
    (session.use task).isWriting = false := by
  cases use : session.use task with
  | writing message rest =>
      cases closed.symm.trans (run.isInputOpen_of_writing fresh use)
  | _ => rfl

/-- No document is opened when the stream is closed. -/
theorem version?_of_closed
    (run : Run (Session.connect client) past session) (fresh : client.HasFreshOutlet)
    (closed : session.client.isInputOpen = false) (applied : session.apply action = some after)
    {uri : String} (absent : session.client.version? uri = none) :
    after.client.version? uri = none := by
  have isProper : session.IsProper fun _ => True := run.isProper fun _ _ _ _ _ => trivial
  change after.client.shelf.version? uri = none
  cases (Session.effect_of_apply applied).documents run.hasFreshTask (fun _ => True.intro) with
  | moved turn isAction move others =>
      generalize before : session.documentUse turn.task = use at move
      generalize after.documentUse turn.task = use' at move
      generalize after.client.shelf = shelf at move
      cases move with
      | @commits uri' event drop frame client' step =>
          have idle := run.idle_of_closed fresh closed turn.task
          rw [(isProper.use_of_telling before).1] at idle
          have fails := (frame.step_of_idle idle).of_finished step
          cases fails
      | @fails uri' event drop frame client' error step =>
          cases drop with
          | false => exact absent
          | true =>
              refine (Shelf.version?_without session.client.shelf uri' uri _).trans ?_
              split
              · rfl
              · exact absent
      | _ => exact absent
  | quiet noTask sameShelf sameUse =>
      rw [sameShelf]
      exact absent

/-- On a closed stream a task that has something to send comes to no good end. -/
theorem isInVain_step
    (run : Run (Session.connect client) past session) (fresh : client.HasFreshOutlet)
    (closed : session.client.isInputOpen = false)
    (closing : session.client.state.isClosing = true)
    (applied : session.apply action = some after) {task : TaskId} (old : task < session.nextTask)
    (inVain : (TaskTrace.of past session task).IsInVain session.client
      (∃ given, given ∈ past ∧ given.action = .abandon task)) :
    (TaskTrace.of (past ++ [⟨session, action, after⟩]) after task).IsInVain after.client
      (∃ given, given ∈ past ++ [⟨session, action, after⟩] ∧ given.action = .abandon task) := by
  have move := run.traceMove fresh applied task
  have idle := run.idle_of_closed fresh closed task
  generalize traceBefore : TaskTrace.of past session task = trace at move inVain
  generalize TaskTrace.of (past ++ [⟨session, action, after⟩]) after task = trace' at move
  have usedBefore {operation : Operation} (isOperation : trace.operation? = some operation) :
      operation.use.isWriting = false := by
    rw [← traceBefore] at isOperation
    have found : session.task? task = some operation := isOperation
    have seen : session.use task = operation.use := Session.view_of_found found
    rwa [seen] at idle
  cases move with
  | kept notTask =>
      cases inVain with
      | pending hasToSend =>
          exact .pending (hasToSend.of_version fun uri absent =>
            run.version?_of_closed fresh closed applied absent)
      | failed => exact .failed
      | abandoned given =>
          obtain ⟨given, member, isAction⟩ := given
          exact .abandoned ⟨given, List.mem_append_left _ member, isAction⟩
  | begun notTask new origin => exact absurd old (Nat.not_lt.mpr new)
  | stepped advances step same =>
      cases inVain with
      | pending hasToSend =>
          rw [same]
          exact .pending
            ((Operation.fails_of_idle closing (usedBefore rfl) hasToSend).of_running step)
  | ended advances step same =>
      cases inVain with
      | pending hasToSend =>
          obtain ⟨error, rfl⟩ :=
            (Operation.fails_of_idle closing (usedBefore rfl) hasToSend).of_finished step
          exact .failed
  | abandoned gives noAnswer =>
      cases inVain with
      | pending hasToSend =>
          exact .abandoned ⟨_, List.mem_append_right past List.mem_cons_self, gives⟩

/-! ## The end of the closing -/

/-- The time of the closing is over only when another sender holds the writer. -/
theorem exists_sender_of_leavesOpen
    {earlier later : List Transition} {transition : Transition}
    (run : Run (Session.connect client) (earlier ++ transition :: later) session)
    (fresh : client.HasFreshOutlet) {closer : TaskId} (leavesOpen : transition.LeavesOpen closer) :
    ∃ sender message, sender ≠ closer ∧
      transition.before.client.writer.isHeldBy sender = true ∧
        (transition.before.use sender).message? = some message := by
  obtain ⟨runBefore, _⟩ := run.before_transition
  obtain ⟨deadline, waits, _⟩ := leavesOpen.expires
  have invariant := runBefore.wireInvariant fresh
  have used : transition.before.use closer = .closing := Session.view_of_found waits
  have queued := (invariant.queued closer).mpr (by simp [used])
  cases queue : transition.before.client.writer.queue with
  | nil =>
      have empty : transition.before.client.outlet.writer.queue = [] := queue
      simp [empty] at queued
  | cons first others =>
      obtain ⟨sender, mode⟩ := first
      have wholeQueue : transition.before.client.outlet.writer.queue = (sender, mode) :: others :=
        queue
      have holds := Lock.isHeldBy_head queue
      have isOther : sender ≠ closer := by
        rintro rfl
        cases holds.symm.trans leavesOpen.misses
      have uses := (invariant.queued sender).mp (by simp [wholeQueue])
      cases use : transition.before.use sender with
      | apart => exact absurd use uses
      | waiting message => exact ⟨sender, message, isOther, holds, by rw [use]; rfl⟩
      | writing message rest => exact ⟨sender, message, isOther, holds, by rw [use]; rfl⟩
      | closing =>
          obtain ⟨operation, found, closes⟩ := Session.found_of_view use (by simp)
          obtain ⟨input, rfl, _⟩ := Operation.eq_closingInput_of_use closes
          exact absurd (runBefore.closing_unique waits (by simp) found (by simp)) isOther

/-- A stream that was closed in the course of closing the client stays so. -/
private theorem isShut_step
    (run : Run (Session.connect client) past session) (fresh : client.HasFreshOutlet)
    (applied : session.apply action = some after)
    (shut : session.client.isInputOpen = false ∧ session.client.state.isClosing = true) :
    after.client.isInputOpen = false ∧ after.client.state.isClosing = true := by
  have kept := rank_kept 4 past session action after run applied
  rw [← Lifecycle.isClosing_iff_rank, ← Lifecycle.isClosing_iff_rank] at kept
  exact ⟨(run.quiet_of_closed fresh applied shut.1).2.2, kept shut.2⟩

/-- What has to send something on a stream that was closed is in vain. -/
private theorem isInVain_behind
    {earlier later : List Transition} {transition : Transition}
    (run : Run (Session.connect client) (earlier ++ transition :: later) session)
    (fresh : client.HasFreshOutlet)
    (shut : transition.after.client.isInputOpen = false ∧
      transition.after.client.state.isClosing = true)
    {task : TaskId} {operation : Operation}
    (found : transition.after.task? task = some operation)
    (hasToSend : operation.HasToSend transition.after.client) :
    (TaskTrace.of (earlier ++ transition :: later) session task).IsInVain session.client
      (∃ given, given ∈ earlier ++ transition :: later ∧ given.action = .abandon task) := by
  obtain ⟨runBefore, applied⟩ := run.before_transition
  have runBehind := runBefore.step applied
  have noResult := runBehind.resultsOf_of_found fresh found
  refine (run.from_transition
    (motive := fun past session =>
      (session.client.isInputOpen = false ∧ session.client.state.isClosing = true) ∧
        task < session.nextTask ∧ (TaskTrace.of past session task).IsInVain session.client
          (∃ given, given ∈ past ∧ given.action = .abandon task)) ?_ ?_).2.2
  · refine ⟨shut, runBehind.hasFreshTask.lt found, ?_⟩
    unfold TaskTrace.of
    rw [found, noResult]
    exact .pending hasToSend
  · rintro past session action after run applied ⟨isShut, old, inVain⟩
    have noFewer := (Session.effect_of_apply applied).nextTask_le
    exact ⟨run.isShut_step fresh applied isShut, old.trans_le noFewer,
      run.isInVain_step fresh isShut.1 isShut.2 applied old inVain⟩

/-- The stream is closed when the closing returns, unless the time for that was over. -/
theorem closed_of_returnsClosed
    {earlier later : List Transition} {returned : Transition} {closer : TaskId}
    (run : Run (Session.connect client) (earlier ++ returned :: later) session)
    (fresh : client.HasFreshOutlet) (returns : returned.ReturnsClosed closer) :
    returned.after.client.isInputOpen = false ∨
      ∃ missed, missed ∈ earlier ∧ missed.LeavesOpen closer := by
  obtain ⟨runBefore, applied⟩ := run.before_transition
  obtain ⟨status, found, sameClient⟩ := returns.settles applied
  have late : 11 ≤ (Closing.settling status).phase := by simp [Closing.phase]
  rw [sameClient]
  exact runBefore.closed_or_leavesOpen fresh found late

/-- Nothing is sent on a stream that was closed in the course of closing the client. -/
theorem isSilentBehind
    {earlier later : List Transition} {transition : Transition}
    (run : Run (Session.connect client) (earlier ++ transition :: later) session)
    (fresh : client.HasFreshOutlet) (noLock : client.documentsLock = .free)
    (agrees : client.pipe.isClosed = !client.isInputOpen)
    (closed : transition.after.client.isInputOpen = false)
    (closing : transition.after.client.state.isClosing = true) :
    IsSilentBehind earlier transition later session := by
  obtain ⟨stillClosed, sameLog, _⟩ := run.of_closed fresh closed
  have shutBehind {latest : Transition} (member : latest ∈ transition :: later) :
      latest.after.client.isInputOpen = false ∧ latest.after.client.state.isClosing = true := by
    rcases List.mem_cons.mp member with rfl | isLater
    · exact ⟨closed, closing⟩
    · apply run.behind_transition
        (motive := fun session => session.client.isInputOpen = false ∧
          session.client.state.isClosing = true) ⟨closed, closing⟩ _ isLater
      intro past session action after run applied isShut
      exact run.isShut_step fresh applied isShut
  constructor
  case isInputOpen => exact stillClosed
  case isClosed => rw [run.isClosed_pipe agrees, stillClosed]; rfl
  case log => exact sameLog
  case bytes =>
    intro unbroken
    have unbrokenBefore := run.isBroken_of_later unbroken
    obtain ⟨runBefore, applied⟩ := run.before_transition
    have written := (run.wireInvariant fresh).held unbroken
    have writtenBefore := ((runBefore.step applied).wireInvariant fresh).held unbrokenBefore
    rw [sameLog] at written
    exact written.trans writtenBefore.symm
  case sends =>
    rintro latest isLater task frame result ⟨portion, client', isAction, uses, leaves, step⟩
    obtain ⟨_, _, _, runBefore, _⟩ := run.before_later isLater
    have idle := runBefore.idle_of_closed fresh (runBefore.of_closed fresh closed).1 task
    rw [uses] at idle
    exact (frame.step_of_idle idle).of_finished step
  case operations =>
    intro latest member task operation found hasToSend
    have isShut := shutBehind member
    obtain ⟨middle, rest, split⟩ := List.append_of_mem member
    have regrouped : earlier ++ transition :: later = (earlier ++ middle) ++ latest :: rest := by
      rw [split, List.append_assoc]
    rw [regrouped] at run ⊢
    exact run.isInVain_behind fresh isShut found hasToSend
  case atRest =>
    intro atRest task operation found hasToSend
    have unused (task : TaskId) : session.use task = .apart := by
      refine run.use_of_isAtRest fresh atRest ?_ task
      intro task message rest writes
      cases stillClosed.symm.trans (run.isInputOpen_of_writing fresh writes)
    have apart : operation.use = .apart := (Session.view_of_found found).symm.trans (unused task)
    have apartDocuments : operation.documentUse = .apart :=
      (Session.view_of_found found).symm.trans
        (run.documentUse_of_isAtRest noLock atRest unused task)
    exact Operation.wakeTime_of_hasToSend (atRest.step_eq_blocked found 0) hasToSend apart
      apartDocuments

end Run

/-- Once the closing of a client has returned nothing is sent any more, unless another sender
held the writer until the time to close the stream was over; then the stream is never
closed. -/
theorem Run.silent_of_returnsClosed
    {options : ClientOptions} {capacity : Nat} {files : FileTree} {directory : List EntryName}
    {session : Session} {earlier later : List Transition} {returned : Transition}
    {closer : TaskId}
    (run : Run (Session.connect (.connect options capacity files directory))
      (earlier ++ returned :: later) session)
    (returns : returned.ReturnsClosed closer) :
    (IsSilentBehind earlier returned later session ∨
        ∃ missed, missed ∈ earlier ∧ missed.LeavesOpen closer) ∧
      ∀ missed, missed ∈ earlier → missed.LeavesOpen closer →
        session.client.isInputOpen = true ∧
          ∃ sender message, sender ≠ closer ∧
            missed.before.client.writer.isHeldBy sender = true ∧
              (missed.before.use sender).message? = some message := by
  have fresh := Client.hasFreshOutlet_connect options capacity files directory
  constructor
  · rcases run.closed_of_returnsClosed fresh returns with closed | missed
    · have isClosing : returned.after.client.state.isClosing = true := by
        obtain ⟨status, _, sameClient⟩ := returns.settles run.before_transition.2
        rw [sameClient]
        rfl
      exact Or.inl (run.isSilentBehind fresh rfl rfl closed isClosing)
    · exact Or.inr missed
  · intro missed member leavesOpen
    obtain ⟨front, middle, rfl⟩ := List.append_of_mem member
    have regrouped : (front ++ missed :: middle) ++ returned :: later =
        front ++ missed :: (middle ++ returned :: later) := by simp
    rw [regrouped] at run
    exact ⟨run.isInputOpen_of_leavesOpen rfl leavesOpen,
      run.exists_sender_of_leavesOpen fresh leavesOpen⟩

/-! ## A late notification -/

/-- The client is closed, and the server does not answer; only the last step is missing. -/
def unansweredClosing : List Action :=
  .start .close :: List.replicate 11 (.advance 0 1024) ++
    .elapse 500 :: List.replicate 10 (.advance 0 1024)

def lateNotification : List Action :=
  [.start (.notify "late" none), .advance 1 1024, .advance 1 1024]

/-- A step with which the closing returns, from what there is before it. -/
private theorem Transition.returnsClosed_of_settling
    {session after : Session} {task : TaskId} {portion : Nat} {status : Option ExitStatus}
    (found : session.task? task = some (.close (.settling status)))
    (applied : session.apply (.advance task portion) = some after) :
    Transition.ReturnsClosed ⟨session, .advance task portion, after⟩ task :=
  ⟨portion, .settling status, rfl, found, by simp, Session.task?_of_settling applied found⟩

/-- A session and the sessions behind it, when the closing of a task is all but over. -/
theorem Run.of_settling
    (client : Client) (actions later : List Action) (task : TaskId) (portion : Nat)
    (check : Session → Session → Bool)
    (ends : (((Session.connect client).run actions).any fun session =>
      (match session.task? task with
        | some (.close (.settling _)) => true
        | _ => false) &&
      ((session.apply (.advance task portion)).bind fun after =>
        (after.run later).map (check after)) = some true) = true) :
    ∃ earlier returned rest session,
      Run (Session.connect client) (earlier ++ returned :: rest) session ∧
        returned.ReturnsClosed task ∧ earlier.map Transition.action = actions ∧
          rest.map Transition.action = later ∧ check returned.after session = true := by
  obtain ⟨before, ran, ends⟩ := (Option.any_eq_true _ _).mp ends
  rw [Bool.and_eq_true, decide_eq_true_eq] at ends
  obtain ⟨settles, ends⟩ := ends
  obtain ⟨after, applied, ends⟩ := Option.bind_eq_some_iff.mp ends
  obtain ⟨last, ranOn, checked⟩ := Option.map_eq_some_iff.mp ends
  split at settles
  · rename_i status found
    have run := Run.of_run ranOn ((Run.of_run ran .refl).step applied)
    rw [List.nil_append, List.append_assoc] at run
    exact ⟨_, _, _, last, run, Transition.returnsClosed_of_settling found applied,
      Session.map_action_transitions ran, Session.map_action_transitions ranOn, checked⟩
  · cases settles

/-- Behind the closing a notification finds the stream closed. -/
theorem Run.silent_of_returnsClosed_lateNotification :
    ∃ earlier returned later session,
      Run (Session.connect (.connect { processId := 1 } 1024 (.directory []) []))
          (earlier ++ returned :: later) session ∧
        returned.ReturnsClosed 0 ∧ earlier.map Transition.action = unansweredClosing ∧
          later.map Transition.action = lateNotification ∧
            session.results = [(1, .error .connectionClosed), (0, .ok (.exited none))] ∧
              ((IsSilentBehind earlier returned later session ∨
                  ∃ missed, missed ∈ earlier ∧ missed.LeavesOpen 0) ∧
                ∀ missed, missed ∈ earlier → missed.LeavesOpen 0 →
                  session.client.isInputOpen = true ∧
                    ∃ sender message, sender ≠ 0 ∧
                      missed.before.client.writer.isHeldBy sender = true ∧
                        (missed.before.use sender).message? = some message) := by
  obtain ⟨earlier, returned, later, session, run, returns, actions, late, checked⟩ :=
    Run.of_settling (.connect { processId := 1 } 1024 (.directory []) []) unansweredClosing
      lateNotification 0 1024
      (fun _ session =>
        session.results = [(1, .error .connectionClosed), (0, .ok (.exited none))])
      (by decide +kernel)
  exact ⟨earlier, returned, later, session, run, returns, actions, late,
    of_decide_eq_true checked, run.silent_of_returnsClosed returns⟩

/-- A client is closed while its writer is stuck in the first byte of a notification. -/
def stuckClosing : List Action :=
  .start (.notify "first" none) :: List.replicate 3 (.advance 0 1) ++
    .start .close :: List.replicate 8 (.advance 1 1) ++
      .elapse 500 :: List.replicate 3 (.advance 1 1) ++
        .elapse 500 :: List.replicate 3 (.advance 1 1) ++
          .elapse 500 :: List.replicate 2 (.advance 1 1)

/-- When the server reads again behind the closing, the client writes on. -/
theorem Run.not_silent_stuckClosing :
    ∃ earlier returned later session,
      Run (Session.connect .narrow) (earlier ++ returned :: later) session ∧
        returned.ReturnsClosed 1 ∧ earlier.map Transition.action = stuckClosing ∧
          later.map Transition.action = [.serverTakes 1, .advance 0 1] ∧
            session.client.pipe.isClosed = false ∧
              returned.after.client.pipe.received ++ returned.after.client.pipe.held = [67] ∧
                session.client.pipe.received ++ session.client.pipe.held = [67, 111] ∧
                  ¬ IsSilentBehind earlier returned later session := by
  obtain ⟨earlier, returned, later, session, run, returns, actions, later', checked⟩ :=
    Run.of_settling .narrow stuckClosing [.serverTakes 1, .advance 0 1] 1 1
      (fun after session =>
        session.client.pipe.isClosed = false &&
          after.client.pipe.received ++ after.client.pipe.held = [67] &&
            session.client.pipe.received ++ session.client.pipe.held = [67, 111])
      (by decide +kernel)
  simp only [Bool.and_eq_true, decide_eq_true_eq] at checked
  obtain ⟨⟨isOpen, before⟩, behind⟩ := checked
  refine ⟨earlier, returned, later, session, run, returns, actions, later', isOpen, before,
    behind, ?_⟩
  intro silent
  cases isOpen.symm.trans silent.isClosed

end LanguageClient
