import LanguageClient.Proofs.Session.Effect
import LanguageClient.Proofs.Wire.Move

/-!
# The log of the stream

The transitions of a run tell which frames were begun, in which order, and which
bytes of each were put into the pipe.  The bytes in the pipe and those that the
server has read are the bytes of this log.
-/

namespace LanguageClient

/-! ## The stream in a session -/

def Session.use (session : Session) : TaskId → WriterUse :=
  session.view Operation.use .apart

/-- What an action does to the stream: the operation of a task makes a move, or the
server reads or goes. -/
inductive Session.WireEffect (session : Session) (action : Action) (after : Session) : Prop
  | moved {task : TaskId} :
      action.task? = some task →
      WriterMove task session.client.outlet (session.use task) after.client.outlet
        (after.use task) →
      (∀ other, other ≠ task → after.use other = session.use other) →
      WireEffect session action after
  | quiet :
      action.task? = none →
      (∀ task, after.use task = session.use task) →
      after.client.outlet = session.client.outlet →
      WireEffect session action after
  | taken (count : Nat) :
      action.task? = none →
      (∀ task, after.use task = session.use task) →
      session.client.pipe.isBroken = false →
      after.client.outlet =
        { session.client.outlet with pipe := session.client.pipe.take count } →
      WireEffect session action after
  | broken :
      action.task? = none →
      (∀ task, after.use task = session.use task) →
      after.client.outlet =
        { session.client.outlet with pipe := session.client.pipe.abandon } →
      WireEffect session action after

namespace Session

/-- Every action has one of the effects on the stream. -/
theorem Effect.wire
    {session after : Session} {action : Action} (effect : Effect session action after)
    (fresh : session.HasFreshTask) : WireEffect session action after := by
  cases effect with
  | started command =>
      exact .quiet rfl
        (view_spawn_of_nothing fresh (Operation.use_begin session.client command)) rfl
  | @advanced task portion operation next client found step =>
      have moves := operation.step_moves ⟨task, portion⟩ session.client
      rw [step] at moves
      have found' : ({ session with client } : Session).task? task = some operation := found
      have before : session.use task = operation.use := view_of_found found
      have afterwards :
          (({ session with client } : Session).setTask task next).use task = next.use :=
        view_setTask found' next
      refine .moved rfl ?_ fun other different => view_setTask_of_ne different next
      rw [before, afterwards]
      exact moves
  | @ended task portion operation client result found step =>
      have moves := operation.step_moves ⟨task, portion⟩ session.client
      rw [step] at moves
      have before : session.use task = operation.use := view_of_found found
      have afterwards :
          (({ session with client } : Session).dropTask task).use task = .apart :=
        view_dropTask _ task
      refine .moved rfl ?_ fun other different => view_dropTask_of_ne different
      rw [before]
      exact afterwards ▸ moves
  | @abandoned task operation found noAnswer =>
      have before : session.use task = operation.use := view_of_found found
      have afterwards : (session.dropTask task).use task = .apart := view_dropTask session task
      refine .moved rfl ?_ fun other different => view_dropTask_of_ne different
      rw [before]
      exact afterwards ▸ operation.abandon_move task session.client
  | @dispatched value rest reading read =>
      let passed : Session := { session with inbound := ⟨rest, session.inbound.ending⟩ }
      have passedFresh : passed.HasFreshTask := fresh
      obtain ⟨_, calls, diagnostics, sameClient⟩ := passed.dispatch_leaves value
      have sameOutlet := congrArg Client.outlet sameClient
      exact .quiet rfl (view_dispatch passedFresh value fun _ _ => rfl) sameOutlet
  | handled handlers noTask _ => exact .quiet noTask (fun _ => rfl) rfl
  | taken count unbroken => exact .taken count rfl (fun _ => rfl) unbroken rfl
  | broken => exact .broken rfl (fun _ => rfl) rfl
  | _ => exact .quiet rfl (fun _ => rfl) rfl

/-- The action of a task is a move of that task. -/
theorem WireEffect.of_task
    {session after : Session} {action : Action} {task : TaskId}
    (effect : WireEffect session action after) (isTask : action.task? = some task) :
    WriterMove task session.client.outlet (session.use task) after.client.outlet
        (after.use task) ∧
      ∀ other, other ≠ task → after.use other = session.use other := by
  cases effect with
  | @moved mover isMover move others =>
      have sameMover : mover = task := Option.some.inj (isMover.symm.trans isTask)
      subst sameMover
      exact ⟨move, others⟩
  | quiet noTask => cases noTask.symm.trans isTask
  | taken count noTask => cases noTask.symm.trans isTask
  | broken noTask => cases noTask.symm.trans isTask

end Session

/-! ## The log -/

/-- A frame that was begun, with the bytes of it that were written. -/
structure Segment where
  task : TaskId
  message : Outgoing
  written : List UInt8

namespace Segment

/-- The bytes of the frames of a log, the latest of which comes first. -/
def bytes : List Segment → List UInt8
  | [] => []
  | segment :: earlier => bytes earlier ++ segment.written

/-- Whose frames the ones of a log are, and what they say. -/
def headings (log : List Segment) : List (TaskId × Outgoing) :=
  log.map fun segment => (segment.task, segment.message)

/-- The log when more bytes of the latest frame were written. -/
def extend (more : List UInt8) : List Segment → List Segment
  | [] => []
  | segment :: earlier => { segment with written := segment.written ++ more } :: earlier

/-- The log after a task has made a move from one use of the writer to another. -/
def record (task : TaskId) : WriterUse → WriterUse → List Segment → List Segment
  | .waiting _, .writing message _, log => ⟨task, message, []⟩ :: log
  | .writing _ rest, .writing _ rest', log =>
      extend (rest.take (rest.length - rest'.length)) log
  | _, _, log => log

theorem extend_nil (log : List Segment) : extend [] log = log := by
  cases log <;> simp [extend]

theorem record_rest (task : TaskId) (use : WriterUse) (log : List Segment) :
    record task use use log = log := by
  cases use with
  | writing message rest => simp [record, extend_nil]
  | _ => rfl

theorem record_put
    (task : TaskId) (message : Outgoing) (more rest : List UInt8) (log : List Segment) :
    record task (.writing message (more ++ rest)) (.writing message rest) log =
      extend more log := by
  simp [record]

theorem record_apart (task : TaskId) (use : WriterUse) (log : List Segment) :
    record task use .apart log = log := by
  cases use <;> rfl

/-- Only a task that waits for the writer gets a frame into the log. -/
theorem of_mem_record
    {task : TaskId} {use use' : WriterUse} {log : List Segment} {segment : Segment}
    (member : segment ∈ record task use use' log) :
    (∃ earlier, earlier ∈ log ∧ earlier.task = segment.task) ∨
      segment.task = task ∧ ∃ message, use = .waiting message := by
  unfold record at member
  split at member
  · rcases List.mem_cons.mp member with rfl | earlier
    · exact Or.inr ⟨rfl, _, rfl⟩
    · exact Or.inl ⟨segment, earlier, rfl⟩
  · unfold extend at member
    split at member
    · cases member
    · rename_i latest earlier
      rcases List.mem_cons.mp member with rfl | older
      · exact Or.inl ⟨latest, List.mem_cons_self, rfl⟩
      · exact Or.inl ⟨segment, List.mem_cons_of_mem _ older, rfl⟩
  · exact Or.inl ⟨segment, member, rfl⟩

end Segment

def Transition.record (transition : Transition) (log : List Segment) : List Segment :=
  match transition.action.task? with
  | none => log
  | some task =>
      Segment.record task (transition.before.use task) (transition.after.use task) log

/-- The frames that were begun in a run, the latest first. -/
def wireLog (past : List Transition) : List Segment :=
  past.foldl (fun log transition => transition.record log) []

theorem wireLog_concat (past : List Transition) (transition : Transition) :
    wireLog (past ++ [transition]) = transition.record (wireLog past) := by
  simp [wireLog]

/-- Every task of the log has waited for the writer. -/
theorem exists_waiting_of_mem_wireLog
    {past : List Transition} {segment : Segment} (member : segment ∈ wireLog past) :
    ∃ transition, transition ∈ past ∧
      ∃ message, transition.before.use segment.task = .waiting message := by
  induction past using List.reverseRecOn generalizing segment with
  | nil => cases member
  | append_singleton past latest inductionHypothesis =>
      have fromEarlier {earlier : Segment} (logged : earlier ∈ wireLog past)
          (sameTask : earlier.task = segment.task) :
          ∃ transition, transition ∈ past ++ [latest] ∧
            ∃ message, transition.before.use segment.task = .waiting message := by
        obtain ⟨transition, inPast, waited⟩ := inductionHypothesis logged
        exact ⟨transition, List.mem_append_left _ inPast, sameTask ▸ waited⟩
      rw [wireLog_concat, Transition.record] at member
      split at member
      · exact fromEarlier member rfl
      · rcases Segment.of_mem_record member with ⟨earlier, logged, sameTask⟩ | ⟨sameTask, waited⟩
        · exact fromEarlier logged sameTask
        · exact ⟨latest, List.mem_append_right _ List.mem_cons_self, sameTask ▸ waited⟩

/-! ## The log and the stream -/

/-- How the stream and those who use it agree with the log. -/
structure WireInvariant (log : List Segment) (outlet : Outlet) (use : TaskId → WriterUse) :
    Prop where
  orderly : outlet.writer.IsOrderly
  alone : ∀ entry, entry ∈ outlet.writer.queue → entry.2 = .exclusive
  queued : ∀ task, task ∈ outlet.writer.queue.map Prod.fst ↔ use task ≠ .apart
  /-- Whoever writes is the first in the queue, and its frame is the latest. -/
  writing : ∀ task message rest, use task = .writing message rest →
    outlet.writer.IsLedBy task ∧
      ∃ written earlier, log = ⟨task, message, written⟩ :: earlier ∧
        message.frame = written ++ rest
  parts : ∀ segment, segment ∈ log → segment.written <+: segment.message.frame
  received : outlet.pipe.received <+: Segment.bytes log
  held : outlet.pipe.isBroken = false →
    outlet.pipe.received ++ outlet.pipe.held = Segment.bytes log

namespace WireInvariant

variable {log : List Segment} {outlet outlet' : Outlet} {use use' : TaskId → WriterUse}

/-- A task that holds the writer is the first in the queue. -/
theorem isLedBy
    (invariant : WireInvariant log outlet use) {task : TaskId} (queued : use task ≠ .apart)
    (held : outlet.writer.isHeldBy task = true) : outlet.writer.IsLedBy task := by
  rw [← invariant.queued] at queued
  obtain ⟨entry, member, sameTask⟩ := List.mem_map.mp queued
  have isExclusive := invariant.alone entry member
  apply Lock.isLedBy_of_isHeldBy invariant.orderly _ held
  rw [← sameTask, ← isExclusive]
  exact member

/-- No two tasks write at the same time. -/
theorem writing_unique
    (invariant : WireInvariant log outlet use) {task other : TaskId}
    {message message' : Outgoing} {rest rest' : List UInt8}
    (writes : use task = .writing message rest) (writes' : use other = .writing message' rest') :
    other = task :=
  (invariant.writing task message rest writes).1.unique
    (invariant.writing other message' rest' writes').1

private theorem ask
    (invariant : WireInvariant log outlet use) {task : TaskId} (apart : use task = .apart)
    (queued : use' task ≠ .apart) (noWriter : ∀ message rest, use' task ≠ .writing message rest)
    (others : ∀ other, other ≠ task → use' other = use other) :
    WireInvariant log { outlet with writer := outlet.writer.ask task .exclusive } use' where
  orderly := by
    apply invariant.orderly.ask
    rw [invariant.queued]
    simpa using apart
  alone := by
    intro entry member
    rcases List.mem_append.mp member with earlier | new
    · exact invariant.alone entry earlier
    · rw [List.mem_singleton.mp new]
  queued := by
    intro other
    rw [Lock.mem_ask, invariant.queued]
    by_cases same : other = task
    · subst same
      simp [queued]
    · simp [same, others other same]
  writing := by
    intro other message rest writes
    have different : other ≠ task := by
      rintro rfl
      exact noWriter message rest writes
    rw [others other different] at writes
    obtain ⟨led, current⟩ := invariant.writing other message rest writes
    exact ⟨led.ask task .exclusive, current⟩
  parts := invariant.parts
  received := invariant.received
  held := invariant.held

private theorem leave
    (invariant : WireInvariant log outlet use) {task : TaskId} (apart : use' task = .apart)
    (others : ∀ other, other ≠ task → use' other = use other) (isInputOpen : Bool) :
    WireInvariant log ⟨outlet.writer.release task, isInputOpen, outlet.pipe⟩ use' where
  orderly := invariant.orderly.release task
  alone := by
    intro entry member
    exact invariant.alone entry (List.mem_filter.mp member).1
  queued := by
    intro other
    rw [Lock.mem_release, invariant.queued]
    by_cases same : other = task
    · subst same
      simp [apart]
    · simp [same, others other same]
  writing := by
    intro other message rest writes
    have different : other ≠ task := by
      rintro rfl
      rw [apart] at writes
      cases writes
    rw [others other different] at writes
    obtain ⟨led, current⟩ := invariant.writing other message rest writes
    exact ⟨led.release different, current⟩
  parts := invariant.parts
  received := invariant.received
  held := invariant.held

private theorem begin
    (invariant : WireInvariant log outlet use) {task : TaskId} {message : Outgoing}
    (waits : use task = .waiting message) (held : outlet.writer.isHeldBy task = true)
    (begins : use' task = .writing message message.frame)
    (others : ∀ other, other ≠ task → use' other = use other) :
    WireInvariant (⟨task, message, []⟩ :: log) outlet use' where
  orderly := invariant.orderly
  alone := invariant.alone
  queued := by
    intro other
    rw [invariant.queued]
    by_cases same : other = task
    · subst same
      simp [waits, begins]
    · rw [others other same]
  writing := by
    have led := invariant.isLedBy (by simp [waits]) held
    intro other message' rest writes
    by_cases same : other = task
    · subst same
      rw [begins] at writes
      injection writes with sameMessage sameRest
      subst sameMessage
      exact ⟨led, [], log, rfl, by simp [sameRest]⟩
    · rw [others other same] at writes
      have otherLed := (invariant.writing other message' rest writes).1
      exact absurd (led.unique otherLed) same
  parts := by
    intro segment member
    rcases List.mem_cons.mp member with rfl | earlier
    · exact List.nil_prefix
    · exact invariant.parts segment earlier
  received := by
    simpa [Segment.bytes] using invariant.received
  held := by
    simpa [Segment.bytes] using invariant.held

private theorem put
    (invariant : WireInvariant log outlet use) {task : TaskId} {message : Outgoing}
    {more rest : List UInt8} (unbroken : outlet.pipe.isBroken = false)
    (writes : use task = .writing message (more ++ rest))
    (writesOn : use' task = .writing message rest)
    (others : ∀ other, other ≠ task → use' other = use other) :
    WireInvariant (Segment.extend more log) { outlet with pipe := outlet.pipe.put more } use' := by
  obtain ⟨led, written, earlier, rfl, frame⟩ :=
    invariant.writing task message (more ++ rest) writes
  have logBytes :
      Segment.bytes (Segment.extend more (⟨task, message, written⟩ :: earlier)) =
        Segment.bytes (⟨task, message, written⟩ :: earlier) ++ more := by
    simp [Segment.extend, Segment.bytes]
  constructor
  · exact invariant.orderly
  · exact invariant.alone
  · intro other
    rw [invariant.queued]
    by_cases same : other = task
    · subst same
      simp [writes, writesOn]
    · rw [others other same]
  · intro other message' rest' writes'
    by_cases same : other = task
    · subst same
      rw [writesOn] at writes'
      injection writes' with sameMessage sameRest
      subst sameMessage sameRest
      exact ⟨led, written ++ more, earlier, rfl, by simp [frame]⟩
    · rw [others other same] at writes'
      exact absurd (invariant.writing_unique writes writes') same
  · intro segment member
    rcases List.mem_cons.mp member with rfl | older
    · exact ⟨rest, by simp [frame]⟩
    · exact invariant.parts segment (List.mem_cons_of_mem _ older)
  · rw [logBytes]
    exact invariant.received.trans (List.prefix_append _ _)
  · intro _
    rw [logBytes, ← invariant.held unbroken]
    simp [Pipe.put]

/-- A move of a task keeps the log right. -/
theorem moved
    (invariant : WireInvariant log outlet use) {task : TaskId}
    (move : WriterMove task outlet (use task) outlet' (use' task))
    (others : ∀ other, other ≠ task → use' other = use other) :
    WireInvariant (Segment.record task (use task) (use' task) log) outlet' use' := by
  generalize before : use task = usedBefore at move
  generalize afterwards : use' task = usedAfter at move
  cases move with
  | rest =>
      rw [Segment.record_rest]
      have sameUse : use' = use := by
        funext other
        by_cases same : other = task
        · rw [same, before, afterwards]
        · exact others other same
      exact sameUse ▸ invariant
  | ask message =>
      exact invariant.ask before (by simp [afterwards]) (by simp [afterwards]) others
  | askToClose =>
      exact invariant.ask before (by simp [afterwards]) (by simp [afterwards]) others
  | begin message held isOpen => exact invariant.begin before held afterwards others
  | put message more rest unbroken nonempty fits =>
      rw [Segment.record_put]
      exact invariant.put unbroken before afterwards others
  | leave =>
      rw [Segment.record_apart]
      exact invariant.leave afterwards others outlet.isInputOpen
  | shut held isOpen =>
      have left := invariant.leave afterwards others false
      exact ⟨left.orderly, left.alone, left.queued, left.writing, left.parts, left.received,
        left.held⟩

/-- The bytes that the server takes are those that were written first. -/
theorem taken
    (invariant : WireInvariant log outlet use) (unbroken : outlet.pipe.isBroken = false)
    (count : Nat) : WireInvariant log { outlet with pipe := outlet.pipe.take count } use := by
  have whole := invariant.held unbroken
  have split : outlet.pipe.received ++ outlet.pipe.held.take count ++
      outlet.pipe.held.drop count = Segment.bytes log := by
    rw [List.append_assoc, List.take_append_drop, whole]
  exact ⟨invariant.orderly, invariant.alone, invariant.queued, invariant.writing,
    invariant.parts, ⟨_, split⟩, fun _ => split⟩

/-- When the server has gone, what it has read stays. -/
theorem broken (invariant : WireInvariant log outlet use) :
    WireInvariant log { outlet with pipe := outlet.pipe.abandon } use :=
  ⟨invariant.orderly, invariant.alone, invariant.queued, invariant.writing,
    invariant.parts, invariant.received, fun unbroken => nomatch unbroken⟩

end WireInvariant

/-! ## Runs -/

/-- A client whose stream nobody has used. -/
structure Client.HasFreshOutlet (client : Client) : Prop where
  writer : client.writer = .free
  received : client.pipe.received = []
  held : client.pipe.held = []

/-- The log of a run agrees with the stream at its end. -/
theorem Run.wireInvariant
    {client : Client} {session : Session} {past : List Transition}
    (run : Run (Session.connect client) past session) (fresh : client.HasFreshOutlet) :
    WireInvariant (wireLog past) session.client.outlet session.use := by
  induction run with
  | refl =>
      have noUse : ∀ task, (Session.connect client).use task = .apart := fun _ => rfl
      have noWriter : (Session.connect client).client.outlet.writer = .free := fresh.writer
      constructor
      · rw [noWriter]
        exact Lock.isOrderly_free
      · rw [noWriter]
        intro entry member
        cases member
      · intro task
        rw [noUse, noWriter]
        simp [Lock.free]
      · intro task message rest writes
        rw [noUse] at writes
        cases writes
      · intro segment member
        cases member
      · simp [Session.connect, Client.outlet, fresh.received]
      · intro _
        simp [Session.connect, Client.outlet, fresh.received, fresh.held, wireLog,
          Segment.bytes]
  | @step past session after action run applied inductionHypothesis =>
      rw [wireLog_concat]
      unfold Transition.record
      cases (Session.effect_of_apply applied).wire run.hasFreshTask with
      | @moved task sameTask move others =>
          rw [sameTask]
          exact inductionHypothesis.moved move others
      | quiet noTask sameUse sameOutlet =>
          rw [noTask, sameOutlet, funext sameUse]
          exact inductionHypothesis
      | taken count noTask sameUse unbroken outlet =>
          rw [noTask, outlet, funext sameUse]
          exact inductionHypothesis.taken unbroken count
      | broken noTask sameUse outlet =>
          rw [noTask, outlet, funext sameUse]
          exact inductionHypothesis.broken

end LanguageClient
