import LanguageClient.Proofs.Frame.Truncation
import LanguageClient.Proofs.Wire.Failure
import LanguageClient.Proofs.Wire.Framing

/-!
# Senders in turn

Senders begin their frames in the order in which they get the writer.  As long as nobody
gives up in the middle of a frame the bytes on the stream are those frames in that
order, whole up to the last one, and who closes the stream does so between two of them.
-/

namespace LanguageClient

/-! ## Sends -/

def Transition.SendReturns
    (transition : Transition) (task : TaskId) (frame : Sending)
    (result : Except ClientError Unit) : Prop :=
  ∃ portion client, transition.action = .advance task portion ∧
    transition.before.use task = frame.use ∧ transition.after.use task = .apart ∧
      frame.step ⟨task, portion⟩ transition.before.client = .finished client result

/-- Whether a task stops in the middle of a frame although its send has not come to its
end. -/
def Transition.abandonsSend (transition : Transition) : Bool :=
  match transition.action with
  | .advance task portion =>
      match transition.before.use task, transition.after.use task with
      | .writing message rest, .apart =>
          match (Sending.writing message rest).step ⟨task, portion⟩ transition.before.client with
          | .finished _ _ => false
          | _ => true
      | _, _ => false
  | .abandon task =>
      match transition.before.use task with
      | .writing _ _ => true
      | _ => false
  | _ => false

/-- Who does not give up in the middle of a frame comes to its end. -/
theorem Transition.exists_sendReturns
    {transition : Transition} (kept : transition.abandonsSend = false) {task : TaskId}
    (isTask : transition.action.task? = some task) {message : Outgoing} {rest : List UInt8}
    (writes : transition.before.use task = .writing message rest)
    (leaves : transition.after.use task = .apart) :
    ∃ result, transition.SendReturns task (.writing message rest) result := by
  unfold abandonsSend at kept
  cases action : transition.action with
  | advance other portion =>
      rw [action] at isTask
      obtain rfl := Option.some.inj isTask
      simp only [action, writes, leaves] at kept
      split at kept
      · rename_i client result step
        exact ⟨result, portion, client, action, writes, leaves, step⟩
      · cases kept
  | abandon other =>
      rw [action] at isTask
      obtain rfl := Option.some.inj isTask
      simp only [action, writes] at kept
      cases kept
  | _ => rw [action] at isTask; cases isTask

/-- A sender that is in its frame has written all of it, or the reader has gone. -/
theorem Sending.of_writing_finished
    {turn : Turn} {client client' : Client} {message : Outgoing} {rest : List UInt8}
    {result : Except ClientError Unit}
    (step : (Sending.writing message rest).step turn client = .finished client' result) :
    (rest = [] ∧ result = .ok ()) ∨
      (rest ≠ [] ∧ client.pipe.isBroken = true ∧
        result = .error (.frame (.io client.pipe.failure))) := by
  cases rest with
  | nil =>
      injection step with _ same
      exact Or.inl ⟨rfl, same.symm⟩
  | cons byte rest =>
      simp only [Sending.step] at step
      split at step
      · rename_i broken
        injection step with _ same
        exact Or.inr ⟨List.cons_ne_nil _ _, broken, same.symm⟩
      · split at step <;> cases step

/-- A sender whose turn comes when the stream is closed is told so. -/
theorem Sending.of_queued_finished
    {turn : Turn} {client client' : Client} {message : Outgoing}
    {result : Except ClientError Unit}
    (step : (Sending.queued message).step turn client = .finished client' result) :
    client.isInputOpen = false ∧ result = .error .connectionClosed := by
  simp only [Sending.step] at step
  split at step
  · split at step
    · cases step
    · rename_i closed
      injection step with _ same
      exact ⟨Bool.eq_false_iff.mpr closed, same.symm⟩
  · cases step

/-! ## Turns -/

/-- The message that a task begins to send when it gets the writer. -/
def WriterUse.acquires? : WriterUse → WriterUse → Option Outgoing
  | .waiting _, .writing message _ => some message
  | _, _ => none

/-- The task that gets the writer, and the message that it begins to send. -/
def Transition.acquires? (transition : Transition) : Option (TaskId × Outgoing) :=
  transition.action.task?.bind fun task =>
    ((transition.before.use task).acquires? (transition.after.use task)).map fun message =>
      (task, message)

/-- The tasks that have got the writer in a run, in this order, with their messages. -/
def acquisitions (past : List Transition) : List (TaskId × Outgoing) :=
  past.filterMap Transition.acquires?

/-- The bytes of the frames that were to be sent. -/
def frames (acquired : List (TaskId × Outgoing)) : List UInt8 :=
  acquired.flatMap fun entry => entry.2.frame

theorem frames_append (first second : List (TaskId × Outgoing)) :
    frames (first ++ second) = frames first ++ frames second :=
  List.flatMap_append

theorem frames_concat (acquired : List (TaskId × Outgoing)) (task : TaskId) (message : Outgoing) :
    frames (acquired ++ [(task, message)]) = frames acquired ++ message.frame := by
  simp [frames]

theorem acquisitions_concat (past : List Transition) (transition : Transition) :
    acquisitions (past ++ [transition]) = acquisitions past ++ transition.acquires?.toList := by
  cases acquired : transition.acquires? <;> simp [acquisitions, acquired]

theorem WriterUse.acquires?_self (use : WriterUse) : use.acquires? use = none := by
  cases use <;> rfl

theorem WriterUse.acquires?_apart (use : WriterUse) : use.acquires? .apart = none := by
  cases use <;> rfl

namespace Segment

theorem headings_record
    (task : TaskId) (use use' : WriterUse) (log : List Segment) :
    headings (record task use use' log) =
      ((use.acquires? use').map fun message => (task, message)).toList ++ headings log := by
  unfold record
  split
  · rfl
  · cases log <;> rfl
  · rename_i noBegin noPut
    have nothing : use.acquires? use' = none := by
      unfold WriterUse.acquires?
      split
      · exact (noBegin _ _ _ rfl rfl).elim
      · rfl
    rw [nothing]
    rfl

/-- Bytes are only added to a log. -/
theorem bytes_record
    (task : TaskId) (use use' : WriterUse) (log : List Segment) :
    bytes log <+: bytes (record task use use' log) := by
  unfold record
  split
  · simp [bytes]
  · cases log with
    | nil => exact List.nil_prefix
    | cons latest earlier =>
        rw [extend, bytes, bytes, ← List.append_assoc]
        exact List.prefix_append _ _
  · exact List.prefix_rfl

end Segment

/-- The log lists the frames in the order in which their senders got the writer. -/
theorem headings_wireLog (past : List Transition) :
    (Segment.headings (wireLog past)).reverse = acquisitions past := by
  induction past using List.reverseRecOn with
  | nil => rfl
  | append_singleton past latest inductionHypothesis =>
      rw [wireLog_concat, acquisitions_concat, ← inductionHypothesis]
      unfold Transition.record Transition.acquires?
      cases latest.action.task? with
      | none => simp
      | some task =>
          dsimp only [Option.bind_some]
          rw [Segment.headings_record, List.reverse_append]
          cases (latest.before.use task).acquires? (latest.after.use task) <;> rfl

/-- The frame of a task that gets the writer is the latest. -/
theorem wireLog_of_acquires
    {past : List Transition} {transition : Transition} {task : TaskId} {message : Outgoing}
    (acquires : transition.acquires? = some (task, message)) :
    wireLog (past ++ [transition]) = ⟨task, message, []⟩ :: wireLog past := by
  unfold Transition.acquires? at acquires
  obtain ⟨mover, isMover, begins⟩ := Option.bind_eq_some_iff.mp acquires
  obtain ⟨begun, turn, same⟩ := Option.map_eq_some_iff.mp begins
  cases same
  rw [wireLog_concat, Transition.record, isMover]
  unfold WriterUse.acquires? at turn
  split at turn
  · rename_i before afterwards
    cases turn
    simp only [before, afterwards, Segment.record]
  · cases turn

/-- Bytes that were written stay. -/
theorem bytes_wireLog_prefix (earlier later : List Transition) :
    Segment.bytes (wireLog earlier) <+: Segment.bytes (wireLog (earlier ++ later)) := by
  induction later using List.reverseRecOn with
  | nil => exact (List.append_nil earlier).symm ▸ List.prefix_rfl
  | append_singleton later latest inductionHypothesis =>
      refine inductionHypothesis.trans ?_
      rw [← List.append_assoc, wireLog_concat]
      unfold Transition.record
      split
      · exact List.prefix_rfl
      · exact Segment.bytes_record _ _ _ _

/-! ## Progress -/

/-- How far the senders of a run have come, nobody of whom gave up: all frames are whole,
or one is in work, or the reader has gone in the middle of one. -/
inductive Progress
    (isBroken : Bool) (use : TaskId → WriterUse) (acquired : List (TaskId × Outgoing))
    (bytes : List UInt8) : Prop
  | idle :
      bytes = frames acquired →
      (∀ task message rest, use task ≠ .writing message rest) →
      Progress isBroken use acquired bytes
  | busy {before : List (TaskId × Outgoing)} {task : TaskId} {message : Outgoing}
      {part rest : List UInt8} :
      acquired = before ++ [(task, message)] →
      bytes = frames before ++ part →
      message.frame = part ++ rest →
      use task = .writing message rest →
      Progress isBroken use acquired bytes
  | stuck {before later : List (TaskId × Outgoing)} {task : TaskId} {message : Outgoing}
      {part rest : List UInt8} :
      isBroken = true →
      acquired = before ++ (task, message) :: later →
      bytes = frames before ++ part →
      message.frame = part ++ rest →
      rest ≠ [] →
      (∀ task message rest, use task = .writing message rest → rest ≠ []) →
      Progress isBroken use acquired bytes

namespace Progress

variable {isBroken : Bool} {log : List Segment} {outlet outlet' : Outlet}
  {use use' : TaskId → WriterUse} {acquired : List (TaskId × Outgoing)} {bytes : List UInt8}
  {task : TaskId}

/-- The bytes of a run are the first of the frames whose senders got the writer. -/
theorem isPrefix (progress : Progress isBroken use acquired bytes) : bytes <+: frames acquired := by
  cases progress with
  | idle whole noWriter => exact whole ▸ List.prefix_rfl
  | busy split bytes frame writes =>
      rw [split, bytes, frames_concat, frame]
      exact ⟨_, by rw [List.append_assoc]⟩
  | @stuck before later task message part rest broken split bytes frame someLeft others =>
      have regrouped : before ++ (task, message) :: later = (before ++ [(task, message)]) ++ later := by
        simp
      rw [split, bytes, regrouped, frames_append, frames_concat, frame]
      exact ⟨rest ++ frames later, by simp⟩

/-- Who does not write does not count. -/
theorem congr
    (progress : Progress isBroken use acquired bytes)
    (sameWriters : ∀ task message rest,
      use' task = .writing message rest ↔ use task = .writing message rest) :
    Progress isBroken use' acquired bytes := by
  cases progress with
  | idle whole noWriter =>
      exact .idle whole fun task message rest writes =>
        noWriter task message rest ((sameWriters task message rest).mp writes)
  | busy split bytes frame writes =>
      exact .busy split bytes frame ((sameWriters _ _ _).mpr writes)
  | stuck broken split bytes frame someLeft others =>
      exact .stuck broken split bytes frame someLeft fun task message rest writes =>
        others task message rest ((sameWriters task message rest).mp writes)

/-- When the reader has gone a frame in work stays in work until its sender notices. -/
theorem broken (progress : Progress isBroken use acquired bytes) :
    Progress true use acquired bytes := by
  cases progress with
  | idle whole noWriter => exact .idle whole noWriter
  | busy split bytes frame writes => exact .busy split bytes frame writes
  | stuck _ split bytes frame someLeft others => exact .stuck rfl split bytes frame someLeft others

private theorem congr_of_others
    (progress : Progress isBroken use acquired bytes)
    (others : ∀ other, other ≠ task → use' other = use other)
    (before : ∀ message rest, use task ≠ .writing message rest)
    (afterwards : ∀ message rest, use' task ≠ .writing message rest) :
    Progress isBroken use' acquired bytes := by
  apply progress.congr
  intro other message rest
  by_cases same : other = task
  · subst same
    exact iff_of_false (afterwards message rest) (before message rest)
  · rw [others other same]

private theorem begin
    (progress : Progress isBroken use acquired bytes)
    (noWriter : ∀ task message rest, use task ≠ .writing message rest)
    {message : Outgoing} (begins : use' task = .writing message message.frame)
    (others : ∀ other, other ≠ task → use' other = use other) :
    Progress isBroken use' (acquired ++ [(task, message)]) bytes := by
  have nonempty : message.frame ≠ [] := Frame.encode_ne_nil message.toJson
  cases progress with
  | idle whole _ =>
      exact .busy rfl (by rw [whole, List.append_nil]) (List.nil_append message.frame).symm begins
  | busy split bytes frame writes => exact absurd writes (noWriter _ _ _)
  | stuck broken split bytes frame someLeft _ =>
      refine .stuck broken (by rw [split, List.append_assoc, List.cons_append]) bytes frame
        someLeft ?_
      intro other message' rest writes
      by_cases same : other = task
      · subst same
        rw [begins] at writes
        injection writes with _ sameRest
        rw [← sameRest]
        exact nonempty
      · rw [others other same] at writes
        exact absurd writes (noWriter _ _ _)

private theorem leave
    (progress : Progress isBroken use acquired bytes)
    {message : Outgoing} {rest : List UInt8} (writes : use task = .writing message rest)
    (unique : ∀ other message rest, use other = .writing message rest → other = task)
    (finished : rest = [] ∨ isBroken = true) (apart : use' task = .apart)
    (others : ∀ other, other ≠ task → use' other = use other) :
    Progress isBroken use' acquired bytes := by
  have noWriter : ∀ other message rest, use' other ≠ .writing message rest := by
    intro other message' rest' writes'
    by_cases same : other = task
    · rw [same, apart] at writes'
      cases writes'
    · rw [others other same] at writes'
      exact same (unique other message' rest' writes')
  cases progress with
  | idle whole nobody => exact absurd writes (nobody task message rest)
  | @busy before writer message' part rest' split bytes frame writes' =>
      obtain rfl := unique writer message' rest' writes'
      rw [writes] at writes'
      injection writes' with sameMessage sameRest
      subst sameMessage sameRest
      by_cases isWhole : rest = []
      · refine .idle ?_ noWriter
        rw [split, bytes, frames_concat, frame, isWhole, List.append_nil]
      · exact .stuck (finished.resolve_left isWhole) split bytes frame isWhole
          fun other message rest writes => absurd writes (noWriter other message rest)
  | stuck broken split bytes frame someLeft _ =>
      exact .stuck broken split bytes frame someLeft
        fun other message rest writes => absurd writes (noWriter other message rest)

/-- A move of a task that does not give up in its frame keeps all in order. -/
theorem moved
    (progress : Progress outlet.pipe.isBroken use acquired (Segment.bytes log))
    (invariant : WireInvariant log outlet use)
    (move : WriterMove task outlet (use task) outlet' (use' task))
    (others : ∀ other, other ≠ task → use' other = use other)
    (finished : ∀ message rest, use task = .writing message rest → use' task = .apart →
      rest = [] ∨ outlet.pipe.isBroken = true) :
    Progress outlet'.pipe.isBroken use'
      (acquired ++
        (((use task).acquires? (use' task)).map fun message => (task, message)).toList)
      (Segment.bytes (Segment.record task (use task) (use' task) log)) := by
  have unique {message : Outgoing} {rest : List UInt8} (writes : use task = .writing message rest)
      (other : TaskId) (message' : Outgoing) (rest' : List UInt8)
      (writes' : use other = .writing message' rest') : other = task :=
    invariant.writing_unique writes writes'
  generalize before : use task = usedBefore at move finished unique
  generalize afterwards : use' task = usedAfter at move finished
  cases move with
  | rest =>
      rw [WriterUse.acquires?_self, Segment.record_rest]
      have sameUse : use' = use := by
        funext other
        by_cases same : other = task
        · rw [same, before, afterwards]
        · exact others other same
      rw [sameUse]
      simpa using progress
  | ask message =>
      exact (List.append_nil acquired).symm ▸
        progress.congr_of_others others (by simp [before]) (by simp [afterwards])
  | askToClose =>
      exact (List.append_nil acquired).symm ▸
        progress.congr_of_others others (by simp [before]) (by simp [afterwards])
  | shut held isOpen =>
      exact (List.append_nil acquired).symm ▸
        progress.congr_of_others others (by simp [before]) (by simp [afterwards])
  | begin message held isOpen =>
      have led := invariant.isLedBy (by simp [before]) held
      have noWriter : ∀ other message rest, use other ≠ .writing message rest := by
        intro other message' rest' writes'
        obtain rfl := (invariant.writing other message' rest' writes').1.unique led
        rw [before] at writes'
        cases writes'
      have begun := progress.begin noWriter afterwards others
      simpa [Segment.record, Segment.bytes, WriterUse.acquires?] using begun
  | put message more rest unbroken nonempty fits =>
      obtain ⟨_, written, earlier, rfl, _⟩ := invariant.writing task message _ before
      have nobody : (WriterUse.writing message (more ++ rest)).acquires? (.writing message rest) =
          none := rfl
      rw [Segment.record_put, nobody]
      cases progress with
      | idle whole noWriter => exact absurd before (noWriter task message _)
      | @busy front writer message' part rest' split bytes frame writes' =>
          obtain rfl := unique rfl writer message' rest' writes'
          rw [before] at writes'
          injection writes' with sameMessage sameRest
          subst sameMessage sameRest
          have extended :
              Segment.bytes (Segment.extend more (⟨writer, message, written⟩ :: earlier)) =
                frames front ++ (part ++ more) := by
            rw [← List.append_assoc, ← bytes]
            simp [Segment.extend, Segment.bytes]
          have frameOn : message.frame = (part ++ more) ++ rest := by
            rw [frame, List.append_assoc]
          exact .busy ((List.append_nil acquired).trans split) extended frameOn afterwards
      | stuck broken _ _ _ _ _ => exact absurd (unbroken.symm.trans broken) Bool.false_ne_true
  | leave =>
      rw [WriterUse.acquires?_apart, Segment.record_apart]
      have left : Progress outlet.pipe.isBroken use' acquired (Segment.bytes log) := by
        cases usedBefore with
        | writing message rest =>
            exact progress.leave before (unique rfl) (finished message rest rfl rfl) afterwards others
        | _ => exact progress.congr_of_others others (by simp [before]) (by simp [afterwards])
      simpa using left

end Progress

namespace Run

variable {client : Client} {session : Session} {past : List Transition}

/-- A run in which nobody gives up in the middle of a send makes progress. -/
theorem progress
    (run : Run (Session.connect client) past session) (fresh : client.HasFreshOutlet)
    (kept : ∀ transition, transition ∈ past → transition.abandonsSend = false) :
    Progress session.client.pipe.isBroken session.use (acquisitions past)
      (Segment.bytes (wireLog past)) := by
  induction run with
  | refl => exact .idle rfl fun _ _ _ writes => nomatch writes
  | @step past session after action run applied inductionHypothesis =>
      have before := inductionHypothesis fun transition member =>
        kept transition (List.mem_append_left _ member)
      have lastKept := kept _ (List.mem_append_right past List.mem_cons_self)
      rw [wireLog_concat, acquisitions_concat]
      unfold Transition.record Transition.acquires?
      cases (Session.effect_of_apply applied).wire run.hasFreshTask with
      | @moved task isTask move others =>
          dsimp only
          rw [isTask]
          refine before.moved (run.wireInvariant fresh) move others ?_
          intro message rest writes leaves
          obtain ⟨result, portion, client', _, _, _, step⟩ :=
            Transition.exists_sendReturns lastKept isTask writes leaves
          rcases Sending.of_writing_finished step with ⟨isWhole, _⟩ | ⟨_, broken, _⟩
          · exact Or.inl isWhole
          · exact Or.inr broken
      | quiet noTask sameUse sameOutlet =>
          dsimp only
          have samePipe : after.client.pipe.isBroken = session.client.pipe.isBroken :=
            congrArg (fun outlet => outlet.pipe.isBroken) sameOutlet
          rw [noTask, funext sameUse, samePipe]
          simpa using before
      | taken count noTask sameUse unbroken outlet =>
          dsimp only
          have samePipe : after.client.pipe.isBroken = session.client.pipe.isBroken :=
            congrArg (fun outlet => outlet.pipe.isBroken) outlet
          rw [noTask, funext sameUse, samePipe]
          simpa using before
      | broken noTask sameUse outlet =>
          dsimp only
          have samePipe : after.client.pipe.isBroken = true :=
            congrArg (fun outlet => outlet.pipe.isBroken) outlet
          rw [noTask, funext sameUse, samePipe]
          simpa using before.broken

end Run

end LanguageClient
