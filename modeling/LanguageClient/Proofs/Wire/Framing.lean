import LanguageClient.Proofs.Text.Utf8
import LanguageClient.Proofs.Wire.Log
import LanguageClient.Server.Launch

/-!
# Frames on the stream

The writer keeps the frames of different tasks apart: one frame is begun at a time.
An operation that is given up in the middle of its frame gives the writer back all
the same, and the next frame then follows a part of one.  What the server reads is
a sequence of whole frames up to that place and no further.
-/

namespace LanguageClient

/-! ## Whole frames -/

/-- Bytes are whole frames of a list, one after the other, and then at most the
beginning of one more.  A frame of which nothing was written leaves no trace. -/
inductive Framed : List Segment → List UInt8 → Prop
  | nothing : Framed [] []
  | part {segment : Segment} {bytes : List UInt8} (later : List Segment) :
      bytes <+: segment.written →
      Framed (segment :: later) bytes
  | whole {segment : Segment} {later : List Segment} {bytes : List UInt8} :
      segment.written = segment.message.frame →
      Framed later bytes →
      Framed (segment :: later) (segment.message.frame ++ bytes)
  | unwritten {segment : Segment} {later : List Segment} {bytes : List UInt8} :
      segment.written = [] →
      Framed later bytes →
      Framed (segment :: later) bytes

/-- Of a frame some bytes were written, but not all. -/
def Segment.IsPart (segment : Segment) : Prop :=
  segment.written ≠ [] ∧ segment.written ≠ segment.message.frame

theorem Framed.length_le
    {segments : List Segment} {bytes : List UInt8} (framed : Framed segments bytes)
    {earlier later : List Segment} {segment : Segment}
    (split : segments = earlier ++ segment :: later) (part : segment.IsPart) :
    bytes.length ≤ ((earlier ++ [segment]).flatMap Segment.written).length := by
  induction framed generalizing earlier with
  | nothing => simp at split
  | @part first bytes later inside =>
      have atMost := inside.length_le
      cases earlier with
      | nil =>
          injection split with sameSegment
          subst sameSegment
          simpa using atMost
      | cons head earlier =>
          injection split with sameSegment
          subst sameSegment
          simp only [List.cons_append, List.flatMap_cons, List.length_append]
          omega
  | @whole first later bytes isWhole _ inductionHypothesis =>
      cases earlier with
      | nil =>
          injection split with sameSegment
          subst sameSegment
          exact absurd isWhole part.2
      | cons head earlier =>
          injection split with sameSegment sameLater
          subst sameSegment
          have shorter := inductionHypothesis sameLater
          simp only [List.cons_append, List.flatMap_cons, List.length_append, isWhole] at shorter ⊢
          omega
  | @unwritten first later bytes isEmpty _ inductionHypothesis =>
      cases earlier with
      | nil =>
          injection split with sameSegment
          subst sameSegment
          exact absurd isEmpty part.1
      | cons head earlier =>
          injection split with sameSegment sameLater
          subst sameSegment
          have shorter := inductionHypothesis sameLater
          simpa [isEmpty] using shorter

theorem framed_of_prefix
    {segments : List Segment} {bytes : List UInt8}
    (inside : bytes <+: segments.flatMap Segment.written)
    (atMost : ∀ earlier segment later, segments = earlier ++ segment :: later →
      segment.IsPart →
        bytes.length ≤ ((earlier ++ [segment]).flatMap Segment.written).length) :
    Framed segments bytes := by
  induction segments generalizing bytes with
  | nil =>
      have isEmpty : bytes = [] := by simpa using inside
      exact isEmpty ▸ .nothing
  | cons segment later inductionHypothesis =>
      rw [List.flatMap_cons] at inside
      by_cases short : bytes.length ≤ segment.written.length
      · exact .part later
          (List.prefix_of_prefix_length_le inside (List.prefix_append _ _) short)
      · have behind : segment.written <+: bytes :=
          List.prefix_of_prefix_length_le (List.prefix_append _ _) inside
            (Nat.le_of_lt (Nat.lt_of_not_le short))
        obtain ⟨rest, rfl⟩ := behind
        have insideLater : rest <+: later.flatMap Segment.written :=
          (List.prefix_append_right_inj segment.written).mp inside
        have framedLater : Framed later rest := by
          apply inductionHypothesis insideLater
          intro earlier part later' split isPart
          have whole := atMost (segment :: earlier) part later' (by simp [split]) isPart
          simpa using whole
        by_cases isEmpty : segment.written = []
        · rw [isEmpty, List.nil_append]
          exact .unwritten isEmpty framedLater
        · by_cases isWhole : segment.written = segment.message.frame
          · rw [isWhole]
            exact .whole isWhole framedLater
          · have tooShort := atMost [] segment later rfl ⟨isEmpty, isWhole⟩
            exact absurd (by simpa using tooShort) short

/-- Whoever reads whole frames can take the bytes apart. -/
theorem Framed.exists_messages
    {segments : List Segment} {bytes : List UInt8} (framed : Framed segments bytes)
    (parts : ∀ segment, segment ∈ segments → segment.written <+: segment.message.frame) :
    ∃ messages : List Outgoing, ∃ part : List UInt8,
      bytes = messages.flatMap Outgoing.frame ++ part ∧
        (part = [] ∨ ∃ message : Outgoing, part <+: message.frame) := by
  induction framed with
  | nothing => exact ⟨[], [], rfl, Or.inl rfl⟩
  | @part segment bytes later inside =>
      have insideFrame := inside.trans (parts segment List.mem_cons_self)
      exact ⟨[], bytes, rfl, Or.inr ⟨segment.message, insideFrame⟩⟩
  | @whole segment later bytes _ _ inductionHypothesis =>
      obtain ⟨messages, part, rfl, ending⟩ := inductionHypothesis fun other member =>
        parts other (List.mem_cons_of_mem _ member)
      exact ⟨segment.message :: messages, part, by simp, ending⟩
  | unwritten _ _ inductionHypothesis =>
      exact inductionHypothesis fun other member => parts other (List.mem_cons_of_mem _ member)

theorem Segment.flatMap_written_reverse (log : List Segment) :
    log.reverse.flatMap Segment.written = Segment.bytes log := by
  induction log with
  | nil => rfl
  | cons segment earlier inductionHypothesis =>
      simp [Segment.bytes, inductionHypothesis]

/-! ## Frames that are broken off -/

/-- A task gives the writer back when a part of its frame is written and a part is
not. -/
def Transition.BreaksOff (transition : Transition) : Prop :=
  ∃ task message written rest,
    transition.action.task? = some task ∧
      transition.before.use task = .writing message rest ∧
        message.frame = written ++ rest ∧ written ≠ [] ∧ rest ≠ [] ∧
          transition.after.use task = .apart

/-- What is true of a log behind which nothing was added to a frame of an earlier log. -/
private def IsBehind
    (older : List Segment) (log : List Segment) (use : TaskId → WriterUse) : Prop :=
  ∃ newer, log = newer ++ older ∧
    (newer = [] → ∀ task message rest, use task ≠ .writing message rest)

private theorem isBehind_moved
    {older log : List Segment} {outlet outlet' : Outlet} {use use' : TaskId → WriterUse}
    {task : TaskId} (behind : IsBehind older log use)
    (move : WriterMove task outlet (use task) outlet' (use' task))
    (others : ∀ other, other ≠ task → use' other = use other) :
    IsBehind older (Segment.record task (use task) (use' task) log) use' := by
  obtain ⟨newer, rfl, quiet⟩ := behind
  generalize before : use task = usedBefore at move
  generalize afterwards : use' task = usedAfter at move
  have stillQuiet :
      (∀ message rest, usedAfter ≠ .writing message rest) → newer = [] →
        ∀ other message rest, use' other ≠ .writing message rest := by
    intro noWriter isEmpty other message rest
    by_cases same : other = task
    · rw [same, afterwards]
      exact noWriter message rest
    · rw [others other same]
      exact quiet isEmpty other message rest
  cases move with
  | rest =>
      rw [Segment.record_rest]
      refine ⟨newer, rfl, fun isEmpty => stillQuiet ?_ isEmpty⟩
      rw [← before]
      exact quiet isEmpty task
  | begin message held isOpen => exact ⟨⟨task, message, []⟩ :: newer, rfl, nofun⟩
  | put message more rest unbroken nonempty fits =>
      cases newer with
      | nil => exact absurd before (quiet rfl task message _)
      | cons head newer =>
          rw [Segment.record_put]
          exact ⟨{ head with written := head.written ++ more } :: newer, rfl, nofun⟩
  | ask message => exact ⟨newer, rfl, stillQuiet nofun⟩
  | askToClose => exact ⟨newer, rfl, stillQuiet nofun⟩
  | leave =>
      rw [Segment.record_apart]
      exact ⟨newer, rfl, stillQuiet nofun⟩
  | shut held isOpen => exact ⟨newer, rfl, stillQuiet nofun⟩

namespace Run

variable {client : Client} {session : Session} {past : List Transition}

private theorem isBehind_step
    {older : List Segment} {after : Session} {action : Action}
    (run : Run (Session.connect client) past session)
    (applied : session.apply action = some after)
    (behind : IsBehind older (wireLog past) session.use) :
    IsBehind older (wireLog (past ++ [⟨session, action, after⟩])) after.use := by
  rw [wireLog_concat]
  unfold Transition.record
  cases (Session.effect_of_apply applied).wire run.hasFreshTask with
  | @moved task sameTask move others =>
      rw [sameTask]
      exact isBehind_moved behind move others
  | quiet noTask sameUse sameOutlet =>
      rw [noTask, funext sameUse]
      exact behind
  | taken count noTask sameUse unbroken outlet =>
      rw [noTask, funext sameUse]
      exact behind
  | broken noTask sameUse outlet =>
      rw [noTask, funext sameUse]
      exact behind

/-- A frame that was broken off stays as it is for the rest of the run. -/
theorem wireLog_of_breaksOff
    {earlier later : List Transition} {transition : Transition}
    (run : Run (Session.connect client) (earlier ++ transition :: later) session)
    (fresh : client.HasFreshOutlet) (breaks : transition.BreaksOff) :
    ∃ newer segment older,
      wireLog (earlier ++ transition :: later) = newer ++ segment :: older ∧
        wireLog earlier = segment :: older ∧ segment.IsPart := by
  obtain ⟨task, message, written, rest, sameTask, writes, frame, someWritten, someLeft, leaves⟩ :=
    breaks
  obtain ⟨runBefore, appliedThen⟩ := run.before_transition
  have invariant := runBefore.wireInvariant fresh
  obtain ⟨led, written', older, log, frame'⟩ := invariant.writing task message rest writes
  have sameWritten : written' = written := List.append_cancel_right (frame'.symm.trans frame)
  subst sameWritten
  have logThen : wireLog (earlier ++ [transition]) = wireLog earlier := by
    rw [wireLog_concat]
    simp only [Transition.record, sameTask, leaves, Segment.record_apart]
  have behindThen : IsBehind (wireLog earlier) (wireLog (earlier ++ [transition]))
      transition.after.use := by
    refine ⟨[], by rw [logThen, List.nil_append], fun _ other message' rest' writes' => ?_⟩
    have invariantThen := (runBefore.step appliedThen).wireInvariant fresh
    have ledThen := (invariantThen.writing other message' rest' writes').1
    by_cases same : other = task
    · rw [same, leaves] at writes'
      cases writes'
    · have effect := (Session.effect_of_apply appliedThen).wire runBefore.hasFreshTask
      rw [(effect.of_task sameTask).2 other same] at writes'
      exact same (invariant.writing_unique writes writes')
  have behind : IsBehind (wireLog earlier) (wireLog (earlier ++ transition :: later))
      session.use := by
    apply run.from_transition
      (motive := fun past session => IsBehind (wireLog earlier) (wireLog past) session.use)
      behindThen
    intro past session action after run applied behind
    exact run.isBehind_step applied behind
  obtain ⟨newer, wholeLog, _⟩ := behind
  refine ⟨newer, ⟨task, message, written'⟩, older, by rw [wholeLog, log], log, someWritten, ?_⟩
  intro isWhole
  change written' = message.frame at isWhole
  rw [frame'] at isWhole
  exact someLeft (List.self_eq_append_right.mp isWhole)

end Run

/-- The frames of a log of which only a part is written: the latest may be in work, and
the others are told by the log up to them. -/
private def Accounts
    (isBroken : List Segment → Prop) (log : List Segment) (use : TaskId → WriterUse) : Prop :=
  ∀ newer segment older, log = newer ++ segment :: older → segment.IsPart →
    (newer = [] ∧ ∃ rest, use segment.task = .writing segment.message rest) ∨
      isBroken (segment :: older)

private theorem accounts_moved
    {isBroken : List Segment → Prop} {log : List Segment} {outlet outlet' : Outlet}
    {use use' : TaskId → WriterUse} {task : TaskId}
    (accounts : Accounts isBroken log use) (invariant : WireInvariant log outlet use)
    (move : WriterMove task outlet (use task) outlet' (use' task))
    (others : ∀ other, other ≠ task → use' other = use other)
    (breaks : ∀ message written rest, use task = .writing message rest →
      message.frame = written ++ rest → written ≠ [] → rest ≠ [] → use' task = .apart →
        isBroken log) :
    Accounts isBroken (Segment.record task (use task) (use' task) log) use' := by
  generalize before : use task = usedBefore at move breaks
  generalize afterwards : use' task = usedAfter at move breaks
  have unmoved (noWriter : ∀ message rest, usedBefore ≠ .writing message rest) :
      Accounts isBroken log use' := by
    intro newer segment older split part
    rcases accounts newer segment older split part with ⟨isLatest, rest, writes⟩ | broken
    · have different : segment.task ≠ task := by
        intro same
        rw [same, before] at writes
        exact noWriter segment.message rest writes
      exact Or.inl ⟨isLatest, rest, others segment.task different ▸ writes⟩
    · exact Or.inr broken
  cases move with
  | rest =>
      rw [Segment.record_rest]
      have sameUse : use' = use := by
        funext other
        by_cases same : other = task
        · rw [same, before, afterwards]
        · exact others other same
      exact sameUse ▸ accounts
  | ask message => exact unmoved nofun
  | askToClose => exact unmoved nofun
  | shut held isOpen => exact unmoved nofun
  | begin message held isOpen =>
      intro newer segment older split part
      cases newer with
      | nil =>
          injection split with sameSegment
          subst sameSegment
          exact absurd rfl part.1
      | cons head newer =>
          injection split with _ sameLog
          rcases accounts newer segment older sameLog part with ⟨_, rest, writes⟩ | broken
          · have different : segment.task ≠ task := by
              intro same
              rw [same, before] at writes
              cases writes
            have ledBySegment := (invariant.writing segment.task segment.message rest writes).1
            have ledByTask := invariant.isLedBy (by simp [before]) held
            exact absurd (ledByTask.unique ledBySegment) different
          · exact Or.inr broken
  | put message more rest unbroken nonempty fits =>
      rw [Segment.record_put]
      obtain ⟨_, written, earlier, rfl, frame⟩ := invariant.writing task message _ before
      intro newer segment older split part
      cases newer with
      | nil =>
          injection split with sameSegment
          subst sameSegment
          exact Or.inl ⟨rfl, rest, afterwards⟩
      | cons head newer =>
          injection split with _ sameEarlier
          rcases accounts (⟨task, message, written⟩ :: newer) segment older
            (by simp [sameEarlier]) part with ⟨isLatest, _⟩ | broken
          · cases isLatest
          · exact Or.inr broken
  | leave =>
      rw [Segment.record_apart]
      intro newer segment older split part
      rcases accounts newer segment older split part with ⟨isLatest, rest, writes⟩ | broken
      · by_cases same : segment.task = task
        · rw [same, before] at writes
          obtain ⟨_, written, earlier, log', frame⟩ :=
            invariant.writing task segment.message rest (before.trans writes)
          subst isLatest
          have sameSegment : segment = ⟨task, segment.message, written⟩ :=
            (List.cons.inj (split.symm.trans log')).1
          rw [sameSegment] at part
          have someLeft : rest ≠ [] := by
            rintro rfl
            exact part.2 (by simpa using frame.symm)
          have broken := breaks segment.message written rest writes frame part.1 someLeft rfl
          rw [split] at broken
          exact Or.inr broken
        · exact Or.inl ⟨isLatest, rest, others segment.task same ▸ writes⟩
      · exact Or.inr broken

namespace Run

variable {client : Client} {session : Session} {past : List Transition}

/-- A transition of a run that broke off a frame when the log was a given one. -/
private def BrokeOff (past : List Transition) (log : List Segment) : Prop :=
  ∃ earlier transition later, past = earlier ++ transition :: later ∧
    transition.BreaksOff ∧ wireLog earlier = log

private theorem BrokeOff.concat
    {log : List Segment} (broke : BrokeOff past log) (last : Transition) :
    BrokeOff (past ++ [last]) log := by
  obtain ⟨earlier, transition, later, rfl, breaks, logThen⟩ := broke
  exact ⟨earlier, transition, later ++ [last], by simp, breaks, logThen⟩

private theorem accounts
    (run : Run (Session.connect client) past session) (fresh : client.HasFreshOutlet) :
    Accounts (BrokeOff past) (wireLog past) session.use := by
  induction run with
  | refl =>
      intro newer segment older split part
      simp [wireLog] at split
  | @step past session after action run applied inductionHypothesis =>
      have passedOn : Accounts (BrokeOff (past ++ [⟨session, action, after⟩])) (wireLog past)
          session.use := by
        intro newer segment older split part
        exact (inductionHypothesis newer segment older split part).imp_right
          fun broke => broke.concat _
      have invariant := run.wireInvariant fresh
      rw [wireLog_concat]
      unfold Transition.record
      cases (Session.effect_of_apply applied).wire run.hasFreshTask with
      | quiet noTask sameUse sameOutlet =>
          rw [noTask, funext sameUse]
          exact passedOn
      | taken count noTask sameUse unbroken outlet =>
          rw [noTask, funext sameUse]
          exact passedOn
      | broken noTask sameUse outlet =>
          rw [noTask, funext sameUse]
          exact passedOn
      | @moved task sameTask move others =>
          rw [sameTask]
          apply accounts_moved passedOn invariant move others
          intro message written rest writes frame someWritten someLeft leaves
          exact ⟨past, ⟨session, action, after⟩, [], rfl,
            ⟨task, message, written, rest, sameTask, writes, frame, someWritten, someLeft, leaves⟩,
            rfl⟩

/-- What the server has read is, at every moment, a sequence of whole frames with at most
the beginning of one more behind them, exactly as long as it has read nothing that was
written after a frame was broken off. -/
theorem framed_received_iff
    (run : Run (Session.connect client) past session) (fresh : client.HasFreshOutlet) :
    (∀ segment, segment ∈ wireLog past → segment.written <+: segment.message.frame) ∧
      session.client.pipe.received <+: Segment.bytes (wireLog past) ∧
        (Framed (wireLog past).reverse session.client.pipe.received ↔
          ∀ earlier transition later, past = earlier ++ transition :: later →
            transition.BreaksOff →
              session.client.pipe.received.length ≤
                (Segment.bytes (wireLog earlier)).length) := by
  have invariant := run.wireInvariant fresh
  have received : session.client.pipe.received <+: Segment.bytes (wireLog past) :=
    invariant.received
  refine ⟨invariant.parts, received, ?_, ?_⟩
  · rintro framed earlier transition later rfl breaks
    obtain ⟨newer, segment, older, log, logThen, part⟩ := run.wireLog_of_breaksOff fresh breaks
    have split : (wireLog (earlier ++ transition :: later)).reverse =
        older.reverse ++ segment :: newer.reverse := by
      simp [log]
    have atMost := framed.length_le split part
    rwa [logThen, ← Segment.flatMap_written_reverse, List.reverse_cons]
  · intro nothingBehind
    -- A frame that is not written whole is the latest, or it was broken off at its end.
    apply framed_of_prefix
    · rw [Segment.flatMap_written_reverse]
      exact received
    · intro older segment newer split part
      have log : wireLog past = newer.reverse ++ segment :: older.reverse := by
        simpa using congrArg List.reverse split
      have bytes : (older ++ [segment]).flatMap Segment.written =
          Segment.bytes (segment :: older.reverse) := by
        rw [← Segment.flatMap_written_reverse, List.reverse_cons, List.reverse_reverse]
      rw [bytes]
      rcases run.accounts fresh newer.reverse segment older.reverse log part with
        ⟨isLatest, _⟩ | ⟨earlier, transition, later, pastSplit, breaks, logThen⟩
      · rw [log, isLatest, List.nil_append] at received
        exact received.length_le
      · rw [← logThen]
        exact nothingBehind earlier transition later pastSplit breaks

end Run

/-! ## A frame behind a part of another -/

/-- Every frame begins with the name of its header. -/
theorem Outgoing.exists_frame_eq (message : Outgoing) :
    ∃ rest, message.frame = Text.Utf8.encode "Content-Length: " ++ rest := by
  unfold frame Frame.encode Frame.text
  simp only [Text.Utf8.encode_append, List.append_assoc]
  exact ⟨_, rfl⟩

private theorem head_not_repeated
    {messages : List Outgoing} {part : List UInt8}
    (ending : part = [] ∨ ∃ message : Outgoing, part <+: message.frame) :
    messages.flatMap Outgoing.frame ++ part ≠ [67, 67] := by
  have head : Text.Utf8.encode "Content-Length: " =
      67 :: 111 :: Text.Utf8.encode "ntent-Length: " := by
    decide +kernel
  intro repeated
  cases messages with
  | nil =>
      rcases ending with rfl | ⟨message, inside⟩
      · simp at repeated
      · obtain ⟨rest, frame⟩ := message.exists_frame_eq
        rw [List.flatMap_nil, List.nil_append] at repeated
        rw [frame, head, repeated] at inside
        simp at inside
  | cons message messages =>
      obtain ⟨rest, frame⟩ := message.exists_frame_eq
      simp [frame, head] at repeated

theorem Client.hasFreshOutlet_connect
    (options : ClientOptions) (capacity : Nat) (files : FileTree) (directory : List EntryName) :
    (Client.connect options capacity files directory).HasFreshOutlet :=
  ⟨rfl, rfl, rfl⟩

theorem Client.hasFreshOutlet_launched
    (options : ClientOptions) (surroundings : Surroundings) (executable : Path) :
    (Client.launched options surroundings executable).HasFreshOutlet :=
  ⟨rfl, rfl, rfl⟩

/-- A client whose pipe holds a single byte. -/
def Client.narrow : Client :=
  connect { processId := 1 } 1 (.directory []) []

/-- A notification that is given up when its first byte is written, and another one
behind it. -/
def abandonedNotification : List Action :=
  [.start (.notify "first" none), .advance 0 1, .advance 0 1, .advance 0 1, .abandon 0,
    .serverTakes 1, .start (.notify "second" none), .advance 1 1, .advance 1 1, .advance 1 1,
    .serverTakes 1]

private theorem run_abandonedNotification :
    ∃ past session, Run (Session.connect .narrow) past session ∧
      past.map Transition.action = abandonedNotification ∧
        session.client.pipe.received = [67, 67] := by
  have received :
      ((Session.connect .narrow).run abandonedNotification).map
        (fun session => session.client.pipe.received) = some [67, 67] := by
    decide +kernel
  obtain ⟨session, ran, received⟩ := Option.map_eq_some_iff.mp received
  exact ⟨_, session, Run.of_run ran .refl, Session.map_action_transitions ran, received⟩

theorem Run.framed_received_iff_abandonedNotification :
    ∃ past session, Run (Session.connect .narrow) past session ∧
      past.map Transition.action = abandonedNotification ∧
        (∀ segment, segment ∈ wireLog past → segment.written <+: segment.message.frame) ∧
          session.client.pipe.received <+: Segment.bytes (wireLog past) ∧
            (Framed (wireLog past).reverse session.client.pipe.received ↔
              ∀ earlier transition later, past = earlier ++ transition :: later →
                transition.BreaksOff →
                  session.client.pipe.received.length ≤
                    (Segment.bytes (wireLog earlier)).length) := by
  obtain ⟨past, session, run, actions, _⟩ := run_abandonedNotification
  exact ⟨past, session, run, actions,
    run.framed_received_iff (Client.hasFreshOutlet_connect _ _ _ _)⟩

/-- What the server has read behind the notification that was given up is no sequence of
frames, whosever they were. -/
theorem Run.not_framed_abandonedNotification :
    ∃ past session, Run (Session.connect .narrow) past session ∧
      past.map Transition.action = abandonedNotification ∧
        ¬ Framed (wireLog past).reverse session.client.pipe.received ∧
          ∀ (messages : List Outgoing) (part : List UInt8),
            (part = [] ∨ ∃ message : Outgoing, part <+: message.frame) →
              session.client.pipe.received ≠ messages.flatMap Outgoing.frame ++ part := by
  obtain ⟨past, session, run, actions, received⟩ := run_abandonedNotification
  have noFrames : ∀ (messages : List Outgoing) (part : List UInt8),
      (part = [] ∨ ∃ message : Outgoing, part <+: message.frame) →
        session.client.pipe.received ≠ messages.flatMap Outgoing.frame ++ part := by
    intro messages part ending same
    exact head_not_repeated ending (same.symm.trans received)
  refine ⟨past, session, run, actions, ?_, noFrames⟩
  intro framed
  have invariant := run.wireInvariant (Client.hasFreshOutlet_connect _ _ _ _)
  obtain ⟨messages, part, same, ending⟩ := framed.exists_messages fun segment member =>
    invariant.parts segment (List.mem_reverse.mp member)
  exact noFrames messages part ending same

end LanguageClient
