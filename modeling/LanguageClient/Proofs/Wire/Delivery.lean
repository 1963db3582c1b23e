import LanguageClient.Proofs.Wire.Turns

/-!
# Delivery

What the server gets of senders that write at the same time, none of whom gives up in
the middle of a frame: their frames, whole, each once and in the order in which they got
the writer.
-/

namespace LanguageClient

/-! ## Streams without reader and closed streams -/

/-- Nothing is written any more once the reader has gone. -/
private theorem WriterMove.bytes_of_broken
    {task : TaskId} {outlet outlet' : Outlet} {use use' : WriterUse}
    (move : WriterMove task outlet use outlet' use') (broken : outlet.pipe.isBroken = true)
    (log : List Segment) :
    Segment.bytes (Segment.record task use use' log) = Segment.bytes log ∧
      outlet'.pipe.isBroken = true := by
  cases move with
  | rest =>
      rw [Segment.record_rest]
      exact ⟨rfl, broken⟩
  | begin message held isOpen => exact ⟨List.append_nil _, broken⟩
  | put message more rest unbroken nonempty fits =>
      exact absurd (unbroken.symm.trans broken) Bool.false_ne_true
  | leave =>
      rw [Segment.record_apart]
      exact ⟨rfl, broken⟩
  | _ => exact ⟨rfl, broken⟩

/-- A closed stream stays closed, and nobody begins to write. -/
private theorem WriterMove.of_closed
    {task : TaskId} {outlet outlet' : Outlet} {use use' : WriterUse}
    (move : WriterMove task outlet use outlet' use') (closed : outlet.isInputOpen = false)
    (apart : ∀ message rest, use ≠ .writing message rest) (log : List Segment) :
    Segment.record task use use' log = log ∧ use.acquires? use' = none ∧
      outlet'.isInputOpen = false := by
  cases move with
  | rest =>
      rw [Segment.record_rest, WriterUse.acquires?_self]
      exact ⟨rfl, rfl, closed⟩
  | begin message held isOpen => exact absurd (closed.symm.trans isOpen) Bool.false_ne_true
  | put message more rest unbroken nonempty fits => exact absurd rfl (apart message _)
  | leave =>
      rw [Segment.record_apart, WriterUse.acquires?_apart]
      exact ⟨rfl, rfl, closed⟩
  | shut held isOpen => exact absurd (closed.symm.trans isOpen) Bool.false_ne_true
  | _ => exact ⟨rfl, rfl, closed⟩

namespace Run

variable {client : Client} {session after : Session} {past : List Transition} {action : Action}

theorem bytes_of_broken
    (run : Run (Session.connect client) past session)
    (applied : session.apply action = some after)
    (broken : session.client.pipe.isBroken = true) :
    Segment.bytes (wireLog (past ++ [⟨session, action, after⟩])) = Segment.bytes (wireLog past) ∧
      after.client.pipe.isBroken = true := by
  rw [wireLog_concat]
  unfold Transition.record
  cases (Session.effect_of_apply applied).wire run.hasFreshTask with
  | @moved task isTask move others =>
      dsimp only
      rw [isTask]
      exact move.bytes_of_broken broken (wireLog past)
  | quiet noTask sameUse sameOutlet =>
      dsimp only
      rw [noTask]
      exact ⟨rfl, (congrArg (fun outlet => outlet.pipe.isBroken) sameOutlet).trans broken⟩
  | taken count noTask sameUse unbroken outlet =>
      exact absurd (unbroken.symm.trans broken) Bool.false_ne_true
  | broken noTask sameUse outlet =>
      dsimp only
      rw [noTask]
      exact ⟨rfl, congrArg (fun outlet => outlet.pipe.isBroken) outlet⟩

theorem quiet_of_closed
    (run : Run (Session.connect client) past session) (fresh : client.HasFreshOutlet)
    (applied : session.apply action = some after)
    (closed : session.client.isInputOpen = false) :
    wireLog (past ++ [⟨session, action, after⟩]) = wireLog past ∧
      acquisitions (past ++ [⟨session, action, after⟩]) = acquisitions past ∧
        after.client.isInputOpen = false := by
  have noWriter : ∀ task message rest, session.use task ≠ .writing message rest := by
    intro task message rest writes
    exact absurd (closed.symm.trans (run.isInputOpen_of_writing fresh writes)) Bool.false_ne_true
  rw [wireLog_concat, acquisitions_concat]
  unfold Transition.record Transition.acquires?
  cases (Session.effect_of_apply applied).wire run.hasFreshTask with
  | @moved task isTask move others =>
      dsimp only
      obtain ⟨sameLog, nobody, stillClosed⟩ :=
        move.of_closed closed (noWriter task) (wireLog past)
      rw [isTask, Option.bind_some, nobody]
      exact ⟨sameLog, List.append_nil _, stillClosed⟩
  | quiet noTask sameUse sameOutlet =>
      dsimp only
      rw [noTask]
      exact ⟨rfl, List.append_nil _, (congrArg Outlet.isInputOpen sameOutlet).trans closed⟩
  | taken count noTask sameUse unbroken outlet =>
      dsimp only
      rw [noTask]
      exact ⟨rfl, List.append_nil _, (congrArg Outlet.isInputOpen outlet).trans closed⟩
  | broken noTask sameUse outlet =>
      dsimp only
      rw [noTask]
      exact ⟨rfl, List.append_nil _, (congrArg Outlet.isInputOpen outlet).trans closed⟩

/-- A closed stream stays closed, and its log stays as it is. -/
theorem of_closed
    {earlier later : List Transition} {transition : Transition}
    (run : Run (Session.connect client) (earlier ++ transition :: later) session)
    (fresh : client.HasFreshOutlet) (closed : transition.after.client.isInputOpen = false) :
    session.client.isInputOpen = false ∧
      wireLog (earlier ++ transition :: later) = wireLog (earlier ++ [transition]) ∧
        acquisitions (earlier ++ transition :: later) = acquisitions (earlier ++ [transition]) := by
  apply run.from_transition
    (motive := fun past session =>
      session.client.isInputOpen = false ∧ wireLog past = wireLog (earlier ++ [transition]) ∧
        acquisitions past = acquisitions (earlier ++ [transition]))
    ⟨closed, rfl, rfl⟩
  rintro past session action after run applied ⟨wasClosed, sameLog, sameTurns⟩
  obtain ⟨log, turns, stillClosed⟩ := run.quiet_of_closed fresh applied wasClosed
  exact ⟨stillClosed, log.trans sameLog, turns.trans sameTurns⟩

/-! ## Turns -/

/-- Who is in its frame was the last to get the writer. -/
theorem acquisitions_of_writing
    (run : Run (Session.connect client) past session) (fresh : client.HasFreshOutlet)
    {task : TaskId} {message : Outgoing} {rest : List UInt8}
    (writes : session.use task = .writing message rest) :
    ∃ before, acquisitions past = before ++ [(task, message)] := by
  obtain ⟨_, written, older, log, _⟩ :=
    (run.wireInvariant fresh).writing task message rest writes
  refine ⟨(Segment.headings older).reverse, ?_⟩
  rw [← headings_wireLog, log]
  exact List.reverse_cons

/-- Who gets the writer has waited for it with its message, and begins the frame. -/
theorem begins_of_acquires
    (run : Run (Session.connect client) past session)
    (applied : session.apply action = some after) {task : TaskId} {message : Outgoing}
    (acquires : Transition.acquires? ⟨session, action, after⟩ = some (task, message)) :
    session.use task = .waiting message ∧ after.use task = .writing message message.frame ∧
      session.client.writer.isHeldBy task = true ∧ session.client.isInputOpen = true := by
  unfold Transition.acquires? at acquires
  obtain ⟨mover, isTask, mapped⟩ := Option.bind_eq_some_iff.mp acquires
  obtain ⟨message', begins, same⟩ := Option.map_eq_some_iff.mp mapped
  injection same with sameTask sameMessage
  subst sameTask sameMessage
  have effect := (Session.effect_of_apply applied).wire run.hasFreshTask
  have move := (effect.of_task isTask).1
  dsimp only at begins
  generalize session.use mover = use at move begins ⊢
  generalize after.use mover = use' at move begins ⊢
  generalize after.client.outlet = outlet' at move
  cases move with
  | begin message held isOpen =>
      cases begins
      exact ⟨rfl, rfl, held, isOpen⟩
  | rest => rw [WriterUse.acquires?_self] at begins; cases begins
  | leave => rw [WriterUse.acquires?_apart] at begins; cases begins
  | _ => cases begins

/-- Nobody comes to write without getting the writer. -/
theorem nobody_or_acquires
    (run : Run (Session.connect client) past session)
    (applied : session.apply action = some after)
    (nobody : ∀ task message rest, session.use task ≠ .writing message rest) :
    (∀ task message rest, after.use task ≠ .writing message rest) ∨
      ∃ entry, Transition.acquires? ⟨session, action, after⟩ = some entry := by
  unfold Transition.acquires?
  cases (Session.effect_of_apply applied).wire run.hasFreshTask with
  | @moved task isTask move others =>
      dsimp only
      rw [isTask, Option.bind_some]
      have before := nobody task
      have passive (afterwards : ∀ message rest, after.use task ≠ .writing message rest) :
          ∀ other message rest, after.use other ≠ .writing message rest := by
        intro other message rest
        by_cases same : other = task
        · rw [same]
          exact afterwards message rest
        · rw [others other same]
          exact nobody other message rest
      generalize session.use task = use at move before
      generalize after.use task = use' at move passive
      generalize after.client.outlet = outlet' at move
      cases move with
      | begin message held isOpen => exact Or.inr ⟨_, rfl⟩
      | rest => exact Or.inl (passive before)
      | put message more rest unbroken nonempty fits => exact absurd rfl (before message _)
      | _ => exact Or.inl (passive nofun)
  | quiet noTask sameUse sameOutlet => exact Or.inl fun task => sameUse task ▸ nobody task
  | taken count noTask sameUse unbroken outlet =>
      exact Or.inl fun task => sameUse task ▸ nobody task
  | broken noTask sameUse outlet => exact Or.inl fun task => sameUse task ▸ nobody task

/-- Behind the end of a send the next frame is that of a later turn. -/
theorem later_turn
    {earlier later : List Transition} {transition : Transition}
    (run : Run (Session.connect client) (earlier ++ transition :: later) session)
    (fresh : client.HasFreshOutlet) {task : TaskId} {message : Outgoing} {rest : List UInt8}
    (writes : transition.before.use task = .writing message rest)
    (isTask : transition.action.task? = some task)
    (leaves : transition.after.use task = .apart) {other : TaskId} {message' : Outgoing}
    {rest' : List UInt8} (writesLater : session.use other = .writing message' rest') :
    (acquisitions earlier).length < (acquisitions (earlier ++ transition :: later)).length := by
  obtain ⟨runBefore, appliedThen⟩ := run.before_transition
  have nobodyThen : ∀ other message rest, transition.after.use other ≠ .writing message rest := by
    intro other message' rest' writes'
    by_cases same : other = task
    · rw [same, leaves] at writes'
      cases writes'
    · have effect := (Session.effect_of_apply appliedThen).wire runBefore.hasFreshTask
      rw [(effect.of_task isTask).2 other same] at writes'
      exact same ((runBefore.wireInvariant fresh).writing_unique writes writes')
  have kept := run.from_transition
    (motive := fun past session =>
      (acquisitions earlier).length ≤ (acquisitions past).length ∧
        ((∀ task message rest, session.use task ≠ .writing message rest) ∨
          (acquisitions earlier).length < (acquisitions past).length))
    ⟨by rw [acquisitions_concat, List.length_append]; exact Nat.le_add_right _ _,
      Or.inl nobodyThen⟩
    (by
      rintro past session action after run applied ⟨atLeast, nobody | more⟩
      · rw [acquisitions_concat, List.length_append]
        refine ⟨Nat.le_add_right_of_le atLeast, ?_⟩
        rcases run.nobody_or_acquires applied nobody with stillNobody | ⟨entry, acquires⟩
        · exact Or.inl stillNobody
        · rw [acquires]
          exact Or.inr (Nat.lt_succ_of_le atLeast)
      · rw [acquisitions_concat, List.length_append]
        exact ⟨Nat.le_add_right_of_le atLeast, Or.inr (Nat.lt_add_right _ more)⟩)
  rcases kept.2 with nobody | more
  · exact absurd writesLater (nobody other message' rest')
  · exact more

end Run

/-! ## The whole -/

/-- Bytes are the frames of the first turns with a part of the next one, and are read as
just these frames if all frames can be read. -/
structure IsCutAfter
    (count : Nat) (acquired : List (TaskId × Outgoing)) (bytes : List UInt8) : Prop where
  split : ∃ part, bytes = frames (acquired.take count) ++ part ∧
    (acquired[count]? = none → part = []) ∧
      ∀ entry, acquired[count]? = some entry → part <+: entry.2.frame ∧ part ≠ entry.2.frame
  readAll : (∀ entry, entry ∈ acquired → Frame.ReadsBack entry.2.toJson) →
    Frame.readAll ⟨bytes, .open⟩ =
      (acquired.take count).map fun entry => .frame entry.2.toJson

/-- What the server gets in a run, and how the sends of the run come to their ends. -/
structure DeliversInTurn (past : List Transition) (session : Session) : Prop where
  /-- Who begins a frame holds the writer, and the stream is open. -/
  holds : ∀ transition, transition ∈ past → ∀ task message,
    transition.acquires? = some (task, message) →
      transition.before.client.writer.isHeldBy task = true ∧
        transition.before.client.isInputOpen = true
  written : Segment.bytes (wireLog past) <+: frames (acquisitions past)
  received : session.client.pipe.received <+: Segment.bytes (wireLog past)
  /-- While the server reads, nothing is lost on the way to it. -/
  held : session.client.pipe.isBroken = false →
    session.client.pipe.received ++ session.client.pipe.held = Segment.bytes (wireLog past)
  /-- The server reads the frames of the first turns, and a part of the next one. -/
  decoded : ∃ count, IsCutAfter count (acquisitions past) session.client.pipe.received
  /-- The frame of a send that has succeeded is on the stream at the place of its turn. -/
  succeeded : ∀ earlier transition later task frame, past = earlier ++ transition :: later →
    transition.SendReturns task frame (.ok ()) →
      ∃ before message, frame = .writing message [] ∧
        acquisitions earlier = before ++ [(task, message)] ∧
          frames before ++ message.frame <+: Segment.bytes (wireLog past)
  /-- No turn is that of two sends. -/
  once : ∀ earlier transition middle next later task message rest result task' message' rest'
    result', past = earlier ++ transition :: middle ++ next :: later →
      transition.SendReturns task (.writing message rest) result →
        next.SendReturns task' (.writing message' rest') result' →
          (acquisitions earlier).length < (acquisitions (earlier ++ transition :: middle)).length
  /-- A send that has failed did not get to write, or its frame never becomes whole. -/
  failed : ∀ earlier transition later task frame error, past = earlier ++ transition :: later →
    transition.SendReturns task frame (.error error) →
      (∃ message, frame = .queued message ∧ error = .connectionClosed ∧
        transition.acquires? = none) ∨
      ∃ before message rest, frame = .writing message rest ∧
        acquisitions earlier = before ++ [(task, message)] ∧
          (Segment.bytes (wireLog past)).length < (frames before ++ message.frame).length
  /-- The stream is closed between two frames, and is the same from then on. -/
  closed : ∀ earlier transition later, past = earlier ++ transition :: later →
    transition.before.client.isInputOpen = true → transition.after.client.isInputOpen = false →
      (∀ task message rest, transition.before.use task ≠ .writing message rest) ∧
        (transition.before.client.pipe.isBroken = false →
          Segment.bytes (wireLog earlier) = frames (acquisitions earlier)) ∧
        wireLog past = wireLog earlier ∧ acquisitions past = acquisitions earlier
  /-- Whose turn comes when the stream is closed is told so, and at once. -/
  refused : ∀ earlier transition later, past = earlier ++ transition :: later →
    transition.after.client.isInputOpen = false →
      ∀ next, next ∈ later → ∀ task frame result, next.SendReturns task frame result →
        result = .error .connectionClosed
  prompt : session.client.isInputOpen = false → ∀ task, session.client.writer.isHeldBy task = true →
    ∀ message portion, ∃ client, (Sending.queued message).step ⟨task, portion⟩ session.client =
      .finished client (.error .connectionClosed)

namespace Run

variable {client : Client} {session : Session} {past : List Transition}

/-- The frames of a run are the texts of their messages, one after the other. -/
private theorem frames_eq (acquired : List (TaskId × Outgoing)) :
    frames acquired = (acquired.map fun entry => entry.2.toJson).flatMap Frame.encode := by
  rw [List.flatMap_map]
  rfl

/-- The first bytes of frames are cut in one of them or between two. -/
private theorem exists_cut
    {acquired : List (TaskId × Outgoing)} {bytes : List UInt8} (inside : bytes <+: frames acquired) :
    ∃ count, IsCutAfter count acquired bytes := by
  let values := acquired.map fun entry => entry.2.toJson
  have taken : (values.flatMap Frame.encode).take bytes.length = bytes := by
    rw [← frames_eq]
    exact (List.prefix_iff_eq_take.mp inside).symm
  refine ⟨Frame.wholeFrames bytes.length values, ?_, fun readBack => ?_⟩
  · obtain ⟨piece, cut, atBoundary, insideFrame⟩ :=
      Frame.take_flatMap_encode values bytes.length
    rw [taken, ← List.map_take, ← frames_eq] at cut
    refine ⟨piece, cut, fun noNext => ?_, fun entry isNext => ?_⟩
    · by_cases boundary : Frame.IsFrameBoundary values bytes.length
      · exact atBoundary boundary
      · obtain ⟨value, _, isNext, _⟩ := insideFrame boundary
        rw [List.getElem?_map, noNext] at isNext
        cases isNext
    · have nonempty : entry.2.frame ≠ [] := Frame.encode_ne_nil entry.2.toJson
      by_cases boundary : Frame.IsFrameBoundary values bytes.length
      · rw [atBoundary boundary]
        exact ⟨List.nil_prefix, nonempty.symm⟩
      · obtain ⟨value, length, isValue, _, short, rfl⟩ := insideFrame boundary
        rw [List.getElem?_map, isNext] at isValue
        obtain rfl : entry.2.toJson = value := Option.some.inj isValue
        refine ⟨List.take_prefix _ _, fun whole => ?_⟩
        have shorter : (entry.2.frame.take length).length < entry.2.frame.length := by
          rw [List.length_take]
          exact (Nat.min_le_left _ _).trans_lt short
        exact absurd (congrArg List.length whole) (Nat.ne_of_lt shorter)
  · have values : ∀ value, value ∈ values → Frame.ReadsBack value := by
      intro value member
      obtain ⟨entry, isEntry, rfl⟩ := List.mem_map.mp member
      exact readBack entry isEntry
    obtain ⟨tail, readTaken, _, blocked⟩ := Frame.readAll_take values bytes.length .open
    obtain ⟨part, rfl⟩ := blocked nofun
    rw [taken, ← List.map_take, List.map_map] at readTaken
    exact readTaken.trans (List.append_nil _)

/-- A sender that finds the reader gone in the middle of its frame leaves it unfinished. -/
private theorem length_lt_of_unfinished
    (run : Run (Session.connect client) past session) (fresh : client.HasFreshOutlet)
    (kept : ∀ transition, transition ∈ past → transition.abandonsSend = false)
    {task : TaskId} {message : Outgoing} {rest : List UInt8}
    (writes : session.use task = .writing message rest) (unfinished : rest ≠ []) :
    (Segment.bytes (wireLog past)).length < (frames (acquisitions past)).length := by
  cases run.progress fresh kept with
  | idle whole noWriter => exact absurd writes (noWriter task message rest)
  | @busy before writer message' part rest' split bytes frame writes' =>
      obtain rfl := (run.wireInvariant fresh).writing_unique writes writes'
      rw [writes] at writes'
      injection writes' with sameMessage sameRest
      subst sameMessage sameRest
      have some : 0 < rest.length := List.length_pos_iff.mpr unfinished
      rw [split, bytes, frames_concat, frame]
      simp only [List.length_append]
      omega
  | @stuck before later writer message' part rest' broken split bytes frame someLeft others =>
      have some : 0 < rest'.length := List.length_pos_iff.mpr someLeft
      have regrouped : before ++ (writer, message') :: later =
          (before ++ [(writer, message')]) ++ later := by simp
      rw [split, bytes, regrouped, frames_append, frames_concat, frame]
      simp only [List.length_append]
      omega

/-- A sender that has written all of its frame has all frames of the run behind it. -/
private theorem bytes_of_finished
    (run : Run (Session.connect client) past session) (fresh : client.HasFreshOutlet)
    (kept : ∀ transition, transition ∈ past → transition.abandonsSend = false)
    {task : TaskId} {message : Outgoing} (writes : session.use task = .writing message []) :
    Segment.bytes (wireLog past) = frames (acquisitions past) := by
  cases run.progress fresh kept with
  | idle whole noWriter => exact whole
  | @busy before writer message' part rest' split bytes frame writes' =>
      obtain rfl := (run.wireInvariant fresh).writing_unique writes writes'
      rw [writes] at writes'
      injection writes' with sameMessage sameRest
      subst sameMessage sameRest
      rw [split, bytes, frames_concat, frame, List.append_nil]
  | stuck broken split bytes frame someLeft others => exact absurd rfl (others task message [] writes)

/-- The bytes of a stream stay as they are from the time on when the reader has gone. -/
private theorem length_of_broken
    {earlier later : List Transition} {transition : Transition}
    (run : Run (Session.connect client) (earlier ++ transition :: later) session)
    (broken : transition.before.client.pipe.isBroken = true) :
    Segment.bytes (wireLog (earlier ++ transition :: later)) = Segment.bytes (wireLog earlier) := by
  obtain ⟨runBefore, applied⟩ := run.before_transition
  obtain ⟨sameBytes, stillBroken⟩ := runBefore.bytes_of_broken applied broken
  have kept := run.from_transition
    (motive := fun past session => session.client.pipe.isBroken = true ∧
      Segment.bytes (wireLog past) = Segment.bytes (wireLog earlier))
    ⟨stillBroken, sameBytes⟩
    (by
      rintro past session action after run applied ⟨wasBroken, same⟩
      obtain ⟨sameBytes, stillBroken⟩ := run.bytes_of_broken applied wasBroken
      exact ⟨stillBroken, sameBytes.trans same⟩)
  exact kept.2

/-- Who closes the stream does so while nobody is in the middle of a frame. -/
private theorem nobody_of_closes
    (run : Run (Session.connect client) past session) (fresh : client.HasFreshOutlet)
    {after : Session} {action : Action} (applied : session.apply action = some after)
    (wasOpen : session.client.isInputOpen = true) (closed : after.client.isInputOpen = false) :
    (∀ task message rest, session.use task ≠ .writing message rest) ∧
      wireLog (past ++ [⟨session, action, after⟩]) = wireLog past ∧
        acquisitions (past ++ [⟨session, action, after⟩]) = acquisitions past := by
  have noWriter : ∀ task message rest, after.use task ≠ .writing message rest := by
    intro task message rest writes
    exact absurd (closed.symm.trans ((run.step applied).isInputOpen_of_writing fresh writes))
      Bool.false_ne_true
  rw [wireLog_concat, acquisitions_concat]
  unfold Transition.record Transition.acquires?
  cases (Session.effect_of_apply applied).wire run.hasFreshTask with
  | @moved task isTask move others =>
      dsimp only
      rw [isTask, Option.bind_some]
      dsimp only
      have nobodyElse (noWrite : ∀ message rest, session.use task ≠ .writing message rest) :
          ∀ other message rest, session.use other ≠ .writing message rest := by
        intro other message rest
        by_cases same : other = task
        · rw [same]
          exact noWrite message rest
        · rw [← others other same]
          exact noWriter other message rest
      have isOpen : session.client.outlet.isInputOpen = true := wasOpen
      have isClosed : after.client.outlet.isInputOpen = false := closed
      generalize session.use task = use at move nobodyElse ⊢
      generalize after.use task = use' at move ⊢
      generalize after.client.outlet = outlet' at move isClosed
      cases move with
      | shut held _ => exact ⟨nobodyElse nofun, rfl, List.append_nil _⟩
      | _ => exact absurd (isClosed.symm.trans isOpen) Bool.false_ne_true
  | quiet noTask sameUse sameOutlet =>
      have same := congrArg Outlet.isInputOpen sameOutlet
      exact absurd (closed.symm.trans (same.trans wasOpen)) Bool.false_ne_true
  | taken count noTask sameUse unbroken outlet =>
      have same := congrArg Outlet.isInputOpen outlet
      exact absurd (closed.symm.trans (same.trans wasOpen)) Bool.false_ne_true
  | broken noTask sameUse outlet =>
      have same := congrArg Outlet.isInputOpen outlet
      exact absurd (closed.symm.trans (same.trans wasOpen)) Bool.false_ne_true

/-- Senders that write at the same time, none of whom gives up in the middle of a frame,
are served one after the other, and the stream is closed between two of them. -/
theorem delivers
    (run : Run (Session.connect client) past session) (fresh : client.HasFreshOutlet)
    (kept : ∀ transition, transition ∈ past → transition.abandonsSend = false) :
    DeliversInTurn past session := by
  have invariant := run.wireInvariant fresh
  have written := (run.progress fresh kept).isPrefix
  have received : session.client.pipe.received <+: Segment.bytes (wireLog past) :=
    invariant.received
  have keptBefore {earlier later : List Transition} {transition : Transition}
      (split : past = earlier ++ transition :: later) :
      ∀ transition, transition ∈ earlier → transition.abandonsSend = false := by
    intro transition member
    exact kept transition (split ▸ List.mem_append_left _ member)
  constructor
  case holds =>
    intro transition member task message acquires
    obtain ⟨earlier, later, rfl⟩ := List.append_of_mem member
    obtain ⟨runBefore, applied⟩ := run.before_transition
    exact (runBefore.begins_of_acquires applied acquires).2.2
  case written => exact written
  case received => exact received
  case held => exact invariant.held
  case decoded => exact exists_cut (received.trans written)
  case succeeded =>
    rintro earlier transition later task frame rfl ⟨portion, client', advances, uses, _, step⟩
    obtain ⟨runBefore, applied⟩ := run.before_transition
    cases frame with
    | asking message => cases step
    | queued message => cases (Sending.of_queued_finished step).2
    | writing message rest =>
        rcases Sending.of_writing_finished step with ⟨rfl, _⟩ | ⟨_, _, isError⟩
        · obtain ⟨before, turns⟩ := runBefore.acquisitions_of_writing fresh uses
          have bytes := runBefore.bytes_of_finished fresh (keptBefore rfl) uses
          refine ⟨before, message, rfl, turns, ?_⟩
          rw [← frames_concat, ← turns, ← bytes]
          exact bytes_wireLog_prefix earlier (transition :: later)
        · cases isError
  case once =>
    rintro earlier transition middle next later task message rest result task' message' rest'
      result' rfl ⟨portion, client', advances, uses, leaves, _⟩ ⟨_, _, _, usesNext, _, _⟩
    obtain ⟨runBefore, _⟩ := run.before_transition
    have isTask : transition.action.task? = some task := congrArg Action.task? advances
    exact runBefore.later_turn fresh uses isTask leaves usesNext
  case failed =>
    rintro earlier transition later task frame error rfl ⟨portion, client', advances, uses, leaves, step⟩
    obtain ⟨runBefore, applied⟩ := run.before_transition
    cases frame with
    | asking message => cases step
    | queued message =>
        obtain ⟨_, isError⟩ := Sending.of_queued_finished step
        injection isError with isError
        refine Or.inl ⟨message, rfl, isError, ?_⟩
        rw [Transition.acquires?, advances, Action.task?, Option.bind_some, leaves,
          WriterUse.acquires?_apart]
        rfl
    | writing message rest =>
        rcases Sending.of_writing_finished step with ⟨_, isOk⟩ | ⟨unfinished, broken, _⟩
        · cases isOk
        · obtain ⟨before, turns⟩ := runBefore.acquisitions_of_writing fresh uses
          have short := runBefore.length_lt_of_unfinished fresh (keptBefore rfl) uses unfinished
          refine Or.inr ⟨before, message, rest, rfl, turns, ?_⟩
          rw [run.length_of_broken broken, ← frames_concat, ← turns]
          exact short
  case closed =>
    rintro earlier transition later rfl wasOpen closed
    obtain ⟨runBefore, applied⟩ := run.before_transition
    obtain ⟨nobody, sameLog, sameTurns⟩ := runBefore.nobody_of_closes fresh applied wasOpen closed
    obtain ⟨_, log, turns⟩ := run.of_closed fresh closed
    refine ⟨nobody, fun unbroken => ?_, log.trans sameLog, turns.trans sameTurns⟩
    cases runBefore.progress fresh (keptBefore rfl) with
    | idle whole _ => exact whole
    | busy _ _ _ writes => exact absurd writes (nobody _ _ _)
    | stuck broken _ _ _ _ _ => exact absurd (unbroken.symm.trans broken) Bool.false_ne_true
  case refused =>
    rintro earlier transition later rfl closed next member task frame result
      ⟨portion, client', advances, uses, leaves, step⟩
    obtain ⟨middle, rest, rfl⟩ := List.append_of_mem member
    have regrouped : earlier ++ transition :: (middle ++ next :: rest) =
        (earlier ++ transition :: middle) ++ next :: rest := by simp
    rw [regrouped] at run
    obtain ⟨runBefore, _⟩ := run.before_transition
    have closedThen := (runBefore.of_closed fresh closed).1
    cases frame with
    | asking message => cases step
    | queued message => exact (Sending.of_queued_finished step).2
    | writing message rest =>
        have isOpen := runBefore.isInputOpen_of_writing fresh uses
        exact absurd (closedThen.symm.trans isOpen) Bool.false_ne_true
  case prompt =>
    intro closed task held message portion
    refine ⟨session.client.releaseWriter task, ?_⟩
    simp only [Sending.step, held, closed, if_true, Bool.false_eq_true, if_false]

end Run

/-- A client whose pipe holds less than two frames. -/
def Client.tight : Client :=
  connect { processId := 1 } 64 (.directory []) []

/-- Two tasks send at the same time, a third closes the client, and a fourth comes too
late. -/
def crowdedStream : List Action :=
  List.flatten [
    [.start (.notify "first" none), .start (.notify "second" none), .start .close, .advance 0 1,
      .advance 1 1, .advance 0 1, .advance 0 40, .advance 0 40, .advance 0 1, .advance 1 1,
      .advance 1 100, .serverTakes 64, .advance 1 100, .advance 1 1, .serverTakes 100],
    List.replicate 10 (.advance 2 100),
    [.elapse 500, .serverTakes 100],
    List.replicate 13 (.advance 2 100),
    [.start (.notify "third" none), .advance 3 1, .advance 3 1]]

theorem Run.delivers_crowdedStream :
    ∃ past session, Run (Session.connect .tight) past session ∧
      past.map Transition.action = crowdedStream ∧
        (∀ transition, transition ∈ past → transition.abandonsSend = false) ∧
          session.results = [(3, .error .connectionClosed), (2, .ok (.exited none)),
            (1, .ok .nothing), (0, .ok .nothing)] ∧
            DeliversInTurn past session := by
  let start := Session.connect .tight
  have computed :
      (start.run crowdedStream).map Session.results =
          some [(3, .error .connectionClosed), (2, .ok (.exited none)), (1, .ok .nothing),
            (0, .ok .nothing)] ∧
        ∀ transition, transition ∈ start.transitions crowdedStream →
          transition.abandonsSend = false := by
    decide +kernel
  obtain ⟨computed, kept⟩ := computed
  obtain ⟨session, ran, results⟩ := Option.map_eq_some_iff.mp computed
  have run := Run.of_run ran .refl
  rw [List.nil_append] at run
  exact ⟨_, session, run, Session.map_action_transitions ran, kept, results,
    run.delivers (Client.hasFreshOutlet_connect _ _ _ _) kept⟩

end LanguageClient
