import LanguageClient.Proofs.Handshake.Account
import LanguageClient.Proofs.Lifecycle.Gate
import LanguageClient.Proofs.Operation.Lifecycle
import LanguageClient.Proofs.Wire.Delivery

/-!
# The order of the messages of the life of a connection

The messages of the handshake come in their order, and so do those that end the connection.
One of the handshake comes behind those only when the session was being opened while the
client began to be closed.
-/

namespace LanguageClient

/-! ## The messages of a run -/

/-- The messages of the life of the connection that are on the stream, in this order. -/
def lifecycleMessages (past : List Transition) : List LifecycleMessage :=
  (wireLog past).reverse.filterMap fun segment => segment.message.lifecycle?

/-- The task that begins to send a message of the life of the connection, and the message. -/
def Transition.lifecycle? (transition : Transition) : Option (TaskId × LifecycleMessage) :=
  transition.acquires?.bind fun entry => entry.2.lifecycle?.map (entry.1, ·)

theorem lifecycleMessages_eq (past : List Transition) :
    lifecycleMessages past =
      past.filterMap fun transition => transition.lifecycle?.map Prod.snd := by
  have turns : lifecycleMessages past =
      (acquisitions past).filterMap fun entry => entry.2.lifecycle? := by
    rw [← headings_wireLog, lifecycleMessages, Segment.headings, ← List.map_reverse,
      List.filterMap_map]
    rfl
  rw [turns, acquisitions, List.filterMap_filterMap]
  congr 1
  funext transition
  unfold Transition.lifecycle?
  cases transition.acquires? with
  | none => rfl
  | some entry => cases message : entry.2.lifecycle? <;> simp [message]

theorem mem_lifecycleMessages {past : List Transition} {sent : LifecycleMessage} :
    sent ∈ lifecycleMessages past ↔
      ∃ transition task, transition ∈ past ∧ transition.lifecycle? = some (task, sent) := by
  rw [lifecycleMessages_eq, List.mem_filterMap]
  constructor
  · rintro ⟨transition, member, isSent⟩
    obtain ⟨⟨task, _⟩, isEntry, rfl⟩ := Option.map_eq_some_iff.mp isSent
    exact ⟨transition, task, member, isEntry⟩
  · rintro ⟨transition, task, member, isSent⟩
    exact ⟨transition, member, by rw [isSent]; rfl⟩

/-- What relates the message of every transition to those of the later ones relates all
messages of a run. -/
theorem pairwise_lifecycleMessages
    {past : List Transition} {related : LifecycleMessage → LifecycleMessage → Prop}
    (relates : ∀ earlier transition later, past = earlier ++ transition :: later →
      ∀ first, first ∈ earlier → ∀ task other sent sent', first.lifecycle? = some (task, sent) →
        transition.lifecycle? = some (other, sent') → related sent sent') :
    (lifecycleMessages past).Pairwise related := by
  induction past using List.reverseRecOn with
  | nil => exact .nil
  | append_singleton past latest inductionHypothesis =>
      have before := inductionHypothesis fun earlier transition later same =>
        relates earlier transition (later ++ [latest]) (by simp [same])
      rw [lifecycleMessages_eq] at before ⊢
      rw [List.filterMap_append, List.pairwise_append]
      refine ⟨before, ?_, ?_⟩
      · simp only [List.filterMap_cons, List.filterMap_nil]
        split
        · exact .nil
        · exact List.pairwise_singleton _ _
      · intro sent isEarlier sent' isLatest
        rw [← lifecycleMessages_eq] at isEarlier
        obtain ⟨first, task, member, isFirst⟩ := mem_lifecycleMessages.mp isEarlier
        obtain ⟨transition, isOne, isSent⟩ := List.mem_filterMap.mp isLatest
        obtain ⟨⟨other, _⟩, isEntry, rfl⟩ := Option.map_eq_some_iff.mp isSent
        obtain rfl := List.mem_singleton.mp isOne
        exact relates past transition [] rfl first member task other sent _ isFirst isEntry

/-- The users of a client send none of these messages by themselves. -/
def LeavesLifecycle (past : List Transition) : Prop :=
  ∀ transition, transition ∈ past → ∀ command, transition.action = .start command →
    command ≠ .shutdown ∧ command ≠ .exit ∧
      ∀ method, command.method? = some method → IsFreeMethod method

theorem LeavesLifecycle.left
    {earlier later : List Transition} (leaves : LeavesLifecycle (earlier ++ later)) :
    LeavesLifecycle earlier :=
  fun transition member => leaves transition (List.mem_append_left later member)

theorem LeavesLifecycle.upTo {earlier later : List Transition} {transition : Transition}
    (leaves : LeavesLifecycle (earlier ++ transition :: later)) :
    LeavesLifecycle (earlier ++ [transition]) := by
  rw [← List.singleton_append, ← List.append_assoc] at leaves
  exact leaves.left

/-! ## Openings that have claimed the client -/

/-- What becomes the opening of a session was it before. -/
theorem Operation.openSession_of_step_running
    {turn : Turn} {client client' : Client} {operation : Operation} {next : Initializing}
    (step : operation.step turn client = .running client' (.openSession next)) :
    ∃ stage, operation = .openSession stage ∧ stage.step turn client = .running client' next := by
  cases operation with
  | openSession stage =>
      obtain ⟨next', inside, same⟩ := Step.map_eq_running_iff.mp step
      cases same
      exact ⟨stage, rfl, inside⟩
  | closeFile path =>
      simp only [Operation.step] at step
      split at step <;> cases step
  | _ =>
      obtain ⟨_, _, same⟩ := Step.map_eq_running_iff.mp step
      cases same

/-- Who leaves the first stage of opening a session takes the client to its handshake. -/
private theorem Initializing.claims_of_starting
    {turn : Turn} {client client' : Client} {workspace : Path} {custom : Option Json.Members}
    {next : Initializing}
    (step : (Initializing.starting workspace custom).step turn client = .running client' next) :
    client.state = .starting ∧ client'.state = .initializing := by
  simp only [Initializing.step] at step
  split at step
  · rename_i isStarting
    cases step
    exact ⟨isStarting, rfl⟩
  · cases step

namespace Run

variable {client : Client} {session after : Session} {past : List Transition} {action : Action}

/-- Who is beyond the first stage of opening a session has claimed the client. -/
theorem mem_claims
    (run : Run (Session.connect client) past session) {task : TaskId} {stage : Initializing}
    (found : session.task? task = some (.openSession stage))
    (beyond : ∀ workspace custom, stage ≠ .starting workspace custom) : task ∈ claims past := by
  induction run generalizing stage with
  | refl => cases found
  | @step past session after action run applied inductionHypothesis =>
      rw [mem_claims_concat]
      have effect := Session.effect_of_apply applied
      generalize isOperation : Operation.openSession stage = operation at found
      cases effect.origin run.hasFreshTask found with
      | kept same => exact Or.inl (inductionHypothesis (isOperation ▸ same) beyond)
      | begun command isAction new =>
          cases command with
          | openSession workspace custom =>
              cases isOperation
              exact absurd rfl (beyond workspace custom)
          | _ => cases isOperation
      | asked id work new => cases isOperation
      | @stepped portion before next client' isAction before' step =>
          subst isOperation
          obtain ⟨stage', rfl, inside⟩ := Operation.openSession_of_step_running step
          cases stage' with
          | starting workspace custom =>
              right
              obtain ⟨isStarting, isInitializing⟩ := Initializing.claims_of_starting inside
              rw [Transition.claim?_eq_some_iff]
              refine ⟨⟨portion, isAction⟩, isStarting, ?_⟩
              subst isAction
              cases effect with
              | advanced found' step' =>
                  obtain rfl := Option.some.inj (before'.symm.trans found')
                  obtain ⟨rfl, _⟩ := Step.running.inj (step'.symm.trans step)
                  exact isInitializing
              | ended found' step' =>
                  obtain rfl := Option.some.inj (before'.symm.trans found')
                  cases step.symm.trans step'
              | handled handlers noTask => cases noTask
          | _ => exact Or.inl (inductionHypothesis before' (by simp))

/-- Whoever has claimed the client has its number. -/
theorem lt_nextTask_of_claims
    (run : Run (Session.connect client) past session) {task : TaskId}
    (isClaimed : task ∈ claims past) : task < session.nextTask := by
  induction run with
  | refl => cases isClaimed
  | @step past session after action run applied inductionHypothesis =>
      have effect := Session.effect_of_apply applied
      rcases mem_claims_concat.mp isClaimed with earlier | isClaim
      · exact (inductionHypothesis earlier).trans_le effect.nextTask_le
      · obtain ⟨⟨portion, rfl⟩, _⟩ := Transition.claim?_eq_some_iff.mp isClaim
        obtain ⟨operation, found⟩ := effect.exists_operation rfl
        exact (run.hasFreshTask.lt found).trans_le effect.nextTask_le

/-- The client was claimed before it began to be closed. -/
theorem mem_claims_of_gate
    {earlier later : List Transition} {gate : Transition}
    (run : Run (Session.connect client) (earlier ++ gate :: later) session)
    (passes : gate.passesGate = true) {task : TaskId}
    (isClaimed : task ∈ claims (earlier ++ gate :: later)) : task ∈ claims earlier := by
  obtain ⟨runBefore, applied⟩ := run.before_transition
  have shut : 4 ≤ gate.after.client.state.rank :=
    (Lifecycle.isClosing_iff_rank _).mp (closes_of_passesGate applied passes).2
  have notLater : task ∉ claims (gate :: later) := by
    intro isLater
    obtain ⟨claim, member, isClaim⟩ := List.mem_filterMap.mp isLater
    have initializing := (Transition.claim?_eq_some_iff.mp isClaim).2.2
    have shutThen : 4 ≤ claim.after.client.state.rank := by
      rcases List.mem_cons.mp member with rfl | isLater
      · exact shut
      · exact run.behind_transition (motive := fun session => 4 ≤ session.client.state.rank) shut
          (rank_kept 4) isLater
    rw [initializing] at shutThen
    exact absurd shutThen (by decide)
  unfold claims at isClaimed notLater ⊢
  rw [List.filterMap_append] at isClaimed
  exact (List.mem_append.mp isClaimed).resolve_right notLater

/-! ## Senders -/

/-- The operations of users leave the messages alone. -/
private theorem sends_of_use
    (run : Run (Session.connect client) past session) (leaves : LeavesLifecycle past)
    {task : TaskId} {operation : Operation} {message : Outgoing} {sent : LifecycleMessage}
    (found : session.task? task = some operation)
    (sends : operation.use.message? = some message) (isSent : message.lifecycle? = some sent) :
    operation.Sends sent := by
  have isProper : session.IsProper IsFreeMethod :=
    run.isProper fun transition member method params isAction =>
      (leaves transition member _ isAction).2.2 method rfl
  have callsAs : operation.CallsAs IsFreeMethod :=
    run.callsAs_of (fun transition member command method isAction =>
      (leaves transition member command isAction).2.2 method) found
  have leavesEnd : operation.LeavesEnd := by
    apply run.operation_holds _ _ _ found
    · intro transition member command isAction
      obtain ⟨noShutdown, noExit, _⟩ := leaves transition member command isAction
      cases command with
      | shutdown => exact absurd rfl noShutdown
      | exit => exact absurd rfl noExit
      | _ => trivial
    · intro id work
      trivial
    · intro turn client operation client' next leavesEnd step
      exact (Operation.step_leavesEnd leavesEnd).of_running step
  exact Operation.sends_of_use (isProper task operation found) callsAs leavesEnd sends isSent

/-- Who begins to send one of the messages is at its stage before and behind that. -/
private theorem sender_of_lifecycle
    (run : Run (Session.connect client) past session)
    (applied : session.apply action = some after)
    (leaves : LeavesLifecycle (past ++ [⟨session, action, after⟩])) {task : TaskId}
    {sent : LifecycleMessage}
    (isSent : Transition.lifecycle? ⟨session, action, after⟩ = some (task, sent)) :
    ∃ operation next, session.task? task = some operation ∧ operation.Sends sent ∧
      operation.phase = sent.phase ∧ after.task? task = some next ∧
        next.phase = sent.phase + 1 := by
  unfold Transition.lifecycle? at isSent
  obtain ⟨⟨mover, message⟩, acquires, isMessage⟩ := Option.bind_eq_some_iff.mp isSent
  obtain ⟨sent', lifecycle, same⟩ := Option.map_eq_some_iff.mp isMessage
  cases same
  obtain ⟨before, afterwards, _⟩ := run.begins_of_acquires applied acquires
  obtain ⟨operation, found, waits⟩ := Session.found_of_view before (by simp)
  obtain ⟨next, found', writes⟩ := Session.found_of_view afterwards (by simp)
  have sends := run.sends_of_use leaves.left found (by rw [waits]; rfl) lifecycle
  have sends' := (run.step applied).sends_of_use leaves found' (by rw [writes]; rfl) lifecycle
  exact ⟨operation, next, found, sends, (sends.phase_eq message []).1 waits, found',
    (sends'.phase_eq message message.frame).2 writes⟩

/-- Messages on one side are sent by one task, which sends them in their order. -/
private theorem phase_lt_of_lifecycle
    {first : Transition} (run : Run (Session.connect client) past session)
    (applied : session.apply action = some after)
    (leaves : LeavesLifecycle (past ++ [⟨session, action, after⟩])) (member : first ∈ past)
    {task other : TaskId} {sent sent' : LifecycleMessage}
    (isFirst : first.lifecycle? = some (task, sent))
    (isSecond : Transition.lifecycle? ⟨session, action, after⟩ = some (other, sent'))
    (sameSide : sent.opens = sent'.opens) : sent.phase < sent'.phase := by
  obtain ⟨operation', _, found', sends', phase', _⟩ :=
    run.sender_of_lifecycle applied leaves isSecond
  obtain ⟨earlier, later, rfl⟩ := List.append_of_mem member
  obtain ⟨runBefore, appliedThen⟩ := run.before_transition
  obtain ⟨operation, next, found, sends, _, foundNext, phaseNext⟩ :=
    runBefore.sender_of_lifecycle appliedThen leaves.left.upTo isFirst
  have sameTask : other = task := by
    cases sends with
    | asksToOpen | tellsOpen =>
        cases sends' with
        | asksToOpen | tellsOpen =>
            have isClaimed := claims_subset earlier (first :: later)
              (runBefore.mem_claims found (by simp))
            have isClaimed' := run.mem_claims found' (by simp)
            have one : (claims (earlier ++ first :: later)).length = 1 :=
              Nat.le_antisymm run.length_claims_le_one (List.length_pos_of_mem isClaimed)
            obtain ⟨claimed, isOnly⟩ := List.length_eq_one_iff.mp one
            rw [isOnly, List.mem_singleton] at isClaimed isClaimed'
            rw [isClaimed, isClaimed']
        | asksToEnd | tellsEnd => cases sameSide
    | asksToEnd | tellsEnd =>
        cases sends' with
        | asksToOpen | tellsOpen => cases sameSide
        | asksToEnd | tellsEnd =>
            have closes : task ∈ closers (earlier ++ first :: later) := by
              unfold closers
              rw [List.filterMap_append]
              exact List.mem_append_left _ (runBefore.mem_closers found (by simp))
            exact run.closer_unique closes (run.mem_closers found' (by simp))
  subst sameTask
  have later := run.phase_le found' member (Or.inr foundNext)
  rw [phaseNext, phase'] at later
  exact later

/-- One of the handshake comes behind one that ends the connection only from an opening that
was under way when the client began to be closed. -/
private theorem underWay_of_lifecycle
    {first : Transition} (run : Run (Session.connect client) past session)
    (applied : session.apply action = some after)
    (leaves : LeavesLifecycle (past ++ [⟨session, action, after⟩])) (member : first ∈ past)
    {task other : TaskId} {sent sent' : LifecycleMessage}
    (isFirst : first.lifecycle? = some (other, sent))
    (isSecond : Transition.lifecycle? ⟨session, action, after⟩ = some (task, sent'))
    (ends : sent.opens = false) (opens : sent'.opens = true) :
    ∃ earlier gate later, past = earlier ++ gate :: later ∧ gate.passesGate = true ∧
      task ∈ claims earlier ∧ ∃ stage, gate.before.task? task = some (.openSession stage) := by
  obtain ⟨operation', _, found', sends', _, _⟩ :=
    run.sender_of_lifecycle applied leaves isSecond
  obtain ⟨front, later, rfl⟩ := List.append_of_mem member
  obtain ⟨runBefore, appliedThen⟩ := run.before_transition
  obtain ⟨operation, _, found, sends, _⟩ :=
    runBefore.sender_of_lifecycle appliedThen leaves.left.upTo isFirst
  have closes : other ∈ closers front := by
    cases sends with
    | asksToOpen | tellsOpen => cases ends
    | asksToEnd | tellsEnd => exact runBefore.mem_closers found (by simp)
  obtain ⟨gate, isGate, passes, _⟩ := mem_closers_iff.mp closes
  obtain ⟨earlier, middle, rfl⟩ := List.append_of_mem isGate
  rw [List.append_assoc, List.cons_append] at run ⊢
  obtain ⟨stage, isOpening, begun⟩ : ∃ stage, operation' = .openSession stage ∧
      ∀ workspace custom, stage ≠ .starting workspace custom := by
    cases sends' with
    | asksToOpen | tellsOpen => exact ⟨_, rfl, by simp⟩
    | asksToEnd | tellsEnd => cases opens
  subst isOpening
  have isClaimed := run.mem_claims_of_gate passes (run.mem_claims found' begun)
  have isOpening : ∃ stage', Operation.openSession stage = .openSession stage' := ⟨stage, rfl⟩
  have stillOpening (turn : Turn) (client : Client) (operation : Operation) (client' : Client)
      (next : Operation) (isOpening : ∃ stage, next = .openSession stage)
      (step : operation.step turn client = .running client' next) :
      ∃ stage, operation = .openSession stage := by
    obtain ⟨stage, rfl⟩ := isOpening
    obtain ⟨stage', rfl, _⟩ := Operation.openSession_of_step_running step
    exact ⟨stage', rfl⟩
  obtain ⟨_, found'', stage', rfl⟩ := run.found_before stillOpening found' isOpening
    (run.before_transition.1.lt_nextTask_of_claims isClaimed)
  exact ⟨earlier, gate, _, rfl, passes, isClaimed, stage', found''⟩

end Run

/-! ## The order -/

/-- How the messages of the life of a connection come. -/
structure KeepsOrder (past : List Transition) (session : Session) : Prop where
  handshake : ((lifecycleMessages past).filter LifecycleMessage.opens).Sublist
    [.initializing, .initialized]
  ending : ((lifecycleMessages past).filter fun message => !message.opens).Sublist
    [.shutdown, .exit]
  /-- They all come in one order if no opening of the session was under way when the client
  began to be closed. -/
  whole : (∀ earlier gate later, past = earlier ++ gate :: later → gate.passesGate = true →
      ∀ task, task ∈ claims earlier → gate.before.task? task = none) →
    (lifecycleMessages past).Sublist [.initializing, .initialized, .shutdown, .exit]
  /-- One of the handshake that comes behind one that ends the connection is sent by an
  opening that was under way when the client began to be closed. -/
  late : ∀ earlier transition later, past = earlier ++ transition :: later →
    ∀ task message, transition.lifecycle? = some (task, message) → message.opens = true →
      (∃ ended, ended ∈ lifecycleMessages earlier ∧ ended.opens = false) →
        ∃ before gate behind, earlier = before ++ gate :: behind ∧ gate.passesGate = true ∧
          task ∈ claims before ∧ ∃ stage, gate.before.task? task = some (.openSession stage)
  /-- What the server has read are bytes of the frames that were begun. -/
  received : session.client.pipe.received <+: Segment.bytes (wireLog past)

namespace Run

variable {client : Client} {session : Session} {past : List Transition}

/-- The messages on one side come in their order. -/
private theorem pairwise_rank_of_opens
    (run : Run (Session.connect client) past session) (leaves : LeavesLifecycle past) :
    (lifecycleMessages past).Pairwise fun sent sent' =>
      sent.opens = sent'.opens → sent.rank < sent'.rank := by
  apply pairwise_lifecycleMessages
  rintro earlier transition later rfl first member task other sent sent' isFirst isSecond sameSide
  obtain ⟨runBefore, applied⟩ := run.before_transition
  exact LifecycleMessage.rank_lt_of_phase sameSide
    (runBefore.phase_lt_of_lifecycle applied leaves.upTo member isFirst isSecond sameSide)

/-- Those on one side are some of all messages on it, in their order. -/
private theorem sublist_of_opens
    (run : Run (Session.connect client) past session) (leaves : LeavesLifecycle past)
    {keeps : LifecycleMessage → Bool}
    (oneSide : ∀ sent sent', keeps sent = true → keeps sent' = true → sent.opens = sent'.opens) :
    ((lifecycleMessages past).filter keeps).Sublist (LifecycleMessage.all.filter keeps) := by
  have ordered : ((lifecycleMessages past).filter keeps).Pairwise
      fun sent sent' => sent.rank < sent'.rank := by
    rw [List.pairwise_filter]
    exact (run.pairwise_rank_of_opens leaves).imp fun inOrder isKept isKept' =>
      inOrder (oneSide _ _ isKept isKept')
  have someOf := (LifecycleMessage.sublist_all ordered).filter keeps
  simp only [List.filter_filter, Bool.and_self] at someOf
  exact someOf

/-- A late message of the handshake is sent by an opening that was under way at the gate. -/
private theorem exists_gate_of_late
    {earlier later : List Transition} {transition : Transition}
    (run : Run (Session.connect client) (earlier ++ transition :: later) session)
    (leaves : LeavesLifecycle (earlier ++ transition :: later)) {task : TaskId}
    {message : LifecycleMessage} (isSent : transition.lifecycle? = some (task, message))
    (opens : message.opens = true)
    (ends : ∃ ended, ended ∈ lifecycleMessages earlier ∧ ended.opens = false) :
    ∃ before gate behind, earlier = before ++ gate :: behind ∧ gate.passesGate = true ∧
      task ∈ claims before ∧ ∃ stage, gate.before.task? task = some (.openSession stage) := by
  obtain ⟨ended, isEnded, ends⟩ := ends
  obtain ⟨first, other, member, isFirst⟩ := mem_lifecycleMessages.mp isEnded
  obtain ⟨runBefore, applied⟩ := run.before_transition
  exact runBefore.underWay_of_lifecycle applied leaves.upTo member isFirst isSent ends opens

/-- The messages of the life of a connection keep their order in every run whose users leave
them alone. -/
theorem keepsOrder
    (run : Run (Session.connect client) past session) (fresh : client.HasFreshOutlet)
    (leaves : LeavesLifecycle past) : KeepsOrder past session := by
  constructor
  case handshake =>
    exact run.sublist_of_opens leaves fun _ _ opens opens' => opens.trans opens'.symm
  case ending =>
    exact run.sublist_of_opens leaves fun _ _ ends ends' =>
      Bool.not_inj (ends.trans ends'.symm)
  case whole =>
    intro quiet
    apply LifecycleMessage.sublist_all
    refine ((run.pairwise_rank_of_opens leaves).and (?_ : (lifecycleMessages past).Pairwise
      fun sent sent' => sent.opens = true ∨ sent'.opens = false)).imp ?_
    · apply pairwise_lifecycleMessages
      rintro earlier transition later rfl first member task other sent sent' isFirst isSecond
      by_contra disordered
      rw [not_or] at disordered
      obtain ⟨ends, opens⟩ := disordered
      obtain ⟨before, gate, behind, rfl, passes, isClaimed, stage, found⟩ :=
        run.exists_gate_of_late leaves isSecond (Bool.eq_true_of_not_eq_false opens)
          ⟨sent, mem_lifecycleMessages.mpr ⟨first, task, member, isFirst⟩,
            Bool.eq_false_of_not_eq_true ends⟩
      have isOver := quiet before gate (behind ++ transition :: later) (by simp)
        passes other isClaimed
      cases isOver.symm.trans found
    · rintro sent sent' ⟨oneSide, sides⟩
      cases opens : sent.opens with
      | true =>
          cases opens' : sent'.opens with
          | true => exact oneSide (opens.trans opens'.symm)
          | false => exact LifecycleMessage.rank_lt_of_opens opens opens'
      | false =>
          have ends' : sent'.opens = false := by simpa [opens] using sides
          exact oneSide (opens.trans ends'.symm)
  case late =>
    rintro earlier transition later rfl task message isSent opens ends
    exact run.exists_gate_of_late leaves isSent opens ends
  case received => exact (run.wireInvariant fresh).received

end Run

/-- A client is closed when its session has begun to be opened and nothing was sent yet. -/
def closedWhileOpening : List Action :=
  [.start (.openSession (.ofString "/") none), .advance 0 1024, .start .close] ++
    List.replicate 11 (.advance 1 1024) ++ List.replicate 13 (.advance 0 1024)

private theorem run_closedWhileOpening :
    ∃ past session,
      Run (Session.connect (.connect { processId := 1 } 1024 (.directory []) [])) past session ∧
        past.map Transition.action = closedWhileOpening ∧ LeavesLifecycle past ∧
          lifecycleMessages past = [.shutdown, .initializing] ∧
            session.client.state = .shuttingDown := by
  let start := Session.connect (.connect { processId := 1 } 1024 (.directory []) [])
  have state : (start.run closedWhileOpening).map (fun session => session.client.state) =
      some .shuttingDown := by
    decide +kernel
  have sent : lifecycleMessages (start.transitions closedWhileOpening) =
      [.shutdown, .initializing] := by
    decide +kernel
  obtain ⟨session, ran, state⟩ := Option.map_eq_some_iff.mp state
  have actions := Session.map_action_transitions ran
  have leaves : LeavesLifecycle (start.transitions closedWhileOpening) := by
    intro transition member command isAction
    have isOne : Action.start command ∈ closedWhileOpening :=
      isAction ▸ actions ▸ List.mem_map_of_mem member
    have either : command = .openSession (.ofString "/") none ∨ command = .close := by
      simpa [closedWhileOpening] using isOne
    rcases either with rfl | rfl
    · exact ⟨by simp, by simp, fun method isMethod => by cases isMethod⟩
    · exact ⟨by simp, by simp, fun method isMethod => by cases isMethod⟩
  exact ⟨_, session, Run.of_run ran .refl, actions, leaves, sent, state⟩

theorem Run.keepsOrder_closedWhileOpening :
    ∃ past session,
      Run (Session.connect (.connect { processId := 1 } 1024 (.directory []) [])) past session ∧
        past.map Transition.action = closedWhileOpening ∧ LeavesLifecycle past ∧
          lifecycleMessages past = [.shutdown, .initializing] ∧ KeepsOrder past session := by
  obtain ⟨past, session, run, actions, leaves, sent, _⟩ := run_closedWhileOpening
  exact ⟨past, session, run, actions, leaves, sent,
    run.keepsOrder (Client.hasFreshOutlet_connect _ _ _ _) leaves⟩

/-- The request to open the session comes behind the request to shut down. -/
theorem Run.not_ordered_closedWhileOpening :
    ∃ past session,
      Run (Session.connect (.connect { processId := 1 } 1024 (.directory []) [])) past session ∧
        past.map Transition.action = closedWhileOpening ∧ LeavesLifecycle past ∧
          session.client.state = .shuttingDown ∧
            ¬ (lifecycleMessages past).Sublist [.initializing, .initialized, .shutdown, .exit] := by
  obtain ⟨past, session, run, actions, leaves, sent, state⟩ := run_closedWhileOpening
  refine ⟨past, session, run, actions, leaves, state, ?_⟩
  rw [sent]
  decide

end LanguageClient
