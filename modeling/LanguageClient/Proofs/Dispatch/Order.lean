import LanguageClient.Proofs.Calls.Refusal
import LanguageClient.Proofs.Dispatch.Reading
import LanguageClient.Proofs.Dispatch.Routing

/-!
# The order of the calls of the read loop

Over a whole run the read loop takes the frames that the server has sent each once and in
their order, and acts on each by the one call that its message leads to.  Nothing that the
server sends ends it but the end of the stream, and behind that nothing is acted on and no
call is sent.
-/

namespace LanguageClient

/-- The call that the read loop makes on the frame that it takes. -/
def Transition.routing? (transition : Transition) : Option Routing :=
  match transition.taken? with
  | some (.frame value) => transition.before.client.handlers.route? value
  | _ => none

namespace Session

variable {session after : Session} {action : Action}

theorem taken?_of_reading (reading : session.loop = .reading) :
    session.taken? = (Frame.read session.inbound).taken? := by
  simp only [taken?, reading]

theorem taken?_of_ended (ended : session.loop ≠ .reading) : session.taken? = none := by
  simp only [taken?]

theorem taken?_of_frame
    {value : Json} {rest : List UInt8} (reading : session.loop = .reading)
    (read : Frame.read session.inbound = .frame value rest) :
    Transition.taken? ⟨session, .read, after⟩ = some (.frame value) := by
  simp only [Transition.taken?, taken?_of_reading reading, read]
  rfl

/-- A frame that the read loop takes is acted on. -/
theorem dispatched_of_entry?
    {value : Json} (entry : session.taken? = some (.frame value)) :
    ∃ rest, Frame.read session.inbound = .frame value rest ∧ session.loop = .reading ∧
      session.readStep = some ((session.passTo rest).dispatch value) := by
  by_cases reading : session.loop = .reading
  · rw [taken?_of_reading reading] at entry
    cases read : Frame.read session.inbound with
    | frame value' rest =>
        rw [read] at entry
        cases entry
        exact ⟨rest, rfl, reading, by simp only [readStep, reading, read, passTo]⟩
    | malformed | fatal | finished | blocked => rw [read] at entry; cases entry
  · rw [taken?_of_ended reading] at entry
    cases entry

/-- The read loop makes no call: no record is kept, no diagnostics are published, no answer
to a request is begun, and no call is answered. -/
structure MakesNoCall (session after : Session) : Prop where
  records : after.records = session.records
  diagnostics : after.client.diagnostics = session.client.diagnostics
  requests : ∀ task id work, after.task? task = some (.answer (.working id work)) →
    session.task? task ≠ none
  answers : ∀ id answer, after.client.calls.mailbox? id = some (.full answer) →
    session.client.calls.mailbox? id = some (.full answer)

private theorem answers_of_callEffect
    (effect : CallEffect session action after)
    (noFrame : ∀ value, Transition.taken? ⟨session, action, after⟩ ≠ some (.frame value))
    {id : Nat} {answer : Answer}
    (full : after.client.calls.mailbox? id = some (.full answer)) :
    session.client.calls.mailbox? id = some (.full answer) := by
  cases effect with
  | moved turn isAction move => exact move.number.full full
  | answered id' answer' isRead response calls sameCalling reading =>
      exfalso
      subst isRead
      unfold response? incoming? at response
      rw [reading] at response
      cases read : Frame.read session.inbound with
      | frame value rest => exact noFrame value (taken?_of_frame reading read)
      | malformed | fatal | finished | blocked => rw [read] at response; cases response
  | closed isRead lost calls =>
      rw [calls, PendingCalls.mailbox?_close] at full
      obtain ⟨mailbox, before, closes⟩ := Option.map_eq_some_iff.mp full
      rw [before]
      cases mailbox with
      | full answer' => exact congrArg some closes
      | empty | closed => cases closes
  | quiet noTask noResponse sameCalls => exact sameCalls ▸ full

private theorem requests_of_effect
    (effect : Effect session action after) (fresh : session.HasFreshTask)
    (noFrame : ∀ value, Transition.taken? ⟨session, action, after⟩ ≠ some (.frame value))
    {task : TaskId} {id : Json} {work : RequestWork}
    (begins : after.task? task = some (.answer (.working id work))) :
    session.task? task ≠ none := by
  intro absent
  cases effect with
  | started command =>
      rw [task?_spawn fresh] at begins
      split at begins
      · cases command <;> cases begins
      · exact nomatch absent.symm.trans begins
  | @advanced stepping portion operation next client found step =>
      rw [task?_setTask] at begins
      split at begins
      · rename_i same
        subst same
        exact nomatch absent.symm.trans found
      · exact nomatch absent.symm.trans begins
  | @ended stepping portion operation client result found step =>
      change (({ session with client } : Session).dropTask stepping).task? task = _ at begins
      rw [task?_dropTask] at begins
      split at begins
      · cases begins
      · exact nomatch absent.symm.trans begins
  | @abandoned giving operation found noAnswer =>
      change (session.dropTask giving).task? task = _ at begins
      rw [task?_dropTask] at begins
      split at begins
      · cases begins
      · exact nomatch absent.symm.trans begins
  | dispatched reading read => exact noFrame _ (taken?_of_frame reading read)
  | _ => exact nomatch absent.symm.trans begins

/-- Without a frame the read loop makes no call, and nobody else does. -/
theorem makesNoCall_of_apply
    (fresh : session.HasFreshTask) (applied : session.apply action = some after)
    (noFrame : ∀ value, Transition.taken? ⟨session, action, after⟩ ≠ some (.frame value)) :
    MakesNoCall session after := by
  have effect := effect_of_apply applied
  suffices same : after.records = session.records ∧
      after.client.diagnostics = session.client.diagnostics from
    ⟨same.1, same.2, fun _ _ _ begins => requests_of_effect effect fresh noFrame begins,
      fun _ _ full => answers_of_callEffect (effect.calls fresh) noFrame full⟩
  have stepFixes (turn : Turn) (operation : Operation) :
      (operation.step turn session.client).Fixes Client.diagnostics session.client :=
    Operation.step_fixes ⟨fun _ _ _ _ => rfl, fun _ _ _ => rfl, fun _ _ => rfl, fun _ _ _ => rfl⟩
      (fun _ _ _ => rfl) fun _ _ _ _ => rfl
  cases effect with
  | @advanced task portion operation next client found step =>
      exact ⟨rfl, (stepFixes _ operation).of_running step⟩
  | @ended task portion operation client result found step =>
      exact ⟨rfl, (stepFixes _ operation).of_finished step⟩
  | @abandoned task operation found noAnswer =>
      have outlet : IgnoresOutlet Client.diagnostics := fun _ _ _ _ => rfl
      exact ⟨rfl, operation.abandon_fixes outlet (fun _ _ => rfl) fun _ _ => rfl⟩
  | dispatched reading read => exact absurd (taken?_of_frame reading read) (noFrame _)
  | _ => exact ⟨rfl, rfl⟩

/-- What the read loop does with the frame that it takes. -/
theorem performs_of_apply
    {value : Json} (applied : session.apply action = some after)
    (entry : Transition.taken? ⟨session, action, after⟩ = some (.frame value)) :
    ∃ rest, Frame.read session.inbound = .frame value rest ∧
      after = (session.client.handlers.route? value).elim (session.passTo rest)
        (session.passTo rest).perform := by
  cases action with
  | read =>
      obtain ⟨rest, read, _, steps⟩ := dispatched_of_entry? entry
      have dispatches : after = (session.passTo rest).dispatch value :=
        Option.some.inj (applied.symm.trans steps)
      exact ⟨rest, read, dispatches.trans (dispatch_eq_perform _ value)⟩
  | _ => cases entry

/-- The records that are kept are those of the call that the read loop makes. -/
theorem records_of_apply
    (fresh : session.HasFreshTask) (applied : session.apply action = some after) :
    after.records =
      ((Transition.routing? ⟨session, action, after⟩).bind Routing.record?).toList ++
        session.records := by
  by_cases frame : ∃ value, Transition.taken? ⟨session, action, after⟩ = some (.frame value)
  · obtain ⟨value, entry⟩ := frame
    obtain ⟨rest, _, performs⟩ := performs_of_apply applied entry
    simp only [Transition.routing?, entry]
    rw [performs]
    cases session.client.handlers.route? value with
    | none => rfl
    | some routing => exact records_perform _ routing
  · have noFrame := not_exists.mp frame
    have noRouting : Transition.routing? ⟨session, action, after⟩ = none := by
      unfold Transition.routing?
      split
      · rename_i value entry
        exact absurd entry (noFrame value)
      · rfl
    rw [noRouting]
    exact (makesNoCall_of_apply fresh applied noFrame).records

/-- What comes of an entry does not depend on the bytes behind it. -/
theorem IsIdle.passTo
    {entry : Frame.Entry} (isIdle : session.IsIdle entry) (rest : List UInt8) :
    (session.passTo rest).IsIdle entry := by
  cases isIdle with
  | malformed error => exact .malformed error
  | meaningless noMessage => exact .meaningless noMessage
  | unmatched tells nobody => exact .unmatched tells nobody
  | unhandled tells nobody => exact .unhandled tells nobody
  | failed tells registered fails => exact .failed tells registered fails

/-- An entry that nothing comes of is passed over. -/
theorem passes_of_isIdle
    {entry : Frame.Entry} {rest : List UInt8} (applied : session.apply action = some after)
    (takes : Transition.taken? ⟨session, action, after⟩ = some entry)
    (goesOn : (Frame.read session.inbound).rest? = some rest)
    (isIdle : session.IsIdle entry) : after = session.passTo rest := by
  cases action with
  | read =>
      by_cases reading : session.loop = .reading
      · have entryEq := (taken?_of_reading reading).symm.trans takes
        cases read : Frame.read session.inbound with
        | frame value rest' =>
            rw [read] at entryEq goesOn
            cases entryEq
            cases goesOn
            have steps : session.readStep = some ((session.passTo rest).dispatch value) := by
              simp only [readStep, reading, read, passTo]
            exact (Option.some.inj (applied.symm.trans steps)).trans
              (dispatch_of_isIdle _ (isIdle.passTo rest))
        | malformed error rest' =>
            rw [read] at goesOn
            cases goesOn
            have steps : session.readStep = some (session.passTo rest) := by
              simp only [readStep, reading, read, passTo]
            exact Option.some.inj (applied.symm.trans steps)
        | fatal | finished | blocked => rw [read] at goesOn; cases goesOn
      · exact nomatch (taken?_of_ended reading).symm.trans takes
  | _ => cases takes

/-- The read loop leaves off reading only at the end of the stream or a fatal error. -/
theorem ends_of_apply
    (applied : session.apply action = some after) (reading : session.loop = .reading)
    (leaves : after.loop ≠ .reading) :
    action = .read ∧
      (session.inbound = ⟨[], .closed⟩ ∧ after.loop = .lost endReason ∨
        ∃ error, Frame.read session.inbound = .fatal error ∧
          after.loop = .lost error.message) := by
  cases inboundMove_of_apply applied with
  | apart _ _ _ sameLoop => exact absurd (sameLoop.mpr reading) leaves
  | grows _ _ _ _ _ stays => exact absurd stays leaves
  | ends _ _ _ _ sameLoop => exact absurd (sameLoop.trans reading) leaves
  | takes _ _ _ _ stays => exact absurd stays leaves
  | loses isAction _ loses _ lost =>
      refine ⟨isAction, ?_⟩
      cases read : Frame.read session.inbound with
      | fatal error =>
          rw [read] at loses
          exact Or.inr ⟨error, rfl, Option.some.inj loses ▸ lost⟩
      | finished =>
          rw [read] at loses
          exact Or.inl ⟨Frame.eq_of_read_finished read, Option.some.inj loses ▸ lost⟩
      | frame | malformed | blocked => rw [read] at loses; cases loses

/-- Behind the end of the stream it stays as it is, and nothing more of it is read. -/
theorem over_of_apply
    (applied : session.apply action = some after) (ended : session.loop ≠ .reading)
    (unopened : session.inbound.ending ≠ .open) :
    after.inbound = session.inbound ∧ after.loop ≠ .reading := by
  cases inboundMove_of_apply applied with
  | apart _ _ inbound sameLoop => exact ⟨inbound, fun stays => ended (sameLoop.mp stays)⟩
  | ends _ _ isOpen => exact absurd isOpen unopened
  | grows _ _ reading | takes _ reading | loses _ reading => exact absurd reading ended

end Session

/-! ## The whole -/

/-- How the read loop of a client acts on what the server sends in a run. -/
structure RoutesInOrder (client : Client) (past : List Transition) (session : Session) : Prop where
  /-- The entries that were read and those still unread are the entries of all that the server
  has written, each once and in order. -/
  entries :
    past.filterMap Transition.taken? ++ session.unread [] session.inbound.ending =
      Frame.readAll ⟨sentBytes past, session.inbound.ending⟩
  /-- A frame is acted on by the one call that it leads to with the handlers of that moment,
  or not at all. -/
  performs : ∀ transition, transition ∈ past → ∀ value,
    transition.taken? = some (.frame value) →
      ∃ rest, Frame.read transition.before.inbound = .frame value rest ∧
        transition.after =
          (transition.before.client.handlers.route? value).elim (transition.before.passTo rest)
            (transition.before.passTo rest).perform
  /-- To which call a frame leads is told by its members and by the handlers. -/
  leads : ∀ (registry : HandlerRegistry) value routing,
    registry.route? value = some routing ↔ registry.Leads value routing
  /-- The handlers of a moment are the latest that were registered before it. -/
  handlers : ∀ earlier transition later, past = earlier ++ transition :: later → ∀ method,
    transition.before.client.handlers.request? method =
        ((earlier.filterMap Transition.registration?).reverse.findSome?
          (Registration.request? method)).or (client.handlers.request? method) ∧
      transition.before.client.handlers.notification? method =
        ((earlier.filterMap Transition.registration?).reverse.findSome?
          (Registration.notification? method)).or (client.handlers.notification? method)
  /-- Where no frame is taken, no call is made. -/
  quiet : ∀ transition, transition ∈ past →
    (∀ value, transition.taken? ≠ some (.frame value)) →
      Session.MakesNoCall transition.before transition.after
  /-- What the handlers have recorded are the calls of the read loop, in order. -/
  records :
    session.records =
      ((past.filterMap Transition.routing?).filterMap Routing.record?).reverse
  /-- Entries that nothing comes of are passed over. -/
  idle : ∀ transition, transition ∈ past → ∀ entry rest, transition.taken? = some entry →
    (Frame.read transition.before.inbound).rest? = some rest →
      transition.before.IsIdle entry → transition.after = transition.before.passTo rest
  /-- The failure of a user's handler makes no difference. -/
  faults : ∀ (session : Session) tag failure params,
    session.perform (.notified (.custom tag failure) params) =
      session.perform (.notified (.custom tag fun _ => none) params)
  /-- The read loop waits for nothing but bytes. -/
  waits : session.apply .read = none →
    session.loop = .finished ∨ session.loop = .reading ∧ Frame.read session.inbound = .blocked
  /-- It leaves off at the end of the stream between two frames or at a fatal error. -/
  ends : ∀ transition, transition ∈ past → transition.before.loop = .reading →
    transition.after.loop ≠ .reading →
      transition.action = .read ∧
        (transition.before.inbound = ⟨[], .closed⟩ ∧
            transition.after.loop = .lost Session.endReason ∨
          ∃ error, Frame.read transition.before.inbound = .fatal error ∧
            transition.after.loop = .lost error.message)
  /-- No error is fatal but the end or the failure of the stream in a frame. -/
  fatal : ∀ (stream : ByteStream) error, Frame.read stream = .fatal error →
    (∃ part, error = .unexpectedEnd part ∧ stream.ending = .closed) ∨
      ∃ message, error = .io message ∧ stream.ending = .failed message
  /-- While the server may still send, the read loop reads. -/
  isOpen : session.inbound.ending = .open → session.loop = .reading
  /-- Behind the end nothing of the stream is taken or acted on any more. -/
  ended : ∀ transition, transition ∈ past → transition.before.loop ≠ .reading →
    transition.after.loop ≠ .reading ∧ transition.taken? = none ∧
      transition.after.inbound = transition.before.inbound ∧
        Session.MakesNoCall transition.before transition.after
  /-- Behind the end the read loop goes on to close the table of calls. -/
  closes : ∀ reason, session.loop = .lost reason →
    ∃ after, session.apply .read = some after ∧ after.loop = .leaving reason ∧
      after.client.calls.isClosed = true
  closed : session.client.calls.isClosed = true ↔
    session.loop ≠ .reading ∧ ∀ reason, session.loop ≠ .lost reason
  /-- Of a call that finds the table closed nothing comes but the refusal. -/
  refuses : ∀ task request portion, session.client.calls.isClosed = true →
    session.calling? task = some (.starting request) →
      ∃ after, session.apply (.advance task portion) = some after ∧
        after.client = session.client ∧
          ((∃ operation limit, session.task? task = some operation ∧
              operation.timed? = some (.waiting limit (.starting request)) ∧
                after.calling? task = some (.starting request)) ∨
            Transition.Returns ⟨session, .advance task portion, after⟩ task (.starting request)
              (.error (Calling.refusal session.client request)))
  /-- Its task has no request on the stream. -/
  unsent : ∀ transition, transition ∈ past →
    transition.after.client.calls.isClosed = true → ∀ task request,
      transition.after.calling? task = some (.starting request) → ∀ message,
        (task, message) ∈ Segment.headings (wireLog past) → message.requestId? = none

namespace Run

variable {client : Client} {session : Session} {past : List Transition}

private theorem records_eq
    (run : Run (Session.connect client) past session) :
    session.records =
      ((past.filterMap Transition.routing?).filterMap Routing.record?).reverse := by
  induction run with
  | refl => rfl
  | @step past session after action run applied inductionHypothesis =>
      rw [Session.records_of_apply run.hasFreshTask applied, inductionHypothesis,
        List.filterMap_append, List.filterMap_append, List.reverse_append]
      congr 1
      cases made : Transition.routing? ⟨session, action, after⟩ with
      | none => simp [made]
      | some routing => cases kept : routing.record? <;> simp [made, kept]

/-- The read loop routes every frame once and in order, in every run of a client. -/
theorem routesInOrder
    (run : Run (Session.connect client) past session) (fresh : client.calls = .empty) :
    RoutesInOrder client past session := by
  have along := run.readsAlong
  have before {transition : Transition} (member : transition ∈ past) :
      ∃ earlier, Run (Session.connect client) earlier transition.before ∧
        transition.before.apply transition.action = some transition.after := by
    obtain ⟨earlier, later, split⟩ := List.append_of_mem member
    exact ⟨earlier, (split ▸ run).before_transition⟩
  have isClosed : session.client.calls.isClosed = true ↔
      session.loop ≠ .reading ∧ ∀ reason, session.loop ≠ .lost reason := by
    rw [← not_exists, ← not_or, ← (run.callInvariant fresh).isOpen, Bool.not_eq_false]
  constructor
  case entries =>
    have whole := along.record [] session.inbound.ending .nothing
    rwa [List.append_nil] at whole
  case performs =>
    intro transition member value entry
    obtain ⟨earlier, runBefore, applied⟩ := before member
    exact Session.performs_of_apply applied entry
  case leads => exact fun registry value routing => registry.route?_eq_some_iff value routing
  case handlers =>
    rintro earlier transition later rfl method
    obtain ⟨runBefore, _⟩ := run.before_transition
    exact ⟨runBefore.request?_eq method, runBefore.notification?_eq method⟩
  case quiet =>
    intro transition member noFrame
    obtain ⟨earlier, runBefore, applied⟩ := before member
    exact Session.makesNoCall_of_apply runBefore.hasFreshTask applied noFrame
  case records => exact run.records_eq
  case idle =>
    intro transition member entry rest takes goesOn isIdle
    obtain ⟨earlier, runBefore, applied⟩ := before member
    exact Session.passes_of_isIdle applied takes goesOn isIdle
  case faults => exact fun session tag failure params => rfl
  case waits => exact Session.blocked_of_readStep
  case ends =>
    intro transition member reading leaves
    obtain ⟨earlier, runBefore, applied⟩ := before member
    exact Session.ends_of_apply applied reading leaves
  case fatal => exact fun stream error => Frame.ending_of_read_fatal
  case isOpen => exact along.isOpen
  case ended =>
    intro transition member ended
    obtain ⟨earlier, runBefore, applied⟩ := before member
    have unopened : transition.before.inbound.ending ≠ .open := fun isOpen =>
      ended (runBefore.readsAlong.isOpen isOpen)
    have noEntry : transition.taken? = none := by
      unfold Transition.taken?
      split
      · exact Session.taken?_of_ended ended
      · rfl
    obtain ⟨inbound, stays⟩ := Session.over_of_apply applied ended unopened
    refine ⟨stays, noEntry, inbound, ?_⟩
    exact Session.makesNoCall_of_apply runBefore.hasFreshTask applied fun value entry =>
      nomatch noEntry.symm.trans entry
  case closes =>
    intro reason lost
    simp only [Session.apply, Session.readStep, lost]
    exact ⟨_, rfl, rfl, rfl⟩
  case closed => exact isClosed
  case refuses =>
    intro task request portion closed calling
    exact Session.refuses closed calling portion
  case unsent =>
    intro transition member closed task request calling message logged
    exact run.unsent_of_refused fresh member closed calling logged

end Run

/-- Between what is no message two notices come, for each of which another handler is
registered, and behind the end of the stream a call. -/
def mixedStream : List Action :=
  [.registerNotification "ping" (.record (.string "first") (some "refused")),
    .serverWrites (Text.Utf8.encode
      "Content-Length: 2\r\n\r\n\x7b:Content-Length: 17\r\n\r\n\x7b\"method\":\"ping\"\x7d"),
    .read, .read, .registerNotification "ping" (.record (.string "second") none),
    .serverWrites (Text.Utf8.encode
      "Content-Length: 31\r\n\r\n\x7b\"method\":\"ping\",\"params\":null\x7d"),
    .read, .serverEnds .closed, .read, .read, .read,
    .start (.call { method := "ask", params := none }), .advance 0 1]

theorem Run.routesInOrder_mixedStream :
    ∃ past session,
      Run (Session.connect (.connect { processId := 1 } 1024 (.directory []) [])) past session ∧
        past.map Transition.action = mixedStream ∧
          session.records = [(.string "second", some .null), (.string "first", none)] ∧
            session.results = [(0, .error .connectionClosed)] ∧
              RoutesInOrder (.connect { processId := 1 } 1024 (.directory []) []) past session := by
  have outcome :
      ((Session.connect (.connect { processId := 1 } 1024 (.directory []) [])).run
        mixedStream).map (fun session => (session.records, session.results)) =
          some ([(.string "second", some .null), (.string "first", none)],
            [(0, .error .connectionClosed)]) := by
    decide +kernel
  obtain ⟨session, ran, outcome⟩ := Option.map_eq_some_iff.mp outcome
  obtain ⟨records, results⟩ := Prod.ext_iff.mp outcome
  have run := Run.of_run ran .refl
  exact ⟨_, session, run, Session.map_action_transitions ran, records, results,
    run.routesInOrder rfl⟩

end LanguageClient
