import LanguageClient.Proofs.Handshake.Builtins
import LanguageClient.Proofs.Replies.Correspondence

/-!
# Opening a session once

Over all that can happen, a client asks for a session once at most and tells the server once
at most that it is open, which it does behind the answer to its request.  Opening the session
has a result if the client was ready, and where it fails the client is out of use.
-/

namespace LanguageClient

/-! ## What was said -/

namespace HandshakeLog

variable {past : List Transition} {opening : SessionOpening} {log : List Segment}

/-- The message that the session is open follows the request, and the answer was read. -/
theorem of_telling
    {latest : Segment} (said : HandshakeLog past opening (latest :: log))
    (tells : latest.message.tellsOpen = true) :
    ∃ id params result, log = [askedFrame opening id params] ∧
      OpenedBy past opening.task id result := by
  generalize logEq : latest :: log = frames at said
  cases said with
  | nothing => cases logEq
  | asking =>
      cases logEq
      cases tells
  | @telling id result params written notices _ opened ordinary =>
      cases notices with
      | nil =>
          cases logEq
          exact ⟨id, params, result, rfl, opened⟩
      | cons notice notices =>
          cases logEq
          exact absurd (Outgoing.isHandshake_of_tellsOpen _ tells)
            (ordinary latest List.mem_cons_self)

private theorem countP_notices
    {kind : Outgoing → Bool} (isHandshake : ∀ message, kind message = true → message.IsHandshake)
    {notices : List Segment}
    (ordinary : ∀ segment, segment ∈ notices → ¬ segment.message.IsHandshake) :
    notices.countP (fun segment => kind segment.message) = 0 :=
  List.countP_eq_zero.mpr fun segment member isSaid =>
    ordinary segment member (isHandshake _ isSaid)

theorem countP_opensSession (said : HandshakeLog past opening log) :
    log.countP (fun segment => segment.message.opensSession) ≤ 1 := by
  cases said with
  | nothing => exact Nat.zero_le 1
  | asking => exact Nat.le_refl 1
  | telling params written _ _ ordinary =>
      rw [List.countP_append, countP_notices Outgoing.isHandshake_of_opensSession ordinary]
      exact Nat.le_refl 1

theorem countP_tellsOpen (said : HandshakeLog past opening log) :
    log.countP (fun segment => segment.message.tellsOpen) ≤ 1 := by
  cases said with
  | nothing => exact Nat.zero_le 1
  | asking => exact Nat.zero_le 1
  | telling params written _ _ ordinary =>
      rw [List.countP_append, countP_notices Outgoing.isHandshake_of_tellsOpen ordinary]
      exact Nat.le_refl 1

end HandshakeLog

namespace OpeningInvariant

variable {past : List Transition} {session : Session}

/-- A message of the handshake is one of the opening that has claimed the client. -/
theorem exists_claimed
    (invariant : OpeningInvariant past session) {segment : Segment}
    (logged : segment ∈ wireLog past) (isHandshake : segment.message.IsHandshake) :
    ∃ opening, opening ∈ sessionOpenings past ∧ opening.task = segment.task ∧
      opening.task ∈ claims past ∧
        HandshakeLog past opening (Segment.ofTask opening.task (wireLog past)) := by
  have own : segment ∈ (TaskTrace.of past session segment.task).segments :=
    TaskTrace.mem_segments.mpr ⟨logged, rfl⟩
  by_cases opens : ∃ opening, opening ∈ sessionOpenings past ∧ opening.task = segment.task
  · obtain ⟨opening, member, sameTask⟩ := opens
    have course := invariant.course opening member
    rw [← sameTask] at own
    generalize traceEq : TaskTrace.of past session opening.task = trace at course own
    have segments : Segment.ofTask opening.task (wireLog past) = trace.segments := traceEq ▸ rfl
    cases course with
    | waiting => cases own
    | turnedAway => cases own
    | claimed isClaimed handshaking _ =>
        exact ⟨opening, member, sameTask, isClaimed, segments ▸ handshaking.said⟩
  · exact absurd isHandshake ((invariant.apart segment.task fun opening member same =>
      opens ⟨opening, member, same⟩).segments segment own)

/-- The request that opens a session is that of an opening which has registered the built-in
handlers. -/
theorem exists_prepared
    (invariant : OpeningInvariant past session) {segment : Segment}
    (logged : segment ∈ wireLog past) (opens : segment.message.opensSession = true) :
    ∃ opening, opening ∈ sessionOpenings past ∧ opening.task = segment.task ∧
      opening.task ∈ claims past ∧ Prepared past opening := by
  obtain ⟨opening, isOpening, sameTask, isClaimed, said⟩ :=
    invariant.exists_claimed logged (Outgoing.isHandshake_of_opensSession _ opens)
  have own := Segment.mem_ofTask.mpr ⟨logged, sameTask.symm⟩
  exact ⟨opening, isOpening, sameTask, isClaimed, said.prepared own⟩

/-- What nobody says twice who opens the session is said once at most. -/
private theorem countP_le_one
    (invariant : OpeningInvariant past session) (claimedOnce : (claims past).length ≤ 1)
    {kind : Outgoing → Bool} (isHandshake : ∀ message, kind message = true → message.IsHandshake)
    (once : ∀ opening log, HandshakeLog past opening log →
      log.countP (fun segment => kind segment.message) ≤ 1) :
    (wireLog past).countP (fun segment => kind segment.message) ≤ 1 := by
  by_cases said : ∃ segment, segment ∈ wireLog past ∧ kind segment.message = true
  · obtain ⟨segment, logged, isSaid⟩ := said
    obtain ⟨opening, _, _, isClaimed, log⟩ :=
      invariant.exists_claimed logged (isHandshake _ isSaid)
    -- All frames of the kind are of the task that has claimed the client.
    have own : ∀ other, other ∈ wireLog past → kind other.message = true →
        other.task = opening.task := by
      intro other logged isSaid
      obtain ⟨opening', _, sameTask, isClaimed', _⟩ :=
        invariant.exists_claimed logged (isHandshake _ isSaid)
      have one : (claims past).length = 1 :=
        Nat.le_antisymm claimedOnce (List.length_pos_of_mem isClaimed)
      obtain ⟨claimed, isOnly⟩ := List.length_eq_one_iff.mp one
      rw [isOnly, List.mem_singleton] at isClaimed isClaimed'
      rw [← sameTask, isClaimed', isClaimed]
    calc (wireLog past).countP (fun segment => kind segment.message)
        = (Segment.ofTask opening.task (wireLog past)).countP
            (fun segment => kind segment.message) := by
          rw [Segment.ofTask, List.countP_filter]
          refine List.countP_congr fun other logged => ?_
          simpa using own other logged
      _ ≤ 1 := once opening _ log
  · have unsaid : (wireLog past).countP (fun segment => kind segment.message) = 0 :=
      List.countP_eq_zero.mpr fun segment logged isSaid => said ⟨segment, logged, isSaid⟩
    rw [unsaid]
    exact Nat.zero_le 1

end OpeningInvariant

namespace Transition

variable {transition : Transition} {task : TaskId} {message : Outgoing}

/-- Who gets the writer is a task, so nothing is read and nothing is begun. -/
private theorem advances_of_acquires (acquires : transition.acquires? = some (task, message)) :
    transition.action.task? ≠ none := by
  intro noTask
  simp [acquires?, noTask] at acquires

theorem opening?_of_acquires (acquires : transition.acquires? = some (task, message)) :
    transition.opening? = none := by
  have advances := advances_of_acquires acquires
  unfold opening?
  split
  · rename_i isAction
    exact absurd (isAction ▸ rfl) advances
  · rfl

theorem response?_of_acquires (acquires : transition.acquires? = some (task, message)) :
    transition.response? = none := by
  have advances := advances_of_acquires acquires
  unfold response?
  split
  · rename_i isAction
    exact absurd (isAction ▸ rfl) advances
  · rfl

end Transition

/-! ## Answers -/

/-- The task of a request that has a handler goes the course of its answer. -/
theorem AnswerInvariant.course_of_handler
    {past : List Transition} {session : Session} (invariant : AnswerInvariant past session)
    {request : ServerRequest} {handler : RequestHandler} (member : request ∈ serverRequests past)
    (handled : request.handler? = some handler) :
    AnswerCourse request.task request.id ((handler.start request.params).behind request.task past)
      (TaskTrace.of past session request.task) := by
  have course := invariant.course request member
  rw [ServerRequest.work, handled, RequestWork.begin] at course
  exact course

/-! ## The whole -/

structure OpensOnce (past : List Transition) (session : Session) : Prop where
  /-- Who begins at the start of the client claims it. -/
  claimed : ∀ transition, transition ∈ past → ∀ task portion workspace custom,
    transition.action = .advance task portion →
      transition.before.task? task = some (.openSession (.starting workspace custom)) →
        (transition.claim? = some task ↔ transition.before.client.state = .starting)
  claims_once : (claims past).length ≤ 1
  asked_once : (wireLog past).countP (fun segment => segment.message.opensSession) ≤ 1
  told_once : (wireLog past).countP (fun segment => segment.message.tellsOpen) ≤ 1
  /-- The request is that of the opening that has claimed the client, which has registered
  the built-in handlers. -/
  asked : ∀ segment, segment ∈ wireLog past → segment.message.opensSession = true →
    ∃ opening, opening ∈ sessionOpenings past ∧ opening.task = segment.task ∧
      opening.task ∈ claims past ∧ Prepared past opening
  /-- Before the message that the session is open begins, the same task has written the whole
  of its request, and the read loop has read a response to it that can be understood. -/
  told : ∀ earlier transition later, past = earlier ++ transition :: later →
    ∀ task message, transition.acquires? = some (task, message) → message.tellsOpen = true →
      ∃ opening id params result, opening ∈ sessionOpenings earlier ∧ opening.task = task ∧
        askedFrame opening id params ∈ wireLog earlier ∧ OpenedBy earlier task id result
  /-- An opening that comes to a result has made the client ready, and the result is what the
  response says. -/
  opened : ∀ opening, opening ∈ sessionOpenings past →
    ∀ value, (opening.task, .ok value) ∈ session.results →
      ∃ id params result, value = .initialized result ∧ OpenedBy past opening.task id result ∧
        MadeReady past opening.task ∧ askedFrame opening id params ∈ wireLog past ∧
          tellingFrame opening Outgoing.initialized.frame ∈ wireLog past
  /-- Once an opening that has claimed the client comes to an error, the client is out of use
  and stays so. -/
  failed : ∀ earlier last later, past = earlier ++ last :: later →
    ∀ opening, opening ∈ sessionOpenings earlier → opening.task ∈ claims earlier →
      ∀ error, (opening.task, .error error) ∈ last.after.results →
        ∀ transition, transition ∈ last :: later →
          (∃ reason, transition.after.client.state = .error reason) ∨
            transition.after.client.state = .shuttingDown ∨
              transition.after.client.state = .closed
  /-- For a workspace without a place that the server can be told nothing is written. -/
  wordless : ∀ opening, opening ∈ sessionOpenings past →
    ∀ error, Client.uriOf opening.workspace = .error error →
      ∀ segment, segment ∈ wireLog past → segment.task ≠ opening.task
  /-- Once the request is on the stream, a request of the server for a built-in method has a
  handler, a built-in one or one that the user has registered since, and its task goes the
  course of the answer that this handler comes to. -/
  answered : ∀ earlier transition later, past = earlier ++ transition :: later →
    ∀ request, transition.asked? = some request →
      request.method ∈ HandlerRegistry.builtinMethods →
        (∃ segment, segment ∈ wireLog earlier ∧ segment.message.opensSession = true) →
          ∃ handler, request.handler? = some handler ∧
            IsHandledSince earlier request.method handler ∧
              AnswerCourse request.task request.id
                ((handler.start request.params).behind request.task past)
                (TaskTrace.of past session request.task)
  /-- What is written for a request that a built-in handler has is its answer, and never that
  there is no handler. -/
  known : ∀ request, request ∈ serverRequests past → ∀ settings handler,
    (request.method, handler) ∈ HandlerRegistry.builtinRequests settings →
      request.handler? = some handler →
        ∀ segment, segment ∈ wireLog past → segment.task = request.task →
          ∃ answer, segment.message = .response request.id answer ∧
            ∀ error, answer = .error error → error.code ≠ -32601
  /-- What the server has read are bytes of these frames. -/
  received : session.client.pipe.received <+: Segment.bytes (wireLog past)

/-- Who opens the session at the start of the client takes it to the handshake. -/
private theorem Session.initializing_of_advance
    {session after : Session} {task : TaskId} {portion : Nat} {workspace : Path}
    {custom : Option Json.Members}
    (found : session.task? task = some (.openSession (.starting workspace custom)))
    (isStarting : session.client.state = .starting)
    (applied : session.apply (.advance task portion) = some after) :
    after.client.state = .initializing := by
  simp only [apply, advance, taskStep, found, Operation.step, Initializing.step, isStarting,
    if_true] at applied
  cases applied
  rfl

namespace Run

variable {client : Client} {session : Session} {past : List Transition}

/-- Who begins to tell that the session is open has asked for it and was answered. -/
private theorem opened_of_acquires
    {earlier later : List Transition} {transition : Transition} {task : TaskId}
    {message : Outgoing}
    (run : Run (Session.connect client) (earlier ++ transition :: later) session)
    (fresh : client.calls = .empty) (freshOutlet : client.HasFreshOutlet)
    (leaves : LeavesHandshake (earlier ++ transition :: later))
    (acquires : transition.acquires? = some (task, message)) (tells : message.tellsOpen = true) :
    ∃ opening id params result, opening ∈ sessionOpenings earlier ∧ opening.task = task ∧
      askedFrame opening id params ∈ wireLog earlier ∧ OpenedBy earlier task id result := by
  obtain ⟨runBefore, applied⟩ := run.before_transition
  have log : wireLog (earlier ++ [transition]) = ⟨task, message, []⟩ :: wireLog earlier :=
    wireLog_of_acquires acquires
  have first : (⟨task, message, []⟩ : Segment) ∈ wireLog (earlier ++ [transition]) :=
    log ▸ List.mem_cons_self
  -- The account behind the transition tells of it, and the answer is older than that.
  obtain ⟨opening, isOpening, sameTask, _, said⟩ :=
    ((runBefore.step applied).openingInvariant fresh freshOutlet leaves.upTo).exists_claimed
      first (Outgoing.isHandshake_of_tellsOpen _ tells)
  change opening.task = task at sameTask
  rw [log, Segment.ofTask_cons, if_pos sameTask.symm] at said
  obtain ⟨id, params, result, own, opened⟩ := said.of_telling tells
  have asked : askedFrame opening id params ∈ Segment.ofTask opening.task (wireLog earlier) :=
    own ▸ List.mem_cons_self
  refine ⟨opening, id, params, result, ?_, sameTask, (Segment.mem_ofTask.mp asked).1, ?_⟩
  · rw [sessionOpenings_concat, Transition.opening?_of_acquires acquires] at isOpening
    simpa using isOpening
  · exact sameTask ▸ opened.of_concat (Transition.response?_of_acquires acquires)

/-- The client opens its session once at most, in every run. -/
theorem opensOnce
    (run : Run (Session.connect client) past session) (fresh : client.calls = .empty)
    (freshOutlet : client.HasFreshOutlet) (leaves : LeavesHandshake past) :
    OpensOnce past session := by
  have invariant := run.openingInvariant fresh freshOutlet leaves
  have answers := run.answerInvariant freshOutlet
  constructor
  case claimed =>
    intro transition member task portion workspace custom isAction found
    obtain ⟨earlier, later, rfl⟩ := List.append_of_mem member
    have applied := run.before_transition.2
    rw [isAction] at applied
    rw [Transition.claim?_eq_some_iff]
    refine ⟨fun isClaim => isClaim.2.1, fun isStarting => ?_⟩
    exact ⟨⟨portion, isAction⟩, isStarting, Session.initializing_of_advance found isStarting applied⟩
  case claims_once => exact run.length_claims_le_one
  case asked_once =>
    exact invariant.countP_le_one run.length_claims_le_one Outgoing.isHandshake_of_opensSession
      fun _ _ said => said.countP_opensSession
  case told_once =>
    exact invariant.countP_le_one run.length_claims_le_one Outgoing.isHandshake_of_tellsOpen
      fun _ _ said => said.countP_tellsOpen
  case asked => exact fun segment logged opens => invariant.exists_prepared logged opens
  case told =>
    rintro earlier transition later rfl task message acquires tells
    exact run.opened_of_acquires fresh freshOutlet leaves acquires tells
  case opened =>
    intro opening isOpening value isResult
    obtain ⟨id, params, result, isValue, opened, made, asked, told⟩ :=
      (invariant.course opening isOpening).exists_opened (Session.mem_resultsOf.mpr isResult)
    exact ⟨id, params, result, isValue, opened, made, (TaskTrace.mem_segments.mp asked).1,
      (TaskTrace.mem_segments.mp told).1⟩
  case failed =>
    rintro earlier last later rfl opening isOpening isClaimed error isResult transition member
    obtain ⟨runBefore, applied⟩ := run.before_transition
    have course := ((runBefore.step applied).openingInvariant fresh freshOutlet leaves.upTo).course
      opening (sessionOpenings_subset _ _ isOpening)
    have reached :=
      course.rank_of_error (claims_subset _ _ isClaimed) (Session.mem_resultsOf.mpr isResult)
    rcases List.mem_cons.mp member with rfl | isLater
    · exact Lifecycle.of_rank reached
    · exact Lifecycle.of_rank (run.behind_transition reached (rank_kept 3) isLater)
  case wordless =>
    intro opening isOpening error noUri segment logged sameTask
    obtain ⟨⟨uri, hasUri⟩, _⟩ := (invariant.course opening isOpening).prepared
      (TaskTrace.mem_segments.mpr ⟨logged, sameTask⟩)
    cases noUri.symm.trans hasUri
  case answered =>
    rintro earlier transition later rfl request asked isBuiltin ⟨segment, logged, opens⟩
    obtain ⟨runBefore, _⟩ := run.before_transition
    obtain ⟨opening, _, _, _, prepared⟩ :=
      (runBefore.openingInvariant fresh freshOutlet leaves.left).exists_prepared logged opens
    obtain ⟨handler, found, isHandled⟩ := runBefore.exists_handler_of_prepared fresh freshOutlet
      leaves.left prepared isBuiltin
    obtain ⟨_, _, _, isHandler, _⟩ := (transition.asked?_eq_some_iff request).mp asked
    have handled : request.handler? = some handler := isHandler.trans found
    have isRequest : request ∈ serverRequests (earlier ++ transition :: later) :=
      List.mem_filterMap.mpr ⟨transition, List.mem_append_right _ List.mem_cons_self, asked⟩
    exact ⟨handler, handled, isHandled, answers.course_of_handler isRequest handled⟩
  case known =>
    intro request isRequest settings handler isBuiltin handled segment logged sameTask
    have known := RequestHandler.isKnown_of_builtin isBuiltin request.params
    have own : segment ∈ (TaskTrace.of past session request.task).segments :=
      TaskTrace.mem_segments.mpr ⟨logged, sameTask⟩
    rcases (answers.course_of_handler isRequest handled).segments_cases with
      nothing | ⟨answer, written, isAnswer, one⟩
    · rw [nothing] at own
      cases own
    · rw [one, List.mem_singleton] at own
      refine ⟨answer, own ▸ rfl, ?_⟩
      rintro error rfl
      exact known.behind request.task past error isAnswer
  case received => exact (run.wireInvariant freshOutlet).received

end Run

/-- While the request to open the session is being written the server asks for the settings,
and a second opening comes too late. -/
def openingUnderWay : List Action :=
  [.start (.openSession (.ofString "/") none), .start (.openSession (.ofString "/") none)] ++
    List.replicate 14 (.advance 0 1) ++
    [.serverWrites (Text.Utf8.encode
      "Content-Length: 43\r\n\r\n\x7b\"id\":7,\"method\":\"workspace/configuration\"\x7d"),
    .read, .advance 1 1]

def RequestHandler.settings? : RequestHandler → Option Json
  | .configuration settings => some settings
  | _ => none

/-- A request whose handler answers from settings has the built-in handler for them. -/
private theorem handlers_of_settings
    {requests : List ServerRequest} {task : TaskId} {settings : Json}
    (answersFrom : requests.map (fun request =>
      (request.task, request.handler?.bind RequestHandler.settings?)) = [(task, some settings)]) :
    requests.map (fun request => (request.task, request.handler?)) =
      [(task, some (.configuration settings))] := by
  obtain ⟨request, _, rfl, isOne, isLast⟩ := List.map_eq_cons_iff.mp answersFrom
  obtain ⟨isTask, hasSettings⟩ := Prod.mk.inj isOne
  obtain ⟨handler, handled, isSettings⟩ := Option.bind_eq_some_iff.mp hasSettings
  rw [List.map_eq_nil_iff.mp isLast, List.map_singleton, isTask, handled]
  cases handler with
  | configuration settings' =>
      cases isSettings
      rfl
  | _ => cases isSettings

theorem Run.opensOnce_openingUnderWay :
    ∃ past session,
      Run (Session.connect (.connect { processId := 1 } 1024 (.directory []) [])) past session ∧
        past.map Transition.action = openingUnderWay ∧
          session.results = [(1, .error (.invalidState .initializing))] ∧
            claims past = [0] ∧
              (wireLog past).map (fun segment => (segment.task, segment.message.method?)) =
                [(0, some "initialize")] ∧
                (serverRequests past).map (fun request => (request.task, request.handler?)) =
                  [(2, some (.configuration .null))] ∧
                  OpensOnce past session := by
  let start := Session.connect (.connect { processId := 1 } 1024 (.directory []) [])
  have results : (start.run openingUnderWay).map (fun session => session.results) =
      some [(1, .error (.invalidState .initializing))] := by
    decide +kernel
  have claimed : claims (start.transitions openingUnderWay) = [0] := by
    decide +kernel
  have begun : (wireLog (start.transitions openingUnderWay)).map
      (fun segment => (segment.task, segment.message.method?)) = [(0, some "initialize")] := by
    decide +kernel
  have asked :=
    @handlers_of_settings (serverRequests (start.transitions openingUnderWay)) 2 .null
      (by decide +kernel)
  obtain ⟨session, ran, results⟩ := Option.map_eq_some_iff.mp results
  have run := Run.of_run ran .refl
  have actions := Session.map_action_transitions ran
  have leaves : LeavesHandshake (start.transitions openingUnderWay) := by
    intro transition member command method isAction isMethod
    have isOne : Action.start command ∈ openingUnderWay :=
      isAction ▸ actions ▸ List.mem_map_of_mem member
    obtain rfl : command = .openSession (.ofString "/") none := by
      simpa [openingUnderWay] using isOne
    cases isMethod
  exact ⟨_, session, run, actions, results, claimed, begun, asked,
    run.opensOnce rfl (Client.hasFreshOutlet_connect _ _ _ _) leaves⟩

end LanguageClient
