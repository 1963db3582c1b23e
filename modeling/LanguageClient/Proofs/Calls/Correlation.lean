import LanguageClient.Proofs.Calls.Numbers
import LanguageClient.Proofs.Calls.Return

/-!
# Requests and responses

Over a whole run requests and responses belong together by their numbers: a call
gets the first response under its number that is read after it has registered, or
no response at all.
-/

namespace LanguageClient

/-! ## Numbers without a call -/

/-- No response can reach a call under a number any more: nobody has registered under it,
the first response has come, or the call has given the number back. -/
def IsSettled (past : List Transition) (id : Nat) : Prop :=
  (∀ transition, transition ∈ past → ∀ task, transition.registered? ≠ some (task, id)) ∨
    (∃ task answer, AnsweredIn past task id answer) ∨
      ∃ before transition later task, past = before ++ transition :: later ∧
        transition.before.callId? task = some id ∧ transition.after.callId? task = none

namespace Session

/-- What the read loop takes in is acted on as the message that it is. -/
theorem dispatch_of_incoming
    {session after : Session} {incoming : Incoming} (takes : session.incoming? = some incoming)
    (applied : session.apply .read = some after) :
    ∃ rest value, Incoming.ofJson? value = some incoming ∧
      after = ({ session with inbound := rest } : Session).dispatch value := by
  unfold incoming? at takes
  split at takes
  · rename_i value rest reading read
    refine ⟨⟨rest, session.inbound.ending⟩, value, takes, ?_⟩
    simp only [apply, readStep, reading, read, Option.some.injEq] at applied
    rw [reading]
    exact applied.symm
  · cases takes

/-- A number that a task has, it had before, or it has registered under it just now. -/
theorem CallEffect.held_before
    {session after : Session} {action : Action} {task : TaskId} {id : Nat}
    (effect : CallEffect session action after) (number : after.callId? task = some id) :
    session.callId? task = some id ∨
      (⟨session, action, after⟩ : Transition).registered? = some (task, id) := by
  have kept (same : after.calling? task = session.calling? task) :
      session.callId? task = some id :=
    (callId?_congr same).symm.trans number
  cases effect with
  | moved turn isAction move others sameLoop =>
      by_cases same : task = turn.task
      · subst same
        have isTask : action.task? = some turn.task := Action.task?_of_turn isAction
        have numberMove := move.number
        change NumberMove _ (session.callId? turn.task) _ (after.callId? turn.task) at numberMove
        simp only [Transition.registered?, isTask]
        rw [number] at numberMove ⊢
        generalize session.callId? turn.task = idBefore at numberMove
        generalize after.client.calls = calls at numberMove
        cases numberMove with
        | rests => exact Or.inl rfl
        | registers registered => exact Or.inr rfl
      · exact Or.inl (kept (others task same))
  | answered id' answer isRead response calls sameCalling => exact Or.inl (kept (sameCalling task))
  | closed isRead lost calls sameCalling => exact Or.inl (kept (sameCalling task))
  | quiet noTask noResponse sameCalls sameCalling =>
      rcases sameCalling task with same | ⟨_, request, starting⟩
      · exact Or.inl (kept same)
      · rw [callId?_of_calling starting] at number
        cases number

end Session

namespace Run

variable {client : Client} {session : Session} {past earlier later : List Transition}
  {transition : Transition}

/-- A number that was given back is nobody's for the rest of the run. -/
theorem callId?_ne_of_givenBack
    {task : TaskId} {id : Nat}
    (run : Run (Session.connect client) (earlier ++ transition :: later) session)
    (fresh : client.calls = .empty) (held : transition.before.callId? task = some id)
    (givenBack : transition.after.callId? task = none) (other : TaskId) :
    session.callId? other ≠ some id := by
  obtain ⟨runBefore, appliedThen⟩ := run.before_transition
  have invariant := runBefore.callInvariant fresh
  have issued : CallRecord.ofPast earlier id ≠ .unissued := by
    intro unissued
    have agrees := invariant.agrees task id held
    rw [unissued] at agrees
    cases agrees
  -- A number that was given out is held by nobody new, and so stays free once it is.
  suffices free : (∀ other, session.callId? other ≠ some id) ∧
      CallRecord.ofPast (earlier ++ transition :: later) id ≠ .unissued from free.1 other
  apply run.from_transition
    (motive := fun past session => (∀ other, session.callId? other ≠ some id) ∧
      CallRecord.ofPast past id ≠ .unissued)
  · constructor
    · intro other number
      have effect := (Session.effect_of_apply appliedThen).calls runBefore.hasFreshTask
      rcases effect.held_before number with heldBefore | registered
      · rw [invariant.number_unique held heldBefore, givenBack] at number
        cases number
      · exact issued (runBefore.unissued_of_registered fresh appliedThen registered)
    · rw [CallRecord.ofPast_concat]
      exact CallRecord.next_ne_unissued issued _ _
  · intro past session action after run applied free
    constructor
    · intro other number
      have effect := (Session.effect_of_apply applied).calls run.hasFreshTask
      rcases effect.held_before number with heldBefore | registered
      · exact free.1 other heldBefore
      · exact free.2 (run.unissued_of_registered fresh applied registered)
    · rw [CallRecord.ofPast_concat]
      exact CallRecord.next_ne_unissued free.2 _ _

/-- No call waits under a settled number. -/
private theorem not_waiting_of_isSettled
    {id : Nat} (run : Run (Session.connect client) past session) (fresh : client.calls = .empty)
    (settled : IsSettled past id) : id ∉ session.client.calls.waiting := by
  intro waits
  obtain ⟨task, number, pending⟩ := (run.callInvariant fresh).waiting id waits
  rcases settled with never | ⟨other, answer, answered⟩ |
      ⟨before, transition, later, other, rfl, held, givenBack⟩
  · have known : (CallRecord.ofPast past id).task? = some task := by
      rw [pending]
      rfl
    obtain ⟨transition, member, registered⟩ := CallRecord.exists_registered known
    exact never transition member task registered
  · exact nomatch pending.symm.trans (run.answered_of_answeredIn fresh answered)
  · exact run.callId?_ne_of_givenBack fresh held givenBack task number

/-- The read loop does not begin to read again. -/
private theorem loop_ne_reading
    (run : Run (Session.connect client) (earlier ++ transition :: later) session)
    (ended : transition.before.loop ≠ .reading) : session.loop ≠ .reading := by
  have stays {session after : Session} {action : Action}
      (effect : Session.CallEffect session action after) (ended : session.loop ≠ .reading) :
      after.loop ≠ .reading := by
    cases effect with
    | moved turn isAction move others sameLoop => exact sameLoop ▸ ended
    | answered id answer isRead response calls sameCalling reading => exact absurd reading ended
    | closed isRead lost calls sameCalling leaving => exact leaving ▸ nofun
    | quiet noTask noResponse sameCalls sameCalling loops =>
        rcases loops with same | ⟨reading, _⟩ | ⟨_, finished⟩
        · exact same ▸ ended
        · exact absurd reading ended
        · exact finished ▸ nofun
  obtain ⟨runBefore, appliedThen⟩ := run.before_transition
  apply run.from_transition (motive := fun _ session => session.loop ≠ .reading)
  · exact stays ((Session.effect_of_apply appliedThen).calls runBefore.hasFreshTask) ended
  · intro past session action after run applied ended
    exact stays ((Session.effect_of_apply applied).calls run.hasFreshTask) ended

private theorem response?_of_ended
    {transition : Transition} (ended : transition.before.loop ≠ .reading) :
    transition.response? = none := by
  unfold Transition.response?
  split
  · unfold Session.response? Session.incoming?
    split
    · rename_i id answer takes
      split at takes
      · rename_i reading read
        exact absurd reading ended
      · cases takes
    · rfl
  · rfl

end Run

/-! ## Correlation -/

/-- How requests, responses and the calls of a run belong together. -/
structure Correlated (past : List Transition) (session : Session) : Prop where
  /-- No two requests on the stream carry the same number. -/
  numbers : (Segment.requestIds (wireLog past)).Nodup
  /-- A request carries the number under which the call of its task has registered. -/
  requests : ∀ task message id, (task, message) ∈ Segment.headings (wireLog past) →
    message.requestId? = some id →
      ∃ transition, transition ∈ past ∧ transition.registered? = some (task, id)
  /-- A call returns a value or a refusal only as the first response to it says. -/
  answers : ∀ earlier transition later task call result,
    past = earlier ++ transition :: later → transition.Returns task call result →
      IsAnswered result →
        ∃ request id answer, call = .waiting request id ∧
          result = Calling.resultOf request answer ∧ AnsweredIn earlier task id answer
  /-- What a user is given for a call is what the call returns, unless its time is over. -/
  results : ∀ transition, transition ∈ past → ∀ task portion operation call result,
    transition.action = .advance task portion →
      transition.before.task? task = some operation →
        (operation = .call call ∨ ∃ deadline, operation = .timedCall (.underway deadline call)) →
          transition.after.results = (task, result) :: transition.before.results →
            (∃ returned, transition.Returns task call returned ∧ result = returned.map .json) ∨
              ∃ method, result = .error (.timedOut method)
  /-- No two calls return under one number. -/
  once : ∀ earlier first between second later task task' call call' result result' id,
    past = earlier ++ first :: between ++ second :: later →
      first.Returns task call result → call.id? = some id →
        second.Returns task' call' result' → call'.id? ≠ some id
  /-- A response that has no number or a settled one changes no call. -/
  settled : ∀ earlier transition later json answer,
    past = earlier ++ transition :: later → transition.action = .read →
      transition.before.incoming? = some (.response json answer) →
        (∀ id, json.nat? = some id → IsSettled earlier id) →
          transition.after.client = transition.before.client ∧
            transition.after.tasks = transition.before.tasks
  /-- A request of the server changes no call, whatever its identifier. -/
  requested : ∀ transition, transition ∈ past → ∀ json method params,
    transition.action = .read →
      transition.before.incoming? = some (.request json method params) →
        transition.after.client = transition.before.client ∧
          ∃ entry, transition.after.tasks = transition.before.tasks ++ [entry]
  /-- A call that waits returns with the first response to it, also behind the end of the
  stream. -/
  delivered : ∀ task request id answer portion,
    session.calling? task = some (.waiting request id) → AnsweredIn past task id answer →
      ∃ after, session.apply (.advance task portion) = some after ∧
        Transition.Returns ⟨session, .advance task portion, after⟩ task (.waiting request id)
          (Calling.resultOf request answer)
  /-- A call that was not answered when the read loop ended never returns an answer. -/
  unanswered : ∀ earlier ended later task id,
    past = earlier ++ ended :: later → ended.before.loop ≠ .reading →
      (∀ answer, ¬ AnsweredIn earlier task id answer) →
        ∀ transition, transition ∈ ended :: later → ∀ call result,
          transition.Returns task call result → call.id? = some id → ¬ IsAnswered result
  /-- Once the read loop has closed the table, a call that waits and was not answered
  returns that the connection is closed. -/
  cutOff : ∀ task request id portion, session.loop ≠ .reading →
    (∀ reason, session.loop ≠ .lost reason) →
      session.calling? task = some (.waiting request id) →
        (∀ answer, ¬ AnsweredIn past task id answer) →
          ∃ after, session.apply (.advance task portion) = some after ∧
            Transition.Returns ⟨session, .advance task portion, after⟩ task
              (.waiting request id) (.error .connectionClosed)
  /-- Behind the end of the stream the read loop goes on to close the table. -/
  closing : ∀ reason, session.loop = .lost reason →
    ∃ after, session.apply .read = some after ∧ after.loop = .leaving reason

namespace Run

variable {client : Client} {session : Session} {past earlier later : List Transition}
  {transition : Transition}

/-- A call that returns an answer has the first response to it. -/
private theorem answeredIn_of_returns
    {task : TaskId} {call : Calling} {result : Except ClientError Json}
    (run : Run (Session.connect client) (earlier ++ transition :: later) session)
    (fresh : client.calls = .empty) (returns : transition.Returns task call result)
    (answered : IsAnswered result) :
    ∃ request id answer, call = .waiting request id ∧
      result = Calling.resultOf request answer ∧ AnsweredIn earlier task id answer := by
  obtain ⟨runBefore, _⟩ := run.before_transition
  obtain ⟨portion, client', _, calling, step, _⟩ := returns
  obtain ⟨request, id, answer, rfl, full, same⟩ := Calling.mailbox_of_answered step answered
  have number : transition.before.callId? task = some id := Session.callId?_of_calling calling
  exact ⟨request, id, answer, rfl, same, runBefore.answeredIn_of_full fresh number full⟩

private theorem answered_before_end
    {ended : Transition} {middle : List Transition} {task : TaskId} {id : Nat} {answer : Answer}
    (run : Run (Session.connect client) (earlier ++ ended :: middle) session)
    (fresh : client.calls = .empty) (isEnd : ended.before.loop ≠ .reading)
    (answered : AnsweredIn (earlier ++ ended :: middle) task id answer) :
    AnsweredIn earlier task id answer := by
  apply CallRecord.answeredIn_of_answered
  apply CallRecord.answered_of_append _ (run.answered_of_answeredIn fresh answered)
  intro transition member
  apply response?_of_ended
  rcases List.mem_cons.mp member with rfl | inside
  · exact isEnd
  · obtain ⟨before, after, rfl⟩ := List.append_of_mem inside
    have run' : Run (Session.connect client)
        ((earlier ++ ended :: before) ++ transition :: after) session := by
      simpa using run
    exact run'.before_transition.1.loop_ne_reading isEnd

/-- Requests, responses and calls belong together in every run of a client. -/
theorem correlated
    (run : Run (Session.connect client) past session) (fresh : client.calls = .empty) :
    Correlated past session := by
  have requests := run.requestInvariant fresh
  have calls := run.callInvariant fresh
  have isProper : session.IsProper fun _ => True := run.isProper fun _ _ _ _ _ => True.intro
  have number {task : TaskId} {request : CallRequest} {id : Nat}
      (calling : session.calling? task = some (.waiting request id)) :
      session.callId? task = some id :=
    Session.callId?_of_calling calling
  constructor
  case numbers => exact requests.nodup
  case requests => exact requests.owned
  case answers =>
    rintro earlier transition later task call result rfl returns answered
    exact run.answeredIn_of_returns fresh returns answered
  case results =>
    intro transition member task portion operation call result advances found isCall results
    obtain ⟨earlier, later, rfl⟩ := List.append_of_mem member
    exact Transition.returns_of_results run.before_transition.2 advances found isCall results
  case once =>
    rintro earlier first between second later task task' call call' result result' id rfl
      ⟨portion, client', _, calling, _, ended⟩ isNumber ⟨portion', client'', _, calling', _, _⟩
      isNumber'
    have held : first.before.callId? task = some id :=
      (Session.callId?_of_calling calling).trans isNumber
    have held' : second.before.callId? task' = some id :=
      (Session.callId?_of_calling calling').trans isNumber'
    have givenBack : first.after.callId? task = none := by
      simp [Session.callId?, ended]
    exact run.before_transition.1.callId?_ne_of_givenBack fresh held givenBack task' held'
  case settled =>
    rintro earlier transition later json answer rfl isRead takes allSettled
    obtain ⟨runBefore, applied⟩ := run.before_transition
    rw [isRead] at applied
    obtain ⟨rest, value, classified, after⟩ := Session.dispatch_of_incoming takes applied
    rw [after]
    simp only [Session.dispatch, classified, Session.deliver]
    cases isNumber : json.nat? with
    | none => exact ⟨rfl, rfl⟩
    | some id =>
        have notWaiting :=
          runBefore.not_waiting_of_isSettled fresh (allSettled id isNumber)
        dsimp only
        rw [PendingCalls.complete_of_not_waiting _ notWaiting]
        exact ⟨rfl, rfl⟩
  case requested =>
    intro transition member json method params isRead takes
    obtain ⟨earlier, later, rfl⟩ := List.append_of_mem member
    obtain ⟨runBefore, applied⟩ := run.before_transition
    rw [isRead] at applied
    obtain ⟨rest, value, classified, after⟩ := Session.dispatch_of_incoming takes applied
    rw [after]
    simp only [Session.dispatch, classified, Session.handleRequest]
    exact ⟨rfl, _, rfl⟩
  case delivered =>
    intro task request id answer portion calling answeredIn
    have agrees := calls.agrees task id (number calling)
    rw [run.answered_of_answeredIn fresh answeredIn] at agrees
    cases agrees with
    | answered _ full =>
        exact Session.returns_of_finished isProper calling (Calling.step_of_full full _)
  case unanswered =>
    -- The answer that a call returns was read before the end, since nothing is read behind it.
    rintro earlier ended later task id rfl isEnd never transition member call result returns
      isNumber answered
    obtain ⟨middle, rest, split⟩ := List.append_of_mem member
    have run' : Run (Session.connect client) ((earlier ++ middle) ++ transition :: rest)
        session := by
      rw [List.append_assoc, ← split]
      exact run
    obtain ⟨request, id', answer, rfl, _, answeredIn⟩ :=
      run'.answeredIn_of_returns fresh returns answered
    injection isNumber with sameNumber
    subst sameNumber
    apply never answer
    cases middle with
    | nil => simpa using answeredIn
    | cons head middle =>
        injection split with sameHead
        subst sameHead
        exact run'.before_transition.1.answered_before_end fresh isEnd answeredIn
  case cutOff =>
    intro task request id portion notReading notLost calling never
    have agrees := calls.agrees task id (number calling)
    have isClosed : session.client.calls.isClosed ≠ false := by
      rw [ne_eq, calls.isOpen, not_or]
      exact ⟨notReading, not_exists.mpr notLost⟩
    generalize recordEq : CallRecord.ofPast past id = record at agrees
    cases agrees with
    | waiting stillOpen => exact absurd stillOpen isClosed
    | cutOff _ closed =>
        exact Session.returns_of_finished isProper calling (Calling.step_of_closed closed _)
    | answered answer _ => exact absurd (CallRecord.answeredIn_of_answered recordEq) (never answer)
  case closing =>
    intro reason lost
    simp only [Session.apply, Session.readStep, lost]
    exact ⟨_, rfl, rfl⟩

end Run

def answeredCall : List Action :=
  [.start (.call { method := "ask", params := none }), .advance 0 1024, .advance 0 1024,
    .advance 0 1024, .advance 0 1024, .advance 0 1024,
    .serverWrites (Text.Utf8.encode
      "Content-Length: 38\r\n\r\n\x7b\"jsonrpc\":\"2.0\",\"id\":1,\"result\":true\x7d"),
    .read, .advance 0 1024]

theorem Run.correlated_answeredCall :
    ∃ past session,
      Run (Session.connect (.connect { processId := 1 } 1024 (.directory []) [])) past session ∧
        past.map Transition.action = answeredCall ∧
          session.results = [(0, .ok (.json (.bool true)))] ∧ Correlated past session := by
  have results :
      ((Session.connect (.connect { processId := 1 } 1024 (.directory []) [])).run
        answeredCall).map (fun session => session.results) =
          some [(0, .ok (.json (.bool true)))] := by
    decide +kernel
  obtain ⟨session, ran, results⟩ := Option.map_eq_some_iff.mp results
  have run := Run.of_run ran .refl
  exact ⟨_, session, run, Session.map_action_transitions ran, results, run.correlated rfl⟩

end LanguageClient
