import LanguageClient.Proofs.Calls.Numbers
import LanguageClient.Proofs.Calls.Return
import LanguageClient.Proofs.Session.Phase

/-!
# Calls behind the end

A table of calls that was closed stays closed, and no call registers in it.  A call that
has not registered before that is refused, and its request is never on the stream.
-/

namespace LanguageClient

/-! ## The closed table -/

theorem NumberMove.isClosed
    {calls calls' : PendingCalls} {before after : Option Nat}
    (move : NumberMove calls before calls' after) : calls'.isClosed = calls.isClosed := by
  cases move with
  | rests => rfl
  | @registers id calls' registered =>
      obtain ⟨stillOpen, _, rfl⟩ := (calls.register_eq_some_iff id _).mp registered
      exact stillOpen.symm
  | leaves id => exact calls.isClosed_abandon id

/-- Giving numbers out and back fills no mailbox. -/
theorem NumberMove.full
    {calls calls' : PendingCalls} {before after : Option Nat}
    (move : NumberMove calls before calls' after) {id : Nat} {answer : Answer}
    (full : calls'.mailbox? id = some (.full answer)) :
    calls.mailbox? id = some (.full answer) := by
  cases move with
  | rests => exact full
  | @registers id' calls' registered =>
      obtain ⟨_, _, rfl⟩ := (calls.register_eq_some_iff id' _).mp registered
      by_cases same : id' = id
      · simp [PendingCalls.mailbox?, same] at full
      · simpa [PendingCalls.mailbox?, same] using full
  | leaves id' =>
      rw [PendingCalls.mailbox?_abandon] at full
      split at full
      · cases full
      · exact full

namespace Session.CallEffect

variable {session after : Session} {action : Action}

theorem isClosed
    (effect : CallEffect session action after) (closed : session.client.calls.isClosed = true) :
    after.client.calls.isClosed = true := by
  cases effect with
  | moved turn isAction move others sameLoop => rw [move.number.isClosed, closed]
  | answered id answer isRead response calls => rw [calls, PendingCalls.isClosed_complete, closed]
  | closed isRead lost calls => rw [calls]; rfl
  | quiet noTask noResponse sameCalls => rw [sameCalls, closed]

/-- A number is given out only while the table is open. -/
theorem isOpen_of_registered
    (effect : CallEffect session action after) {task : TaskId} {id : Nat}
    (registered : Transition.registered? ⟨session, action, after⟩ = some (task, id)) :
    session.client.calls.isClosed = false ∧ after.callId? task = some id := by
  cases effect with
  | moved turn isAction move others sameLoop =>
      simp only [Transition.registered?, Action.task?_of_turn isAction] at registered
      have number := move.number
      change NumberMove _ (session.callId? turn.task) _ (after.callId? turn.task) at number
      generalize numberBefore : session.callId? turn.task = before at registered number
      generalize numberAfter : after.callId? turn.task = afterwards at registered number
      generalize after.client.calls = calls at number
      cases number with
      | rests => cases before <;> cases registered
      | @registers id' calls given =>
          injection registered with same
          injection same with sameTask sameId
          subst sameTask sameId
          exact ⟨((session.client.calls.register_eq_some_iff _ _).mp given).1, numberAfter⟩
      | leaves => cases registered
  | answered _ _ isRead | closed isRead =>
      subst isRead
      cases registered
  | quiet noTask =>
      simp only [Transition.registered?, noTask] at registered
      cases registered

end Session.CallEffect

/-! ## Refusals -/

namespace Calling

/-- The error that a call ends with when the table is closed before it has registered. -/
def refusal (client : Client) (request : CallRequest) : ClientError :=
  if isCancelled client request then .cancelled request.method else .connectionClosed

theorem step_of_refused
    {client : Client} (closed : client.calls.isClosed = true) (turn : Turn)
    (request : CallRequest) :
    (starting request).step turn client = .finished client (.error (refusal client request)) := by
  simp only [step, refusal, client.calls.register_eq_none_iff.mpr closed]
  split <;> rfl

end Calling

def Operation.timed? : Operation → Option TimedCall
  | .openSession (.calling _ timed) => some timed
  | .timedCall timed | .shutdown timed => some timed
  | .close (.shuttingDown timed) => some timed
  | _ => none

namespace TimedCall

variable {timed : TimedCall} {client : Client} {request : CallRequest}

private theorem step_of_refused
    (closed : client.calls.isClosed = true) (stage : timed.stage = .starting request)
    (turn : Turn) :
    (∃ limit, timed = .waiting limit (.starting request) ∧
        timed.step turn client = .running client (.underway (client.now + limit)
          (.starting request))) ∨
      timed.step turn client = .finished client (.error (Calling.refusal client request)) := by
  cases timed with
  | waiting limit inner =>
      change inner = .starting request at stage
      subst stage
      exact Or.inl ⟨limit, rfl, rfl⟩
  | underway deadline inner =>
      change inner = .starting request at stage
      subst stage
      right
      simp only [TimedCall.step, Timed.step, Calling.step_of_refused closed]

end TimedCall

namespace Operation

/-- An operation whose call is refused goes on with the refusal; before that its limit of
time may begin to run. -/
inductive RefusedStep (client : Client) (request : CallRequest) (operation : Operation) :
    Step Operation OperationValue → Prop
  | begins {limit : Nat} {next : Operation} :
      operation.timed? = some (.waiting limit (.starting request)) →
      next.calling? = some (.starting request) →
      RefusedStep client request operation (.running client next)
  | goesOn {next : Operation} :
      next.calling? = none →
      RefusedStep client request operation (.running client next)
  | ends (value : OperationResult) :
      RefusedStep client request operation (.finished client value)

theorem step_of_refused
    {client : Client} {request : CallRequest} {operation : Operation}
    (calling : operation.calling? = some (.starting request))
    (closed : client.calls.isClosed = true) (turn : Turn) :
    RefusedStep client request operation (operation.step turn client) := by
  cases operation with
  | openSession stage =>
      cases stage with
      | calling workspace timed =>
          injection calling with stage
          rcases TimedCall.step_of_refused closed stage turn with ⟨limit, rfl, begins⟩ | ends
          · simp only [step, Initializing.step, begins, Step.map, Step.lift]
            exact .begins rfl rfl
          · simp only [step, Initializing.step, ends, Initializing.announce, Step.map, Step.lift]
            exact .goesOn rfl
      | _ => cases calling
  | close stage =>
      cases stage with
      | shuttingDown timed =>
          injection calling with stage
          rcases TimedCall.step_of_refused closed stage turn with ⟨limit, rfl, begins⟩ | ends
          · simp only [step, Closing.step, begins, Step.map, Step.lift]
            exact .begins rfl rfl
          · simp only [step, Closing.step, ends, Step.map, Step.lift]
            exact .goesOn rfl
      | _ => cases calling
  | timedCall timed | shutdown timed =>
      injection calling with stage
      rcases TimedCall.step_of_refused closed stage turn with ⟨limit, rfl, begins⟩ | ends
      · simp only [step, begins, Step.map, Step.lift]
        exact .begins rfl rfl
      · simp only [step, ends, Step.map, Step.lift]
        exact .ends _
  | call stage =>
      injection calling with stage
      subst stage
      simp only [step, Calling.step_of_refused closed, Step.map, Step.lift]
      exact .ends _
  | _ => cases calling

/-- The phase of an operation in the middle of a call is that of the call. -/
theorem phase_of_calling
    {operation : Operation} {call : Calling} (calling : operation.calling? = some call) :
    operation.phase = 2 + call.phase := by
  cases operation with
  | openSession stage =>
      cases stage with
      | calling workspace timed => injection calling with same; exact same ▸ rfl
      | _ => cases calling
  | close stage =>
      cases stage with
      | shuttingDown timed => injection calling with same; exact same ▸ rfl
      | _ => cases calling
  | call stage | timedCall timed | shutdown timed =>
      injection calling with same
      exact same ▸ rfl
  | _ => cases calling

end Operation

/-- A call that is refused can take its step, which changes nothing of the client: the call
returns, or its limit of time begins to run. -/
theorem Session.refuses
    {session : Session} {task : TaskId} {request : CallRequest}
    (closed : session.client.calls.isClosed = true)
    (calling : session.calling? task = some (.starting request)) (portion : Nat) :
    ∃ after, session.apply (.advance task portion) = some after ∧
      after.client = session.client ∧
        ((∃ operation limit, session.task? task = some operation ∧
            operation.timed? = some (.waiting limit (.starting request)) ∧
              after.calling? task = some (.starting request)) ∨
          Transition.Returns ⟨session, .advance task portion, after⟩ task (.starting request)
            (.error (Calling.refusal session.client request))) := by
  obtain ⟨operation, found, inside⟩ := found_of_view calling nofun
  have returns := Calling.step_of_refused closed ⟨task, portion⟩ request
  have refused := Operation.step_of_refused inside closed ⟨task, portion⟩
  generalize step : operation.step ⟨task, portion⟩ session.client = comes at refused
  have found' : ({ session with client := session.client } : Session).task? task =
      some operation := found
  cases refused with
  | @begins limit next isTimed sameCall =>
      refine ⟨session.setTask task next, by simp [apply, advance, taskStep, found, step], rfl,
        Or.inl ⟨operation, limit, found, isTimed, ?_⟩⟩
      exact (view_setTask found' next).trans sameCall
  | @goesOn next noCall =>
      refine ⟨session.setTask task next, by simp [apply, advance, taskStep, found, step], rfl,
        Or.inr ⟨portion, session.client, rfl, calling, returns, ?_⟩⟩
      exact (view_setTask found' next).trans noCall
  | ends value =>
      refine ⟨{ session.dropTask task with results := (task, value) :: session.results },
        by simp [apply, advance, taskStep, found, step], rfl,
        Or.inr ⟨portion, session.client, rfl, calling, returns, ?_⟩⟩
      exact view_dropTask session task

namespace Run

variable {client : Client} {session : Session} {past : List Transition}

/-- The table is never opened again. -/
theorem isClosed_kept
    (past : List Transition) (session : Session) (action : Action) (after : Session)
    (run : Run (Session.connect client) past session)
    (applied : session.apply action = some after)
    (closed : session.client.calls.isClosed = true) : after.client.calls.isClosed = true :=
  ((Session.effect_of_apply applied).calls run.hasFreshTask).isClosed closed

/-- A call registers while the table is open, and is on its way behind that. -/
theorem isOpen_of_registered
    (run : Run (Session.connect client) past session) {transition : Transition}
    (member : transition ∈ past) {task : TaskId} {id : Nat}
    (registered : transition.registered? = some (task, id)) :
    transition.before.client.calls.isClosed = false ∧
      ∃ operation, transition.after.task? task = some operation ∧ 3 ≤ operation.phase := by
  obtain ⟨earlier, later, rfl⟩ := List.append_of_mem member
  obtain ⟨runBefore, applied⟩ := run.before_transition
  have effect := (Session.effect_of_apply applied).calls runBefore.hasFreshTask
  obtain ⟨stillOpen, number⟩ := effect.isOpen_of_registered registered
  refine ⟨stillOpen, ?_⟩
  unfold Session.callId? at number
  obtain ⟨call, calling, isNumber⟩ := Option.bind_eq_some_iff.mp number
  obtain ⟨operation, found, inside⟩ := Session.found_of_view calling nofun
  refine ⟨operation, found, ?_⟩
  rw [Operation.phase_of_calling inside]
  cases call with
  | starting request => cases isNumber
  | sending request id frame =>
      simp only [Calling.phase]
      omega
  | waiting request id => exact Nat.le_add_left 3 3

/-- A task whose call had not registered when the table was closed has no request on the
stream. -/
theorem unsent_of_refused
    (run : Run (Session.connect client) past session) (fresh : client.calls = .empty)
    {transition : Transition} (member : transition ∈ past)
    (closed : transition.after.client.calls.isClosed = true) {task : TaskId}
    {request : CallRequest} (calling : transition.after.calling? task = some (.starting request))
    {message : Outgoing} (logged : (task, message) ∈ Segment.headings (wireLog past)) :
    message.requestId? = none := by
  by_contra isRequest
  obtain ⟨id, isRequest⟩ := Option.ne_none_iff_exists'.mp isRequest
  obtain ⟨registering, registers, registered⟩ :=
    (run.requestInvariant fresh).owned task message id logged isRequest
  obtain ⟨stillOpen, other, foundOther, far⟩ := run.isOpen_of_registered registers registered
  obtain ⟨earlier, later, rfl⟩ := List.append_of_mem member
  have regrouped : earlier ++ transition :: later = (earlier ++ [transition]) ++ later := by simp
  rw [regrouped] at registers
  rcases List.mem_append.mp registers with before | behind
  · -- It has registered before, and a call does not start again.
    obtain ⟨runBefore, applied⟩ := run.before_transition
    obtain ⟨operation, found, inside⟩ := Session.found_of_view calling nofun
    have notLater := (runBefore.step applied).phase_le found before (Or.inr foundOther)
    rw [Operation.phase_of_calling inside] at notLater
    exact absurd (far.trans notLater) (by simp [Calling.phase])
  · obtain ⟨middle, rest, rfl⟩ := List.append_of_mem behind
    have regrouped : earlier ++ transition :: (middle ++ registering :: rest) =
        (earlier ++ transition :: middle) ++ registering :: rest := by simp
    rw [regrouped] at run
    have isClosed : registering.before.client.calls.isClosed = true :=
      run.before_transition.1.from_transition
        (motive := fun _ session => session.client.calls.isClosed = true) closed isClosed_kept
    exact Bool.false_ne_true (stillOpen.symm.trans isClosed)

end Run

end LanguageClient
