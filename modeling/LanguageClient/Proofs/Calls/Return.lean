import LanguageClient.Proofs.Calls.Record
import LanguageClient.Proofs.Operation.Message

/-!
# How calls return

A call returns an answer only out of its mailbox.  While it waits, its next step is
settled by the table: an answer that is there is returned, and when the table was
closed without one the call fails.
-/

namespace LanguageClient

/-- A result that the server has decided: a value, or an error of its own. -/
def IsAnswered : Except ClientError Json → Prop
  | .ok _ | .error (.refused _ _) => True
  | .error _ => False

def Transition.Returns
    (transition : Transition) (task : TaskId) (call : Calling)
    (result : Except ClientError Json) : Prop :=
  ∃ portion client,
    transition.action = .advance task portion ∧
      transition.before.calling? task = some call ∧
        call.step ⟨task, portion⟩ transition.before.client = .finished client result ∧
          transition.after.calling? task = none

/-! ## Steps -/

private theorem Sending.not_answered (turn : Turn) (client : Client) (frame : Sending) :
    (frame.step turn client).Holds (fun _ _ => True) fun _ result =>
      ∀ error, result = .error error → ¬ IsAnswered (.error error) := by
  cases frame with
  | asking message => trivial
  | queued message =>
      simp only [step]
      split
      · split
        · trivial
        · rintro error ⟨⟩
          exact False.elim
      · trivial
  | writing message rest =>
      cases rest with
      | nil =>
          rintro error failed
          cases failed
      | cons byte rest =>
          simp only [step]
          split
          · rintro error ⟨⟩
            exact False.elim
          · split <;> trivial

/-- A call that returns an answer has found it in its mailbox. -/
theorem Calling.mailbox_of_answered
    {call : Calling} {turn : Turn} {client client' : Client} {result : Except ClientError Json}
    (step : call.step turn client = .finished client' result) (answered : IsAnswered result) :
    ∃ request id answer, call = .waiting request id ∧
      client.calls.mailbox? id = some (.full answer) ∧ result = resultOf request answer := by
  cases call with
  | starting request =>
      simp only [Calling.step] at step
      split at step
      · injection step with _ same
        exact (same ▸ answered : IsAnswered (.error (.cancelled request.method))).elim
      · split at step
        · injection step with _ same
          exact (same ▸ answered : IsAnswered (.error .connectionClosed)).elim
        · cases step
  | sending request id frame =>
      have sent := frame.not_answered turn client
      simp only [Calling.step, Step.lift] at step
      split at step
      · cases step
      · cases step
      · rename_i client'' sendingResult sendingStep
        rw [sendingStep] at sent
        split at step
        · cases step
        · rename_i error
          injection step with _ same
          exact absurd (same ▸ answered) (sent error rfl)
  | waiting request id =>
      simp only [Calling.step] at step
      split at step
      · rename_i answer full
        injection step with _ same
        exact ⟨request, id, answer, rfl, full, same.symm⟩
      · injection step with _ same
        exact (same ▸ answered : IsAnswered (.error .connectionClosed)).elim
      · injection step with _ same
        exact (same ▸ answered : IsAnswered (.error .connectionClosed)).elim
      · split at step
        · injection step with _ same
          exact (same ▸ answered : IsAnswered (.error (.cancelled request.method))).elim
        · cases step

theorem Calling.step_of_full
    {request : CallRequest} {id : Nat} {answer : Answer} {client : Client}
    (full : client.calls.mailbox? id = some (.full answer)) (turn : Turn) :
    (Calling.waiting request id).step turn client =
      .finished (leave client id) (resultOf request answer) := by
  simp only [Calling.step, full]

theorem Calling.step_of_closed
    {request : CallRequest} {id : Nat} {client : Client}
    (closed : client.calls.mailbox? id = some .closed) (turn : Turn) :
    (Calling.waiting request id).step turn client =
      .finished (leave client id) (.error .connectionClosed) := by
  simp only [Calling.step, closed]

private theorem TimedCall.step_of_finished
    {timed : TimedCall} {turn : Turn} {client client' : Client} {request : CallRequest} {id : Nat}
    {result : Except ClientError Json} (isProper : timed.IsProper)
    (stage : timed.stage = .waiting request id)
    (step : (Calling.waiting request id).step turn client = .finished client' result) :
    timed.step turn client = .finished client' result := by
  cases timed with
  | waiting limit inner =>
      obtain ⟨request', rfl⟩ := isProper
      cases stage
  | underway deadline inner =>
      change inner = .waiting request id at stage
      subst stage
      simp only [TimedCall.step, Timed.step, step]

/-- An operation goes on with the result of the call that it is in the middle of. -/
theorem Operation.step_of_finished
    {operation : Operation} {mayNotify : String → Prop} {turn : Turn} {client client' : Client}
    {request : CallRequest} {id : Nat} {result : Except ClientError Json}
    (isProper : operation.IsProper mayNotify)
    (calling : operation.calling? = some (.waiting request id))
    (step : (Calling.waiting request id).step turn client = .finished client' result) :
    (∃ client'' next, operation.step turn client = .running client'' next ∧
        next.calling? = none) ∨
      ∃ client'' value, operation.step turn client = .finished client'' value := by
  cases operation with
  | openSession stage =>
      cases stage with
      | calling workspace timed =>
          injection calling with stage
          have inside := TimedCall.step_of_finished isProper stage step
          left
          simp only [Operation.step, Initializing.step, inside, Step.map, Step.lift,
            Initializing.announce]
          cases result with
          | error error => exact ⟨_, _, rfl, rfl⟩
          | ok value =>
              dsimp only
              cases InitializeResult.decode value with
              | error error => exact ⟨_, _, rfl, rfl⟩
              | ok result => exact ⟨_, _, rfl, rfl⟩
      | _ => cases calling
  | call stage =>
      injection calling with stage
      subst stage
      right
      simp only [Operation.step, step, Step.map, Step.lift]
      exact ⟨_, _, rfl⟩
  | timedCall timed =>
      injection calling with stage
      have inside := TimedCall.step_of_finished isProper stage step
      right
      simp only [Operation.step, inside, Step.map, Step.lift]
      exact ⟨_, _, rfl⟩
  | shutdown timed =>
      injection calling with stage
      have inside := TimedCall.step_of_finished isProper stage step
      right
      simp only [Operation.step, inside, Step.map, Step.lift]
      exact ⟨_, _, rfl⟩
  | close stage =>
      cases stage with
      | shuttingDown timed =>
          injection calling with stage
          have inside := TimedCall.step_of_finished isProper stage step
          left
          simp only [Operation.step, Closing.step, inside, Step.map, Step.lift]
          exact ⟨_, _, rfl, rfl⟩
      | _ => cases calling
  | _ => cases calling

/-- A task whose call is settled can take its step, and the call returns in it. -/
theorem Session.returns_of_finished
    {session : Session} {mayNotify : String → Prop} {task : TaskId} {request : CallRequest}
    {id portion : Nat} {client : Client} {result : Except ClientError Json}
    (isProper : session.IsProper mayNotify)
    (calling : session.calling? task = some (.waiting request id))
    (step : (Calling.waiting request id).step ⟨task, portion⟩ session.client =
      .finished client result) :
    ∃ after, session.apply (.advance task portion) = some after ∧
      Transition.Returns ⟨session, .advance task portion, after⟩ task (.waiting request id)
        result := by
  obtain ⟨operation, found, inside⟩ := found_of_view calling nofun
  rcases Operation.step_of_finished (isProper task operation found) inside step with
    ⟨client', next, running, noCall⟩ | ⟨client', value, finished⟩
  · have applied : session.apply (.advance task portion) =
        some ({ session with client := client' }.setTask task next) := by
      simp only [apply, advance, taskStep, found, running]
    refine ⟨_, applied, portion, client, rfl, calling, step, ?_⟩
    have found' : ({ session with client := client' } : Session).task? task = some operation :=
      found
    exact (view_setTask found' next).trans noCall
  · have applied : session.apply (.advance task portion) =
        some { { session with client := client' }.dropTask task with
          results := (task, value) :: session.results } := by
      simp only [apply, advance, taskStep, found, finished]
    exact ⟨_, applied, portion, client, rfl, calling, step,
      view_dropTask ({ session with client := client' } : Session) task⟩

private theorem Operation.value_of_call
    {operation : Operation} {call : Calling} {turn : Turn} {client client' : Client}
    {value : OperationResult}
    (isCall : operation = .call call ∨
      ∃ deadline, operation = .timedCall (.underway deadline call))
    (step : operation.step turn client = .finished client' value) :
    (∃ client'' returned, call.step turn client = .finished client'' returned ∧
        value = returned.map .json) ∨
      ∃ method, value = .error (.timedOut method) := by
  rcases isCall with rfl | ⟨deadline, rfl⟩
  · cases inside : call.step turn client with
    | blocked => simp [Operation.step, Step.map, Step.lift, inside] at step
    | running client'' next => simp [Operation.step, Step.map, Step.lift, inside] at step
    | finished client'' returned =>
        simp only [Operation.step, Step.map, Step.lift, inside, Step.finished.injEq] at step
        exact Or.inl ⟨client'', returned, rfl, step.2.symm⟩
  · cases inside : call.step turn client with
    | blocked =>
        right
        by_cases due : deadline ≤ client.now
        · simp only [Operation.step, TimedCall.step, Timed.step, Step.map, Step.lift, inside,
            due, if_true, Step.finished.injEq] at step
          exact ⟨_, step.2.symm⟩
        · simp [Operation.step, TimedCall.step, Timed.step, Step.map, Step.lift, inside, due]
            at step
    | running client'' next =>
        simp [Operation.step, TimedCall.step, Timed.step, Step.map, Step.lift, inside] at step
    | finished client'' returned =>
        simp only [Operation.step, TimedCall.step, Timed.step, Step.map, Step.lift, inside,
          Step.finished.injEq] at step
        exact Or.inl ⟨client'', returned, rfl, step.2.symm⟩

/-- The result that a user of a call is given is the one that the call returns, unless its
time is over. -/
theorem Transition.returns_of_results
    {transition : Transition} {task : TaskId} {portion : Nat} {operation : Operation}
    {call : Calling} {result : OperationResult}
    (applied : transition.before.apply transition.action = some transition.after)
    (advances : transition.action = .advance task portion)
    (found : transition.before.task? task = some operation)
    (isCall : operation = .call call ∨
      ∃ deadline, operation = .timedCall (.underway deadline call))
    (results : transition.after.results = (task, result) :: transition.before.results) :
    (∃ returned, transition.Returns task call returned ∧ result = returned.map .json) ∨
      ∃ method, result = .error (.timedOut method) := by
  obtain ⟨before, action, after⟩ := transition
  dsimp only at advances applied found results
  subst advances
  have calling : before.calling? task = some call := by
    rcases isCall with rfl | ⟨deadline, rfl⟩
    · exact Session.view_of_found found
    · exact Session.view_of_found found
  cases step : operation.step ⟨task, portion⟩ before.client with
  | blocked => simp [Session.apply, Session.advance, Session.taskStep, found, step] at applied
  | running client next =>
      simp only [Session.apply, Session.advance, Session.taskStep, found, step,
        Option.some.injEq] at applied
      subst applied
      exact absurd results.symm (List.cons_ne_self _ _)
  | finished client value =>
      simp only [Session.apply, Session.advance, Session.taskStep, found, step,
        Option.some.injEq] at applied
      subst applied
      injection results with sameEntry
      injection sameEntry with _ sameResult
      subst sameResult
      apply (Operation.value_of_call isCall step).imp_left
      rintro ⟨client', returned, returns, same⟩
      exact ⟨returned, ⟨portion, client', rfl, calling, returns,
        Session.view_dropTask ({ before with client } : Session) task⟩, same⟩

end LanguageClient
