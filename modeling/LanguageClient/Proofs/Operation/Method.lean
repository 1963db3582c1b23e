import LanguageClient.Proofs.Calls.Effect
import LanguageClient.Proofs.Operation.Occupation

/-!
# The methods of messages

The handshake has two methods of its own.  As long as the users of a client leave them
alone, no other operation sends a message with one of them.
-/

namespace LanguageClient

/-! ## Methods -/

def Outgoing.method? : Outgoing → Option String
  | .request _ method _ | .notification method _ => some method
  | .response _ _ => none

def Outgoing.opensSession (message : Outgoing) : Bool :=
  message.method? = some "initialize"

def Outgoing.tellsOpen (message : Outgoing) : Bool :=
  message.method? = some "initialized"

def IsHandshakeMethod (method : String) : Prop :=
  method = "initialize" ∨ method = "initialized"

def Outgoing.IsHandshake (message : Outgoing) : Prop :=
  ∃ method, message.method? = some method ∧ IsHandshakeMethod method

theorem Outgoing.isHandshake_of_opensSession
    (message : Outgoing) (opens : message.opensSession = true) : message.IsHandshake :=
  ⟨_, of_decide_eq_true opens, Or.inl rfl⟩

theorem Outgoing.isHandshake_of_tellsOpen
    (message : Outgoing) (tells : message.tellsOpen = true) : message.IsHandshake :=
  ⟨_, of_decide_eq_true tells, Or.inr rfl⟩

/-- The method of the message that a user sends by a command, if it is a free one. -/
def Command.method? : Command → Option String
  | .call request => some request.method
  | .timedCall method _ _ | .notify method _ => some method
  | _ => none

/-! ## Calls -/

/-- The call in an operation is the one that the operation is for; those of users have a
method of some kind. -/
def Operation.CallsAs (mayCall : String → Prop) : Operation → Prop
  | .openSession (.calling _ timed) => timed.stage.request.method = "initialize"
  | .close (.shuttingDown timed) => timed.stage.request.method = "shutdown"
  | .shutdown timed => timed.stage.request.method = "shutdown"
  | .call stage => mayCall stage.request.method
  | .timedCall timed => mayCall timed.stage.request.method
  | _ => True

section Steps

variable {turn : Turn} {client : Client} {mayCall : String → Prop}

theorem Calling.step_keeps_request (call : Calling) :
    (call.step turn client).Keeps fun next => next.request = call.request := by
  cases call with
  | starting request =>
      simp only [step]
      split
      · trivial
      · split
        · trivial
        · rfl
  | sending request id frame =>
      apply (Step.Keeps.trivial _).lift
      · exact fun _ _ => rfl
      · intro client' result
        cases result with
        | ok => rfl
        | error error => trivial
  | waiting request id =>
      simp only [step]
      split
      · trivial
      · trivial
      · trivial
      · split <;> trivial

theorem TimedCall.step_keeps_request (call : TimedCall) :
    (call.step turn client).Keeps fun next => next.stage.request = call.stage.request := by
  apply Timed.step_holds
  · rintro limit stage rfl
    rfl
  · rintro deadline stage rfl
    exact stage.step_keeps_request
  · intros
    trivial

private theorem Initializing.step_callsAs
    {stage : Initializing} (callsAs : (Operation.openSession stage).CallsAs mayCall) :
    (stage.step turn client).Keeps fun next => (Operation.openSession next).CallsAs mayCall := by
  cases stage with
  | starting workspace custom =>
      simp only [step]
      split <;> trivial
  | preparing workspace custom =>
      simp only [step, prepare]
      split <;> trivial
  | registering workspace rootUri options registered =>
      simp only [step, register]
      split
      · trivial
      · rfl
  | calling workspace call =>
      apply call.step_keeps_request.lift
      · exact fun inner same => (congrArg CallRequest.method same).trans callsAs
      · intro client' answer
        cases answer with
        | error error => trivial
        | ok value =>
            simp only [announce]
            split <;> trivial
  | announcing workspace result frame =>
      apply (Step.Keeps.trivial _).lift
      · exact fun _ _ => trivial
      · intro client' sent
        cases sent <;> trivial
  | settling workspace result =>
      simp only [step]
      split <;> trivial
  | preloading result files =>
      apply (Step.Keeps.trivial _).lift
      · exact fun _ _ => trivial
      · intro client' loaded
        cases loaded <;> trivial
  | failing error => trivial

private theorem Closing.step_callsAs
    {stage : Closing} (callsAs : (Operation.close stage).CallsAs mayCall) :
    (stage.step turn client).Keeps fun next => (Operation.close next).CallsAs mayCall := by
  cases stage with
  | starting =>
      simp only [step]
      split <;> trivial
  | closingFiles files =>
      apply (Step.Keeps.trivial _).lift
      · exact fun _ _ => trivial
      · exact fun _ _ => rfl
  | shuttingDown call =>
      apply call.step_keeps_request.lift
      · exact fun inner same => (congrArg CallRequest.method same).trans callsAs
      · exact fun _ _ => trivial
  | exiting notice =>
      apply (Step.Keeps.trivial _).lift
      · exact fun _ _ => trivial
      · exact fun _ _ => trivial
  | closingInput input =>
      apply (Step.Keeps.trivial _).lift
      · exact fun _ _ => trivial
      · exact fun _ _ => trivial
  | reaping =>
      simp only [step]
      split <;> trivial
  | awaiting deadline =>
      simp only [step]
      split
      · trivial
      · trivial
      · split <;> trivial
  | settling status => trivial

namespace Operation

/-- A step keeps the call in an operation the one that it is for. -/
theorem step_callsAs {operation : Operation} (callsAs : operation.CallsAs mayCall) :
    (operation.step turn client).Keeps (CallsAs mayCall) := by
  cases operation with
  | openSession stage => exact (Initializing.step_callsAs callsAs).map fun _ keeps => keeps
  | close stage => exact (Closing.step_callsAs callsAs).map fun _ keeps => keeps
  | shutdown timed =>
      exact (TimedCall.step_keeps_request timed).map fun inner same =>
        (congrArg CallRequest.method same).trans callsAs
  | call stage =>
      refine stage.step_keeps_request.map fun inner same => ?_
      rw [CallsAs, same]
      exact callsAs
  | timedCall timed =>
      refine (TimedCall.step_keeps_request timed).map fun inner same => ?_
      rw [CallsAs, same]
      exact callsAs
  | closeFile path =>
      simp only [step]
      split <;> trivial
  | _ => exact (Step.Keeps.trivial _).map fun _ _ => trivial

theorem callsAs_begin
    {command : Command} (allowed : ∀ method, command.method? = some method → mayCall method) :
    (command.begin client).CallsAs mayCall := by
  cases command with
  | call request => exact allowed request.method rfl
  | timedCall method params limit => exact allowed method rfl
  | shutdown => rfl
  | _ => trivial

end Operation

end Steps

/-! ## Messages -/

theorem DocumentNotice.not_isHandshake (notice : DocumentNotice) :
    ¬ notice.message.IsHandshake := by
  rintro ⟨method, isMethod, isHandshake⟩
  obtain rfl := Option.some.inj isMethod
  cases notice <;> simp [IsHandshakeMethod, DocumentNotice.method] at isHandshake

/-- The calls of operations that open no session are those of users and the one that shuts
down. -/
theorem Operation.method_of_calling
    {operation : Operation} {mayCall : String → Prop} {call : Calling}
    (callsAs : operation.CallsAs mayCall) (apart : ∀ stage, operation ≠ .openSession stage)
    (calling : operation.calling? = some call) :
    mayCall call.request.method ∨ call.request.method = "shutdown" := by
  cases operation with
  | openSession stage => exact absurd rfl (apart stage)
  | call stage =>
      obtain rfl := Option.some.inj calling
      exact Or.inl callsAs
  | timedCall timed =>
      obtain rfl := Option.some.inj calling
      exact Or.inl callsAs
  | shutdown timed =>
      obtain rfl := Option.some.inj calling
      exact Or.inr callsAs
  | close stage =>
      cases stage with
      | shuttingDown timed =>
          obtain rfl := Option.some.inj calling
          exact Or.inr callsAs
      | _ => cases calling
  | _ => cases calling

/-- What opens no session sends no message of the handshake, as long as the users do not. -/
theorem Operation.not_isHandshake_of_use
    {operation : Operation} {message : Outgoing}
    (isProper : operation.IsProper fun method => ¬ IsHandshakeMethod method)
    (callsAs : operation.CallsAs fun method => ¬ IsHandshakeMethod method)
    (apart : ∀ stage, operation ≠ .openSession stage)
    (sends : operation.use.message? = some message) : ¬ message.IsHandshake := by
  rintro ⟨method, isMethod, isHandshake⟩
  have sent {frame : Sending} (writer : operation.use = frame.use) : frame.message = message :=
    Sending.message_of_use (writer ▸ sends)
  cases occupation isProper with
  | @calls request id frame calling documents writer own =>
      have sameMethod : request.method = method := by
        rw [sent writer] at own
        rw [own] at isMethod
        exact Option.some.inj isMethod
      rw [← sameMethod] at isHandshake
      rcases method_of_calling callsAs apart calling with free | isShutdown
      · exact free isHandshake
      · change request.method = "shutdown" at isShutdown
        rw [isShutdown] at isHandshake
        exact absurd isHandshake (by unfold IsHandshakeMethod; decide)
  | tells notice documents writer own =>
      rw [sent writer] at own
      exact notice.not_isHandshake ⟨method, own ▸ isMethod, isHandshake⟩
  | @notifies method' params frame allowed documents writer own ofHandshake =>
      rw [sent writer] at own
      rw [own] at isMethod
      obtain rfl : method' = method := Option.some.inj isMethod
      rcases isHandshake with rfl | rfl
      · exact absurd allowed (by unfold IsHandshakeMethod; decide)
      · rcases ofHandshake rfl with free | ⟨stage, isOpening⟩
        · exact free (Or.inr rfl)
        · exact apart stage isOpening
  | answers documents writer own =>
      rw [sent writer] at own
      rw [own] at isMethod
      cases isMethod
  | silent idle quiet => cases quiet.symm.trans sends

/-! ## Runs -/

/-- The users of a client send no messages of the handshake by themselves. -/
def LeavesHandshake (past : List Transition) : Prop :=
  ∀ transition, transition ∈ past → ∀ command method, transition.action = .start command →
    command.method? = some method → ¬ IsHandshakeMethod method

theorem LeavesHandshake.left
    {earlier later : List Transition} (leaves : LeavesHandshake (earlier ++ later)) :
    LeavesHandshake earlier :=
  fun transition member => leaves transition (List.mem_append_left later member)

theorem LeavesHandshake.upTo
    {earlier later : List Transition} {transition : Transition}
    (leaves : LeavesHandshake (earlier ++ transition :: later)) :
    LeavesHandshake (earlier ++ [transition]) := by
  rw [← List.singleton_append, ← List.append_assoc] at leaves
  exact leaves.left

/-- The calls in a session are those that its operations are for, and those of its users are
what they may call. -/
theorem Run.callsAs_of
    {client : Client} {session : Session} {past : List Transition} {mayCall : String → Prop}
    (run : Run (Session.connect client) past session)
    (allowed : ∀ transition, transition ∈ past → ∀ command method,
      transition.action = .start command → command.method? = some method → mayCall method)
    {task : TaskId} {operation : Operation} (found : session.task? task = some operation) :
    operation.CallsAs mayCall := by
  apply run.operation_holds _ _ _ found
  · intro transition member command isAction
    exact Operation.callsAs_begin fun method => allowed transition member command method isAction
  · intro id work
    trivial
  · intro turn client operation client' next callsAs step
    exact (Operation.step_callsAs callsAs).of_running step

theorem Run.callsAs
    {client : Client} {session : Session} {past : List Transition}
    (run : Run (Session.connect client) past session) (leaves : LeavesHandshake past)
    {task : TaskId} {operation : Operation} (found : session.task? task = some operation) :
    operation.CallsAs fun method => ¬ IsHandshakeMethod method :=
  run.callsAs_of leaves found

/-- No operation but the opening of a session sends a message of the handshake. -/
theorem Run.not_isHandshake_of_use
    {client : Client} {session : Session} {past : List Transition}
    (run : Run (Session.connect client) past session) (leaves : LeavesHandshake past)
    {task : TaskId} {operation : Operation} (found : session.task? task = some operation)
    (apart : ∀ stage, operation ≠ .openSession stage) {message : Outgoing}
    (sends : operation.use.message? = some message) : ¬ message.IsHandshake := by
  have isProper : session.IsProper fun method => ¬ IsHandshakeMethod method :=
    run.isProper fun transition member method params isAction =>
      leaves transition member (.notify method params) method isAction rfl
  exact Operation.not_isHandshake_of_use (isProper task operation found)
    (run.callsAs leaves found) apart sends

end LanguageClient
