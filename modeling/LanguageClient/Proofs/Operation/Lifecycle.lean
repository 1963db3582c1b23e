import LanguageClient.Proofs.Operation.Method
import LanguageClient.Proofs.Session.Phase
import Mathlib.Data.List.Sort

/-!
# The messages of the life of a connection

Two messages open a session and two end it.  As long as the users of a client leave them
alone, the first two are sent only by who opens the session, and the others only by who
closes the client, each at a stage of its own.
-/

namespace LanguageClient

inductive LifecycleMessage where
  | initializing
  | initialized
  | shutdown
  | exit
deriving DecidableEq, Repr

namespace LifecycleMessage

def ofMethod? (method : String) : Option LifecycleMessage :=
  if method = "initialize" then some .initializing
  else if method = "initialized" then some .initialized
  else if method = "shutdown" then some .shutdown
  else if method = "exit" then some .exit
  else none

def opens : LifecycleMessage → Bool
  | .initializing | .initialized => true
  | .shutdown | .exit => false

/-- The phase of an operation that waits for the writer to send a message. -/
def phase : LifecycleMessage → Nat
  | .initializing | .shutdown => 4
  | .initialized | .exit => 8

/-- The place of a message in the order in which they are due. -/
def rank : LifecycleMessage → Nat
  | .initializing => 0
  | .initialized => 1
  | .shutdown => 2
  | .exit => 3

/-- All messages in the order in which they are due. -/
def all : List LifecycleMessage := [.initializing, .initialized, .shutdown, .exit]

theorem mem_all (message : LifecycleMessage) : message ∈ all := by
  cases message <;> decide

theorem rank_lt_of_phase
    {message other : LifecycleMessage} (sameSide : message.opens = other.opens)
    (sooner : message.phase < other.phase) : message.rank < other.rank := by
  cases message <;> cases other <;> revert sameSide sooner <;> decide

theorem rank_lt_of_opens
    {message other : LifecycleMessage} (opens : message.opens = true)
    (ends : other.opens = false) : message.rank < other.rank := by
  cases message <;> cases other <;> revert opens ends <;> decide

/-- Messages that come in their order, none of them twice, are some of all messages. -/
theorem sublist_all
    {messages : List LifecycleMessage}
    (ordered : messages.Pairwise fun message other => message.rank < other.rank) :
    messages.Sublist all := by
  have distinct : messages.Nodup :=
    ordered.imp fun sooner same => absurd (congrArg rank same) (Nat.ne_of_lt sooner)
  have antisymm : Std.Antisymm fun message other : LifecycleMessage => message.rank < other.rank :=
    ⟨fun _ _ sooner later => absurd later (Nat.lt_asymm sooner)⟩
  exact List.sublist_of_subperm_of_pairwise
    (List.subperm_of_subset distinct fun message _ => message.mem_all) ordered (by decide)

end LifecycleMessage

def Outgoing.lifecycle? (message : Outgoing) : Option LifecycleMessage :=
  message.method?.bind LifecycleMessage.ofMethod?

theorem DocumentNotice.lifecycle?_message (notice : DocumentNotice) :
    notice.message.lifecycle? = none := by
  cases notice <;> rfl

/-- Whether a method is none of those of the life of a connection. -/
def IsFreeMethod (method : String) : Prop :=
  LifecycleMessage.ofMethod? method = none

/-! ## Who sends them -/

namespace Operation

inductive Sends : Operation → LifecycleMessage → Prop
  | asksToOpen (workspace : Path) (call : TimedCall) :
      Sends (.openSession (.calling workspace call)) .initializing
  | tellsOpen (workspace : Path) (result : InitializeResult) (frame : Sending) :
      Sends (.openSession (.announcing workspace result frame)) .initialized
  | asksToEnd (call : TimedCall) : Sends (.close (.shuttingDown call)) .shutdown
  | tellsEnd (notice : Exiting) : Sends (.close (.exiting notice)) .exit

/-- Whether an operation is not one with which a user ends the connection by hand. -/
def LeavesEnd : Operation → Prop
  | .shutdown _ | .exit _ => False
  | _ => True

theorem step_leavesEnd
    {turn : Turn} {client : Client} {operation : Operation} (leaves : operation.LeavesEnd) :
    (operation.step turn client).Keeps LeavesEnd := by
  cases operation with
  | shutdown | exit => exact leaves.elim
  | closeFile path =>
      simp only [step]
      split <;> trivial
  | _ => exact (Step.Keeps.trivial _).map fun _ _ => trivial

variable {operation : Operation} {message : Outgoing} {said : LifecycleMessage}

private theorem request_of_use
    {call : Calling} (isProper : call.IsProper) (sends : call.use.message? = some message) :
    ∃ id, message = .request id call.request.method call.request.params := by
  cases call with
  | sending request id frame =>
      exact ⟨id, (Sending.message_of_use sends).symm.trans isProper⟩
  | starting | waiting => cases sends

private theorem timed_request_of_use
    {call : TimedCall} (isProper : call.IsProper) (sends : call.stage.use.message? = some message) :
    ∃ id, message = .request id call.stage.request.method call.stage.request.params := by
  cases call with
  | waiting limit stage =>
      obtain ⟨request, rfl⟩ := isProper
      cases sends
  | underway deadline stage => exact request_of_use isProper sends

/-- The message of a call with a free method is none of the life of the connection. -/
private theorem lifecycle?_of_free
    {id : Nat} {method : String} {params : Option Json} (free : IsFreeMethod method)
    (isMessage : message = .request id method params) : message.lifecycle? = none := by
  rw [isMessage]
  exact free

private theorem sends_of_opening
    {stage : Initializing} (isProper : stage.IsProper)
    (callsAs : (Operation.openSession stage).CallsAs IsFreeMethod)
    (sends : stage.use.message? = some message) (isSaid : message.lifecycle? = some said) :
    (Operation.openSession stage).Sends said := by
  cases stage with
  | calling workspace call =>
      obtain ⟨id, rfl⟩ := timed_request_of_use isProper sends
      have method : call.stage.request.method = "initialize" := callsAs
      simp only [Outgoing.lifecycle?, Outgoing.method?, method, Option.bind_some] at isSaid
      obtain rfl : .initializing = said := Option.some.inj isSaid
      exact .asksToOpen workspace call
  | announcing workspace result frame =>
      have sent : frame.message = message := Sending.message_of_use sends
      rw [← sent, show frame.message = _ from isProper] at isSaid
      obtain rfl : .initialized = said := Option.some.inj isSaid
      exact .tellsOpen workspace result frame
  | preloading result files =>
      obtain ⟨notice, rfl⟩ := (Preloading.tells isProper).exists_notice sends
      cases notice.lifecycle?_message.symm.trans isSaid
  | starting | preparing | registering | settling | failing => cases sends

private theorem sends_of_closing
    {stage : Closing} (isProper : stage.IsProper)
    (callsAs : (Operation.close stage).CallsAs IsFreeMethod)
    (sends : stage.use.message? = some message) (isSaid : message.lifecycle? = some said) :
    (Operation.close stage).Sends said := by
  cases stage with
  | closingFiles files =>
      obtain ⟨notice, rfl⟩ := (ClosingAll.tells isProper).exists_notice sends
      cases notice.lifecycle?_message.symm.trans isSaid
  | shuttingDown call =>
      obtain ⟨id, rfl⟩ := timed_request_of_use isProper sends
      have method : call.stage.request.method = "shutdown" := callsAs
      simp only [Outgoing.lifecycle?, Outgoing.method?, method, Option.bind_some] at isSaid
      obtain rfl : .shutdown = said := Option.some.inj isSaid
      exact .asksToEnd call
  | exiting notice =>
      have sent : notice.stage.message = message := Sending.message_of_use sends
      rw [← sent, show notice.stage.message = _ from isProper] at isSaid
      obtain rfl : .exit = said := Option.some.inj isSaid
      exact .tellsEnd notice
  | closingInput input =>
      cases stage : input.stage with
      | asking | queued =>
          change input.stage.use.message? = some message at sends
          rw [stage] at sends
          cases sends
  | starting | reaping | awaiting | settling => cases sends

/-- Only the opening of a session and the closing of a client send these messages, each at
its own stage. -/
theorem sends_of_use
    (isProper : operation.IsProper IsFreeMethod) (callsAs : operation.CallsAs IsFreeMethod)
    (leaves : operation.LeavesEnd) (sends : operation.use.message? = some message)
    (isSaid : message.lifecycle? = some said) : operation.Sends said := by
  have notNotice (isNotice : ∃ notice : DocumentNotice, message = notice.message) : False := by
    obtain ⟨notice, rfl⟩ := isNotice
    cases notice.lifecycle?_message.symm.trans isSaid
  cases operation with
  | openSession stage => exact sends_of_opening isProper callsAs sends isSaid
  | close stage => exact sends_of_closing isProper callsAs sends isSaid
  | call stage =>
      obtain ⟨id, isMessage⟩ := request_of_use isProper sends
      cases (lifecycle?_of_free callsAs isMessage).symm.trans isSaid
  | timedCall timed =>
      obtain ⟨id, isMessage⟩ := timed_request_of_use isProper sends
      cases (lifecycle?_of_free callsAs isMessage).symm.trans isSaid
  | notify frame =>
      obtain ⟨method, params, own, free⟩ := isProper
      rw [← Sending.message_of_use sends, own] at isSaid
      cases free.symm.trans isSaid
  | openFile stage => exact (notNotice ((Opening.tells isProper).exists_notice sends)).elim
  | changeFile stage => exact (notNotice ((Changing.tells isProper).exists_notice sends)).elim
  | closeDocument stage =>
      exact (notNotice ((ClosingDocument.tells isProper).exists_notice sends)).elim
  | closeAll stage => exact (notNotice ((ClosingAll.tells isProper).exists_notice sends)).elim
  | preload stage => exact (notNotice ((Preloading.tells isProper).exists_notice sends)).elim
  | shutdown | exit => exact leaves.elim
  | closeFile | waitReady => cases sends
  | answer stage =>
      cases stage with
      | sending frame =>
          obtain ⟨id, answer, own⟩ := isProper
          have sent : frame.message = message := Sending.message_of_use sends
          rw [← sent, own] at isSaid
          cases isSaid
      | working | resting => cases sends

end Operation

/-! ## Their phases -/

section Phase

variable (message : Outgoing) (rest : List UInt8)

theorem Sending.phase_of_use (frame : Sending) :
    (frame.use = .waiting message → frame.phase = 1) ∧
      (frame.use = .writing message rest → frame.phase = 2) := by
  cases frame <;> simp [use, phase]

theorem Calling.phase_of_use (call : Calling) :
    (call.use = .waiting message → call.phase = 2) ∧
      (call.use = .writing message rest → call.phase = 3) := by
  cases call with
  | sending request id frame =>
      obtain ⟨waiting, writing⟩ := frame.phase_of_use message rest
      refine ⟨fun waits => ?_, fun writes => ?_⟩
      · rw [phase, waiting waits]
      · rw [phase, writing writes]
  | starting | waiting => simp [use]

/-- Who waits to send one of the messages is in its phase, and in the next one who sends it. -/
theorem Operation.Sends.phase_eq
    {operation : Operation} {said : LifecycleMessage} (isSender : operation.Sends said) :
    (operation.use = .waiting message → operation.phase = said.phase) ∧
      (operation.use = .writing message rest → operation.phase = said.phase + 1) := by
  cases isSender with
  | asksToOpen workspace call | asksToEnd call =>
      obtain ⟨waiting, writing⟩ := call.stage.phase_of_use message rest
      exact ⟨fun waits => congrArg (2 + ·) (waiting waits),
        fun writes => congrArg (2 + ·) (writing writes)⟩
  | tellsOpen workspace result frame =>
      obtain ⟨waiting, writing⟩ := frame.phase_of_use message rest
      exact ⟨fun waits => congrArg (7 + ·) (waiting waits),
        fun writes => congrArg (7 + ·) (writing writes)⟩
  | tellsEnd notice =>
      obtain ⟨waiting, writing⟩ :=
        notice.stage.phase_of_use message rest
      exact ⟨fun waits => congrArg (7 + ·) (waiting waits),
        fun writes => congrArg (7 + ·) (writing writes)⟩

end Phase

end LanguageClient
