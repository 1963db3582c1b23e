import LanguageClient.Proofs.Calls.Move
import LanguageClient.Proofs.Calls.Table

/-!
# What happens to the calls of a session

A call takes a number when it registers, keeps it while its request is sent and its
answer awaited, and gives it up with all that it holds.  Besides the calls, only the
read loop changes the table: it leaves answers there, and closes it in the end.
-/

namespace LanguageClient

/-- The number of a call, once it has registered. -/
def Calling.id? : Calling → Option Nat
  | .starting _ => none
  | .sending _ id _ | .waiting _ id => some id

def Calling.request : Calling → CallRequest
  | .starting request | .sending request _ _ | .waiting request _ => request

/-! ## Numbers -/

/-- What a call does to the table in one step, and the number it has before and after. -/
inductive NumberMove (calls : PendingCalls) : Option Nat → PendingCalls → Option Nat → Prop
  | rests (id? : Option Nat) : NumberMove calls id? calls id?
  | registers {id : Nat} {after : PendingCalls} :
      calls.register = some (id, after) → NumberMove calls none after (some id)
  | leaves (id : Nat) : NumberMove calls (some id) (calls.abandon id) none

private theorem Calling.step_numberMove (turn : Turn) (client : Client) (call : Calling) :
    (call.step turn client).Holds
      (fun client' next => NumberMove client.calls call.id? client'.calls next.id?)
      (fun client' _ => NumberMove client.calls call.id? client'.calls none) := by
  cases call with
  | starting request =>
      simp only [step]
      split
      · exact .rests none
      · split
        · exact .rests none
        · rename_i id calls registered
          exact .registers registered
  | sending request id frame =>
      simp only [step, Step.holds_lift]
      apply (frame.step_fixes ignoresOutlet_calls).mono
      · intro client' frame' same
        rw [same]
        exact .rests (some id)
      · intro client' result same
        cases result with
        | ok value =>
            simp only [Step.holds_running]
            rw [same]
            exact .rests (some id)
        | error error =>
            simp only [Step.holds_finished, leave]
            rw [same]
            exact .leaves id
  | waiting request id =>
      simp only [step]
      split
      · exact .leaves id
      · exact .leaves id
      · exact .leaves id
      · split
        · exact .leaves id
        · trivial

private theorem Calling.abandon_numberMove (task : TaskId) (client : Client) (call : Calling) :
    NumberMove client.calls call.id? (call.abandon task client).calls none := by
  cases call with
  | starting request => exact .rests none
  | sending request id frame =>
      simp only [abandon, leave, frame.abandon_fixes ignoresOutlet_calls]
      exact .leaves id
  | waiting request id => exact .leaves id

theorem CallMove.number
    {turn : Turn} {client : Client} {before after : Option Calling} {calls : PendingCalls}
    (move : CallMove turn client before calls after) :
    NumberMove client.calls (before.bind Calling.id?) calls (after.bind Calling.id?) := by
  cases move with
  | apart => exact .rests none
  | begins request => exact .rests none
  | rests call => exact .rests call.id?
  | @steps call next client' step =>
      have moves := call.step_numberMove turn client
      rw [step] at moves
      exact moves
  | @returns call client' result step =>
      have moves := call.step_numberMove turn client
      rw [step] at moves
      exact moves
  | givenUp call => exact call.abandon_numberMove turn.task client

/-! ## Sessions -/

namespace Session

def calling? (session : Session) : TaskId → Option Calling :=
  session.view Operation.calling? none

/-- The number of the call that the operation of a task is in the middle of. -/
def callId? (session : Session) (task : TaskId) : Option Nat :=
  (session.calling? task).bind Calling.id?

theorem callId?_of_calling
    {session : Session} {task : TaskId} {call : Calling}
    (calling : session.calling? task = some call) : session.callId? task = call.id? := by
  unfold callId?
  rw [calling]
  rfl

theorem callId?_congr
    {before after : Session} {task : TaskId}
    (same : after.calling? task = before.calling? task) :
    after.callId? task = before.callId? task := by
  unfold callId?
  rw [same]

/-- The message that the read loop takes in with its next step. -/
def incoming? (session : Session) : Option Incoming :=
  match session.loop, Frame.read session.inbound with
  | .reading, .frame value _ => Incoming.ofJson? value
  | _, _ => none

/-- A response that the read loop takes in with its next step, if its identifier can be
the number of a call. -/
def response? (session : Session) : Option (Nat × Answer) :=
  match session.incoming? with
  | some (.response id answer) => id.nat?.map fun id => (id, answer)
  | _ => none

/-- What an action does to the calls: the operation of a task makes a move, a response is
taken in, or the table is closed. -/
inductive CallEffect (session : Session) (action : Action) (after : Session) : Prop
  | moved (turn : Turn) :
      (action = .advance turn.task turn.portion ∨ action = .abandon turn.task) →
      CallMove turn session.client (session.calling? turn.task) after.client.calls
        (after.calling? turn.task) →
      (∀ other, other ≠ turn.task → after.calling? other = session.calling? other) →
      after.loop = session.loop →
      CallEffect session action after
  | answered (id : Nat) (answer : Answer) :
      action = .read →
      session.response? = some (id, answer) →
      after.client.calls = (session.client.calls.complete id answer).2 →
      (∀ task, after.calling? task = session.calling? task) →
      session.loop = .reading →
      after.loop = .reading →
      CallEffect session action after
  | closed {reason : String} :
      action = .read →
      session.loop = .lost reason →
      after.client.calls = session.client.calls.close.2 →
      (∀ task, after.calling? task = session.calling? task) →
      after.loop = .leaving reason →
      CallEffect session action after
  | quiet :
      action.task? = none →
      (action = .read → session.response? = none) →
      after.client.calls = session.client.calls →
      (∀ task, after.calling? task = session.calling? task ∨
        session.calling? task = none ∧
          ∃ request, after.calling? task = some (.starting request)) →
      (after.loop = session.loop ∨
        session.loop = .reading ∧ (∃ reason, after.loop = .lost reason) ∨
          (∃ reason, session.loop = .leaving reason) ∧ after.loop = .finished) →
      CallEffect session action after

private theorem calling?_spawn
    {session : Session} (fresh : session.HasFreshTask) {operation : Operation}
    (begins : operation.calling? = none ∨
      ∃ request, operation.calling? = some (.starting request)) (task : TaskId) :
    (session.spawn operation).calling? task = session.calling? task ∨
      session.calling? task = none ∧
        ∃ request, (session.spawn operation).calling? task = some (.starting request) := by
  rcases begins with noCall | ⟨request, starting⟩
  · exact Or.inl (view_spawn_of_nothing fresh noCall task)
  · apply (view_spawn fresh operation task).imp_right
    rintro ⟨before, afterwards⟩
    exact ⟨before, request, afterwards.trans starting⟩

private theorem callEffect_dispatch
    {session : Session} (fresh : session.HasFreshTask) {value : Json} {rest : List UInt8}
    (reading : session.loop = .reading)
    (read : Frame.read session.inbound = .frame value rest) :
    CallEffect session .read
      ({ session with inbound := ⟨rest, session.inbound.ending⟩ }.dispatch value) := by
  generalize passedEq :
    ({ session with inbound := ⟨rest, session.inbound.ending⟩ } : Session) = passed
  have sameLoop : passed.loop = session.loop := passedEq ▸ rfl
  have sameCalls : passed.client.calls = session.client.calls := passedEq ▸ rfl
  have sameCalling : ∀ task, passed.calling? task = session.calling? task :=
    fun _ => passedEq ▸ rfl
  have passedFresh : passed.HasFreshTask := passedEq ▸ fresh
  have response : session.response? =
      match Incoming.ofJson? value with
      | some (.response id answer) => id.nat?.map fun id => (id, answer)
      | _ => none := by
    simp [response?, incoming?, reading, read]
  rcases passed.dispatch_cases value with
    ⟨id, answer, classified, equality⟩ | ⟨id, method, params, records, classified, equality⟩ |
      ⟨isNotice, diagnostics, records, equality⟩
  · rw [equality]
    unfold deliver
    cases number : id.nat? with
    | none =>
        apply CallEffect.quiet rfl
        · intro _
          simp [response, classified, number]
        · exact sameCalls
        · exact fun task => Or.inl (sameCalling task)
        · exact Or.inl sameLoop
    | some id' =>
        apply CallEffect.answered id' answer rfl
        · simp [response, classified, number]
        · rw [← sameCalls]
        · exact sameCalling
        · exact reading
        · exact sameLoop.trans reading
  · let recorded : Session := { passed with records }
    have recordedFresh : recorded.HasFreshTask := passedFresh
    rw [equality]
    apply CallEffect.quiet rfl
    · intro _
      simp [response, classified]
    · exact sameCalls
    · intro task
      rw [← sameCalling task]
      exact calling?_spawn recordedFresh (Or.inl rfl) task
    · exact Or.inl sameLoop
  · rw [equality]
    apply CallEffect.quiet rfl
    · intro _
      rw [response]
      split
      · rename_i id answer classified
        obtain ⟨_, _, same⟩ := isNotice _ classified
        cases same
      · rfl
    · exact sameCalls
    · exact fun task => Or.inl (sameCalling task)
    · exact Or.inl sameLoop

/-- Every action has one of the effects on the calls. -/
theorem Effect.calls
    {session after : Session} {action : Action} (effect : Effect session action after)
    (fresh : session.HasFreshTask) : CallEffect session action after := by
  cases effect with
  | started command =>
      exact .quiet rfl nofun rfl
        (calling?_spawn fresh (Operation.calling?_begin session.client command)) (Or.inl rfl)
  | @advanced task portion operation next client found step =>
      have moves := operation.step_callMoves ⟨task, portion⟩ session.client
      rw [step] at moves
      have found' : ({ session with client } : Session).task? task = some operation := found
      have before : session.calling? task = operation.calling? := view_of_found found
      have afterwards :
          (({ session with client } : Session).setTask task next).calling? task =
            next.calling? :=
        view_setTask found' next
      refine .moved ⟨task, portion⟩ (Or.inl rfl) ?_
        (fun other different => view_setTask_of_ne different next) rfl
      rw [before, afterwards]
      exact moves
  | @ended task portion operation client result found step =>
      have moves := operation.step_callMoves ⟨task, portion⟩ session.client
      rw [step] at moves
      have before : session.calling? task = operation.calling? := view_of_found found
      have afterwards :
          (({ session with client } : Session).dropTask task).calling? task = none :=
        view_dropTask _ task
      refine .moved ⟨task, portion⟩ (Or.inl rfl) ?_
        (fun other different => view_dropTask_of_ne different) rfl
      rw [before]
      exact afterwards ▸ moves
  | @abandoned task operation found noAnswer =>
      have before : session.calling? task = operation.calling? := view_of_found found
      have afterwards : (session.dropTask task).calling? task = none :=
        view_dropTask session task
      refine .moved ⟨task, 0⟩ (Or.inr rfl) ?_
        (fun other different => view_dropTask_of_ne different) rfl
      rw [before]
      exact afterwards ▸ operation.abandon_callMove task session.client 0
  | @dispatched value rest reading read => exact callEffect_dispatch fresh reading read
  | @skipped error rest reading read =>
      exact .quiet rfl (fun _ => by simp [response?, incoming?, reading, read]) rfl (fun _ => Or.inl rfl)
        (Or.inl rfl)
  | lost reason reading noFrame =>
      have noResponse : session.response? = none := by
        unfold response? incoming?
        rw [reading]
        cases read : Frame.read session.inbound with
        | frame value rest => exact absurd read (noFrame value rest)
        | _ => rfl
      exact .quiet rfl (fun _ => noResponse) rfl (fun _ => Or.inl rfl)
        (Or.inr (Or.inl ⟨reading, reason, rfl⟩))
  | @drained reason lost => exact .closed rfl lost rfl (fun _ => rfl) rfl
  | @left reason leaving =>
      exact .quiet rfl (fun _ => by simp [response?, incoming?, leaving]) rfl (fun _ => Or.inl rfl)
        (Or.inr (Or.inr ⟨⟨reason, leaving⟩, rfl⟩))
  | handled handlers noTask noRead =>
      exact .quiet noTask (fun isRead => absurd isRead noRead) rfl (fun _ => Or.inl rfl) (Or.inl rfl)
  | _ => exact .quiet rfl nofun rfl (fun _ => Or.inl rfl) (Or.inl rfl)

end Session

end LanguageClient
