import LanguageClient.Proofs.Calls.Effect

/-!
# The record of the calls

The transitions of a run tell for every number whether a call was registered under
it and which answer was the first to come after that.  The table of calls agrees
with this record for every call that is still on its way.
-/

namespace LanguageClient

/-! ## Events -/

namespace Transition

/-- The task whose call is registered by a transition, and the number of the call. -/
def registered? (transition : Transition) : Option (TaskId × Nat) :=
  match transition.action.task? with
  | none => none
  | some task =>
      match transition.before.callId? task, transition.after.callId? task with
      | none, some id => some (task, id)
      | _, _ => none

/-- The response that the read loop takes in, if its identifier can be the number of a
call. -/
def response? (transition : Transition) : Option (Nat × Answer) :=
  match transition.action with
  | .read => transition.before.response?
  | _ => none

end Transition

/-- What is known about the call of a number. -/
inductive CallRecord where
  | unissued
  | pending (task : TaskId)
  | answered (task : TaskId) (answer : Answer)

namespace CallRecord

/-- The record of a number after a registration and a response.  Only the first response
after the registration counts. -/
def next
    (id : Nat) (registered? : Option (TaskId × Nat)) (response? : Option (Nat × Answer))
    (record : CallRecord) : CallRecord :=
  match registered? with
  | some (task, id') => if id' = id then .pending task else record
  | none =>
      match record, response? with
      | .pending task, some (id', answer) =>
          if id' = id then .answered task answer else .pending task
      | record, _ => record

/-- The record of a number at the end of a run. -/
def ofPast (past : List Transition) (id : Nat) : CallRecord :=
  past.foldl (fun record transition =>
    record.next id transition.registered? transition.response?) .unissued

theorem ofPast_concat (past : List Transition) (transition : Transition) (id : Nat) :
    ofPast (past ++ [transition]) id =
      (ofPast past id).next id transition.registered? transition.response? := by
  simp [ofPast]

@[simp]
theorem next_none (id : Nat) (record : CallRecord) : record.next id none none = record := by
  cases record <;> rfl

theorem next_registered_of_ne
    {id id' : Nat} (different : id' ≠ id) (task : TaskId) (response? : Option (Nat × Answer))
    (record : CallRecord) : record.next id (some (task, id')) response? = record := by
  simp [next, different]

theorem next_response_of_ne
    {id id' : Nat} (different : id' ≠ id) (answer : Answer) (record : CallRecord) :
    record.next id none (some (id', answer)) = record := by
  cases record <;> simp [next, different]

/-- The table holds for a call what the record says. -/
inductive Agrees (calls : PendingCalls) (task : TaskId) (id : Nat) : CallRecord → Prop
  | waiting :
      calls.isClosed = false →
      id ∈ calls.waiting →
      calls.mailbox? id = some .empty →
      Agrees calls task id (.pending task)
  | cutOff :
      calls.isClosed = true →
      calls.mailbox? id = some .closed →
      Agrees calls task id (.pending task)
  | answered (answer : Answer) :
      calls.mailbox? id = some (.full answer) →
      Agrees calls task id (.answered task answer)

theorem Agrees.mono
    {calls calls' : PendingCalls} {task : TaskId} {id : Nat} {record : CallRecord}
    (agrees : Agrees calls task id record) (mailbox : calls'.mailbox? id = calls.mailbox? id)
    (waits : id ∈ calls.waiting → id ∈ calls'.waiting)
    (sameClosed : calls'.isClosed = calls.isClosed) :
    Agrees calls' task id record := by
  cases agrees with
  | waiting stillOpen member empty =>
      exact .waiting (sameClosed.trans stillOpen) (waits member) (mailbox.trans empty)
  | cutOff isClosed noAnswer =>
      exact .cutOff (sameClosed.trans isClosed) (mailbox.trans noAnswer)
  | answered answer full => exact .answered answer (mailbox.trans full)

theorem Agrees.task_unique
    {calls calls' : PendingCalls} {task other : TaskId} {id : Nat} {record : CallRecord}
    (agrees : Agrees calls task id record) (agrees' : Agrees calls' other id record) :
    other = task := by
  cases agrees <;> cases agrees' <;> rfl

end CallRecord

/-! ## The record and the table -/

/-- How the table of calls and the calls under way agree with the record. -/
structure CallInvariant
    (record : Nat → CallRecord) (loop : ReadLoop) (calls : PendingCalls)
    (callId? : TaskId → Option Nat) : Prop where
  unissued : ∀ id, calls.nextId ≤ id → record id = .unissued
  guarded : ∀ task id, callId? task = some id → id ∈ calls.guards
  agrees : ∀ task id, callId? task = some id → (record id).Agrees calls task id
  waiting : ∀ id, id ∈ calls.waiting →
    ∃ task, callId? task = some id ∧ record id = .pending task
  isOpen : calls.isClosed = false ↔ loop = .reading ∨ ∃ reason, loop = .lost reason

namespace CallInvariant

variable {record : Nat → CallRecord} {loop : ReadLoop} {calls calls' : PendingCalls}
  {callId? callId?' : TaskId → Option Nat}

theorem number_unique
    (invariant : CallInvariant record loop calls callId?) {task other : TaskId} {id : Nat}
    (number : callId? task = some id) (number' : callId? other = some id) : other = task :=
  (invariant.agrees task id number).task_unique (invariant.agrees other id number')

theorem number_lt
    (invariant : CallInvariant record loop calls callId?) {task : TaskId} {id : Nat}
    (number : callId? task = some id) : id < calls.nextId := by
  by_contra tooLarge
  have agrees := invariant.agrees task id number
  rw [invariant.unissued id (Nat.le_of_not_lt tooLarge)] at agrees
  cases agrees

private theorem registers
    {record' : Nat → CallRecord} {task : TaskId} {id : Nat}
    (invariant : CallInvariant record loop calls callId?)
    (registered : calls.register = some (id, calls')) (noNumber : callId? task = none)
    (number : callId?' task = some id)
    (others : ∀ other, other ≠ task → callId?' other = callId? other)
    (records : ∀ other, record' other = (record other).next other (some (task, id)) none) :
    CallInvariant record' loop calls' callId?' := by
  obtain ⟨stillOpen, rfl, rfl⟩ := (calls.register_eq_some_iff id calls').mp registered
  have newRecord : record' calls.nextId = .pending task := by
    simp [records, CallRecord.next]
  have sameRecord {id : Nat} (old : id ≠ calls.nextId) : record' id = record id := by
    rw [records, CallRecord.next_registered_of_ne (Ne.symm old)]
  have earlier {other : TaskId} {id : Nat} (different : other ≠ task)
      (number' : callId?' other = some id) : callId? other = some id ∧ id ≠ calls.nextId := by
    rw [others other different] at number'
    exact ⟨number', Nat.ne_of_lt (invariant.number_lt number')⟩
  constructor
  · intro other large
    change calls.nextId + 1 ≤ other at large
    rw [sameRecord (by omega)]
    exact invariant.unissued other (by omega)
  · intro other id' number'
    by_cases same : other = task
    · rw [same, number] at number'
      injection number' with number'
      exact number' ▸ List.mem_cons_self
    · exact List.mem_cons_of_mem _ (invariant.guarded other id' (earlier same number').1)
  · intro other id' number'
    by_cases same : other = task
    · rw [same, number] at number'
      injection number' with number'
      subst same number'
      rw [newRecord]
      exact .waiting rfl List.mem_cons_self (by simp [PendingCalls.mailbox?])
    · obtain ⟨number', old⟩ := earlier same number'
      rw [sameRecord old]
      apply (invariant.agrees other id' number').mono
      · simp [PendingCalls.mailbox?, Ne.symm old]
      · exact List.mem_cons_of_mem _
      · exact stillOpen.symm
  · intro id' member
    rcases List.mem_cons.mp member with rfl | old
    · exact ⟨task, number, newRecord⟩
    · obtain ⟨other, number', pending⟩ := invariant.waiting id' old
      have known : id' ≠ calls.nextId := Nat.ne_of_lt (invariant.number_lt number')
      have different : other ≠ task := by
        rintro rfl
        exact nomatch noNumber.symm.trans number'
      exact ⟨other, (others other different).trans number', (sameRecord known).trans pending⟩
  · rw [← invariant.isOpen, stillOpen]

private theorem leaves
    {task : TaskId} {id : Nat} (invariant : CallInvariant record loop calls callId?)
    (number : callId? task = some id) (noNumber : callId?' task = none)
    (others : ∀ other, other ≠ task → callId?' other = callId? other) :
    CallInvariant record loop (calls.abandon id) callId?' := by
  have earlier {other : TaskId} {id' : Nat} (number' : callId?' other = some id') :
      callId? other = some id' ∧ id' ≠ id := by
    have different : other ≠ task := by
      rintro rfl
      exact nomatch noNumber.symm.trans number'
    rw [others other different] at number'
    refine ⟨number', ?_⟩
    rintro rfl
    exact different (invariant.number_unique number number')
  have guarded := invariant.guarded task id number
  constructor
  · rw [PendingCalls.nextId_abandon]
    exact invariant.unissued
  · intro other id' number'
    obtain ⟨number', different⟩ := earlier number'
    rw [PendingCalls.mem_guards_abandon]
    exact ⟨invariant.guarded other id' number', different⟩
  · intro other id' number'
    obtain ⟨number', different⟩ := earlier number'
    apply (invariant.agrees other id' number').mono
    · rw [PendingCalls.mailbox?_abandon, if_neg different]
    · intro waits
      rw [PendingCalls.mem_waiting_abandon calls guarded]
      exact ⟨waits, different⟩
    · exact PendingCalls.isClosed_abandon _ _
  · intro id' member
    rw [PendingCalls.mem_waiting_abandon calls guarded] at member
    obtain ⟨other, number', pending⟩ := invariant.waiting id' member.1
    have different : other ≠ task := by
      rintro rfl
      exact member.2 (Option.some.inj (number'.symm.trans number))
    exact ⟨other, (others other different).trans number', pending⟩
  · rw [PendingCalls.isClosed_abandon]
    exact invariant.isOpen

/-- A move of a call keeps the record right. -/
theorem moved
    {record' : Nat → CallRecord} (task : TaskId)
    (invariant : CallInvariant record loop calls callId?)
    (move : NumberMove calls (callId? task) calls' (callId?' task))
    (others : ∀ other, other ≠ task → callId?' other = callId? other)
    (records : ∀ other, record' other = (record other).next other
      (match callId? task, callId?' task with
        | none, some id => some (task, id)
        | _, _ => none) none) :
    CallInvariant record' loop calls' callId?' := by
  generalize before : callId? task = idBefore at move records
  generalize afterwards : callId?' task = idAfter at move records
  cases move with
  | rests =>
      have sameNumbers : callId?' = callId? := by
        funext other
        by_cases same : other = task
        · rw [same, before, afterwards]
        · exact others other same
      have sameRecord : record' = record := by
        funext other
        rw [records]
        cases idBefore <;> exact CallRecord.next_none other _
      rw [sameNumbers, sameRecord]
      exact invariant
  | @registers id after registered =>
      exact invariant.registers registered before afterwards others records
  | leaves id =>
      have sameRecord : record' = record := by
        funext other
        rw [records]
        exact CallRecord.next_none other _
      rw [sameRecord]
      exact invariant.leaves before afterwards others

/-- A response goes to the call that waits for it, and to no other. -/
theorem answered
    {record' : Nat → CallRecord} {id : Nat} {answer : Answer}
    (invariant : CallInvariant record loop calls callId?) (reading : loop = .reading)
    (records : ∀ other, record' other = (record other).next other none (some (id, answer))) :
    CallInvariant record' loop (calls.complete id answer).2 callId? := by
  have stillOpen : calls.isClosed = false := invariant.isOpen.mpr (Or.inl reading)
  have sameRecord {other : Nat} (different : other ≠ id) : record' other = record other := by
    rw [records, CallRecord.next_response_of_ne (Ne.symm different)]
  by_cases waits : id ∈ calls.waiting
  · obtain ⟨task, number, pending⟩ := invariant.waiting id waits
    have newRecord : record' id = .answered task answer := by
      simp [records, pending, CallRecord.next]
    rw [calls.complete_of_waiting waits]
    constructor
    · intro other large
      have different : other ≠ id := by
        rintro rfl
        exact nomatch pending.symm.trans (invariant.unissued other large)
      rw [sameRecord different]
      exact invariant.unissued other large
    · exact invariant.guarded
    · intro other id' number'
      by_cases same : id' = id
      · subst same
        have sameTask := invariant.number_unique number number'
        subst sameTask
        rw [newRecord]
        have agrees := invariant.agrees _ id' number
        rw [pending] at agrees
        apply CallRecord.Agrees.answered
        rw [PendingCalls.mailbox?_changeMailbox, if_pos rfl]
        change (calls.mailbox? id').map _ = _
        cases agrees with
        | waiting _ _ empty => simp [empty]
        | cutOff isClosed _ => exact nomatch stillOpen.symm.trans isClosed
      · rw [sameRecord same]
        apply (invariant.agrees other id' number').mono
        · rw [PendingCalls.mailbox?_changeMailbox, if_neg same]
          rfl
        · intro waits'
          exact (calls.mem_waiting_stopWaiting id id').mpr ⟨waits', same⟩
        · rfl
    · intro id' member
      obtain ⟨waits', different⟩ := (calls.mem_waiting_stopWaiting id id').mp member
      obtain ⟨other, number', pending'⟩ := invariant.waiting id' waits'
      exact ⟨other, number', (sameRecord different).trans pending'⟩
    · exact invariant.isOpen
  · rw [calls.complete_of_not_waiting waits]
    constructor
    · intro other large
      rw [records, invariant.unissued other large]
      rfl
    · exact invariant.guarded
    · intro task id' number
      have agrees := invariant.agrees task id' number
      by_cases same : id' = id
      · subst same
        rw [records]
        generalize record id' = known at agrees
        cases agrees with
        | waiting _ member _ => exact absurd member waits
        | cutOff isClosed _ => exact nomatch stillOpen.symm.trans isClosed
        | answered answer' full => exact .answered answer' full
      · rw [sameRecord same]
        exact agrees
    · intro id' member
      have different : id' ≠ id := by
        rintro rfl
        exact waits member
      rw [sameRecord different]
      exact invariant.waiting id' member
    · exact invariant.isOpen

/-- When the table is closed the calls that were not answered are cut off. -/
theorem closed
    {reason reason' : String} (invariant : CallInvariant record (.lost reason) calls callId?) :
    CallInvariant record (.leaving reason') calls.close.2 callId? := by
  constructor
  · exact invariant.unissued
  · exact invariant.guarded
  · intro task id number
    have mailbox := calls.mailbox?_close id
    have agrees := invariant.agrees task id number
    generalize record id = known at agrees
    cases agrees with
    | waiting _ member empty =>
        rw [empty] at mailbox
        exact .cutOff rfl mailbox
    | cutOff isClosed noAnswer =>
        rw [noAnswer] at mailbox
        exact .cutOff rfl mailbox
    | answered answer full =>
        rw [full] at mailbox
        exact .answered answer mailbox
  · intro id member
    cases member
  · simp [PendingCalls.close]

/-- The invariant does not tell apart the stages of the read loop at which the table is
open, nor those at which it is closed. -/
theorem loop_changes
    {loop' : ReadLoop} (invariant : CallInvariant record loop calls callId?)
    (same : loop' = loop ∨ loop = .reading ∧ (∃ reason, loop' = .lost reason) ∨
      (∃ reason, loop = .leaving reason) ∧ loop' = .finished) :
    CallInvariant record loop' calls callId? := by
  refine ⟨invariant.unissued, invariant.guarded, invariant.agrees, invariant.waiting, ?_⟩
  rw [invariant.isOpen]
  rcases same with rfl | ⟨rfl, reason, rfl⟩ | ⟨⟨reason, rfl⟩, rfl⟩
  · exact Iff.rfl
  · simp
  · simp

end CallInvariant

/-! ## Runs -/

namespace Run

variable {client : Client} {session : Session} {past : List Transition}

/-- The record of a run agrees with the table of calls at its end. -/
theorem callInvariant
    (run : Run (Session.connect client) past session) (fresh : client.calls = .empty) :
    CallInvariant (CallRecord.ofPast past) session.loop session.client.calls
      session.callId? := by
  induction run with
  | refl =>
      have sameCalls : (Session.connect client).client.calls = .empty := fresh
      rw [sameCalls]
      constructor
      · intros
        rfl
      · intro task id number
        cases number
      · intro task id number
        cases number
      · intro id member
        cases member
      · exact ⟨fun _ => Or.inl rfl, fun _ => rfl⟩
  | @step past session after action run applied inductionHypothesis =>
      generalize transitionEq : (⟨session, action, after⟩ : Transition) = transition
      cases (Session.effect_of_apply applied).calls run.hasFreshTask with
      | moved turn isAction move others sameLoop =>
          -- A task takes no response in, so the record changes by a registration at most.
          have isTask : action.task? = some turn.task := Action.task?_of_turn isAction
          have noResponse : transition.response? = none := by
            rcases isAction with rfl | rfl <;> subst transitionEq <;> rfl
          rw [sameLoop]
          apply inductionHypothesis.moved turn.task
          · exact move.number
          · intro other different
            exact Session.callId?_congr (others other different)
          · intro other
            rw [CallRecord.ofPast_concat, noResponse]
            subst transitionEq
            simp only [Transition.registered?, isTask]
      | answered id answer isRead response calls sameCalling reading readsOn =>
          have sameNumbers : after.callId? = session.callId? :=
            funext fun task => Session.callId?_congr (sameCalling task)
          rw [sameNumbers, calls, readsOn, ← reading]
          apply inductionHypothesis.answered reading
          intro other
          rw [CallRecord.ofPast_concat]
          subst isRead transitionEq
          simp [Transition.registered?, Transition.response?, Action.task?, response]
      | @closed reason isRead lost calls sameCalling leaving =>
          have sameNumbers : after.callId? = session.callId? :=
            funext fun task => Session.callId?_congr (sameCalling task)
          have sameRecord : CallRecord.ofPast (past ++ [transition]) = CallRecord.ofPast past := by
            funext other
            rw [CallRecord.ofPast_concat]
            subst isRead transitionEq
            simp [Transition.registered?, Transition.response?, Action.task?, Session.response?,
              Session.incoming?, lost]
          rw [sameNumbers, calls, leaving, sameRecord]
          rw [lost] at inductionHypothesis
          exact inductionHypothesis.closed
      | quiet noTask noResponse sameCalls sameCalling loops =>
          have sameNumbers : after.callId? = session.callId? := by
            funext task
            rcases sameCalling task with same | ⟨none, request, starting⟩
            · exact Session.callId?_congr same
            · unfold Session.callId?
              rw [none, starting]
              rfl
          have sameRecord : CallRecord.ofPast (past ++ [transition]) = CallRecord.ofPast past := by
            funext other
            rw [CallRecord.ofPast_concat]
            have noAnswer : transition.response? = none := by
              subst transitionEq
              cases action with
              | read => exact noResponse rfl
              | _ => rfl
            have noRegistration : transition.registered? = none := by
              subst transitionEq
              simp [Transition.registered?, noTask]
            rw [noAnswer, noRegistration, CallRecord.next_none]
          rw [sameNumbers, sameCalls, sameRecord]
          exact inductionHypothesis.loop_changes loops

/-- A number is given out only once. -/
theorem unissued_of_registered
    {after : Session} {action : Action} {task : TaskId} {id : Nat}
    (run : Run (Session.connect client) past session) (fresh : client.calls = .empty)
    (applied : session.apply action = some after)
    (registered : (⟨session, action, after⟩ : Transition).registered? = some (task, id)) :
    CallRecord.ofPast past id = .unissued := by
  have invariant := run.callInvariant fresh
  unfold Transition.registered? at registered
  cases (Session.effect_of_apply applied).calls run.hasFreshTask with
  | moved turn isAction move others sameLoop =>
      have isTask : action.task? = some turn.task := Action.task?_of_turn isAction
      have numberMove := move.number
      change NumberMove _ (session.callId? turn.task) _ (after.callId? turn.task) at numberMove
      simp only [isTask] at registered
      generalize session.callId? turn.task = idBefore at numberMove registered
      generalize after.callId? turn.task = idAfter at numberMove registered
      generalize after.client.calls = callsAfter at numberMove
      cases numberMove with
      | rests id? => cases idBefore <;> cases registered
      | @registers id' calls isNew =>
          obtain ⟨_, isNext, _⟩ := (PendingCalls.register_eq_some_iff _ _ _).mp isNew
          injection registered with registered
          injection registered with _ sameNumber
          subst sameNumber
          exact invariant.unissued id' (Nat.le_of_eq isNext.symm)
      | leaves id' => cases registered
  | answered id' answer isRead => simp [isRead, Action.task?] at registered
  | closed isRead => simp [isRead, Action.task?] at registered
  | quiet noTask => simp [noTask] at registered

end Run

end LanguageClient
