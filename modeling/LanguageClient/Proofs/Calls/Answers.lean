import LanguageClient.Proofs.Calls.Record

/-!
# Answers in the record

What the record of a number says of the calls and responses of a run: who registered
under it, and which response was the first to come while the call waited.
-/

namespace LanguageClient

/-! ## Reading the record -/

namespace CallRecord

def task? : CallRecord → Option TaskId
  | .unissued => none
  | .pending task | .answered task _ => some task

/-- A registration is never forgotten. -/
theorem next_ne_unissued
    {id : Nat} {record : CallRecord} (issued : record ≠ .unissued)
    (registered? : Option (TaskId × Nat)) (response? : Option (Nat × Answer)) :
    record.next id registered? response? ≠ .unissued := by
  unfold next
  split
  · split
    · nofun
    · exact issued
  · split
    · split <;> nofun
    · exact issued

theorem ofPast_ne_unissued
    {past : List Transition} {transition : Transition} {task : TaskId} {id : Nat}
    (member : transition ∈ past) (registered : transition.registered? = some (task, id)) :
    ofPast past id ≠ .unissued := by
  induction past using List.reverseRecOn with
  | nil => cases member
  | append_singleton past last inductionHypothesis =>
      rw [ofPast_concat]
      rcases List.mem_append.mp member with earlier | isLast
      · exact next_ne_unissued (inductionHypothesis earlier) _ _
      · rw [← List.mem_singleton.mp isLast, registered]
        simp [next]

/-- What is known of a call begins with its registration. -/
theorem exists_registered
    {past : List Transition} {task : TaskId} {id : Nat}
    (known : (ofPast past id).task? = some task) :
    ∃ transition, transition ∈ past ∧ transition.registered? = some (task, id) := by
  induction past using List.reverseRecOn with
  | nil => cases known
  | append_singleton past last inductionHypothesis =>
      have before :
          (ofPast past id).task? = some task →
            ∃ transition, transition ∈ past ++ [last] ∧
              transition.registered? = some (task, id) := by
        intro known
        obtain ⟨transition, member, registered⟩ := inductionHypothesis known
        exact ⟨transition, List.mem_append_left _ member, registered⟩
      rw [ofPast_concat] at known
      unfold next at known
      split at known
      · rename_i task' id' registered
        split at known
        · rename_i sameNumber
          injection known with sameTask
          subst sameTask sameNumber
          exact ⟨last, List.mem_append_right _ List.mem_cons_self, registered⟩
        · exact before known
      · split at known
        · rename_i task' id' answer pending response
          apply before
          rw [pending]
          split at known <;> exact known
        · exact before known

theorem response?_of_registered
    {transition : Transition} {entry : TaskId × Nat}
    (registered : transition.registered? = some entry) : transition.response? = none := by
  unfold Transition.response?
  split
  · rename_i isRead
    simp [Transition.registered?, isRead, Action.task?] at registered
  · rfl

private theorem unanswered_of_pending
    {past : List Transition} {task : TaskId} {id : Nat}
    (pending : ofPast past id = .pending task) :
    ∃ before registration between, past = before ++ registration :: between ∧
      registration.registered? = some (task, id) ∧
        ∀ transition, transition ∈ between → ∀ answer,
          transition.response? ≠ some (id, answer) := by
  induction past using List.reverseRecOn with
  | nil => cases pending
  | append_singleton past last inductionHypothesis =>
      have passOn (pending : ofPast past id = .pending task)
          (noAnswer : ∀ answer, last.response? ≠ some (id, answer)) :
          ∃ before registration between, past ++ [last] = before ++ registration :: between ∧
            registration.registered? = some (task, id) ∧
              ∀ transition, transition ∈ between → ∀ answer,
                transition.response? ≠ some (id, answer) := by
        obtain ⟨before, registration, between, rfl, registered, none⟩ :=
          inductionHypothesis pending
        refine ⟨before, registration, between ++ [last], by simp, registered, ?_⟩
        intro transition member
        rcases List.mem_append.mp member with earlier | isLast
        · exact none transition earlier
        · exact List.mem_singleton.mp isLast ▸ noAnswer
      rw [ofPast_concat] at pending
      unfold next at pending
      split at pending
      · rename_i task' id' registered
        split at pending
        · rename_i sameNumber
          injection pending with sameTask
          subst sameTask sameNumber
          exact ⟨past, last, [], by simp, registered, by simp⟩
        · apply passOn pending
          simp [response?_of_registered registered]
      · rename_i notRegistered
        split at pending
        · rename_i task' id' answer wasPending response
          split at pending
          · cases pending
          · rename_i different
            apply passOn (wasPending.trans pending)
            intro answer' response'
            rw [response] at response'
            injection response' with response'
            exact different (congrArg Prod.fst response')
        · rename_i noAnswer
          apply passOn pending
          intro answer response
          exact noAnswer task id answer pending response

end CallRecord

/-- The first response to a call that was read after the call had registered. -/
def AnsweredIn (past : List Transition) (task : TaskId) (id : Nat) (answer : Answer) : Prop :=
  ∃ before registration between response later,
    past = before ++ registration :: between ++ response :: later ∧
      registration.registered? = some (task, id) ∧
        response.response? = some (id, answer) ∧
          ∀ transition, transition ∈ between → ∀ other,
            transition.response? ≠ some (id, other)

/-- An answer in the record is the first response to the call. -/
theorem CallRecord.answeredIn_of_answered
    {past : List Transition} {task : TaskId} {id : Nat} {answer : Answer}
    (answered : ofPast past id = .answered task answer) : AnsweredIn past task id answer := by
  induction past using List.reverseRecOn with
  | nil => cases answered
  | append_singleton past last inductionHypothesis =>
      have passOn (answered : ofPast past id = .answered task answer) :
          AnsweredIn (past ++ [last]) task id answer := by
        obtain ⟨before, registration, between, response, later, rfl, rest⟩ :=
          inductionHypothesis answered
        exact ⟨before, registration, between, response, later ++ [last], by simp, rest⟩
      rw [ofPast_concat] at answered
      unfold next at answered
      split at answered
      · split at answered
        · cases answered
        · exact passOn answered
      · split at answered
        · rename_i task' id' answer' pending response
          split at answered
          · rename_i sameNumber
            injection answered with sameTask sameAnswer
            subst sameTask sameAnswer sameNumber
            obtain ⟨before, registration, between, rfl, registered, none⟩ :=
              unanswered_of_pending pending
            exact ⟨before, registration, between, last, [], by simp, registered, response, none⟩
          · cases answered
        · exact passOn answered

/-- Where no response is read the record gains no answer. -/
theorem CallRecord.answered_of_append
    {earlier more : List Transition} {task : TaskId} {id : Nat} {answer : Answer}
    (noResponse : ∀ transition, transition ∈ more → transition.response? = none)
    (answered : ofPast (earlier ++ more) id = .answered task answer) :
    ofPast earlier id = .answered task answer := by
  induction more using List.reverseRecOn with
  | nil => simpa using answered
  | append_singleton more last inductionHypothesis =>
      apply inductionHypothesis fun transition member =>
        noResponse transition (List.mem_append_left _ member)
      rw [← List.append_assoc, ofPast_concat,
        noResponse last (List.mem_append_right _ List.mem_cons_self)] at answered
      cases registered : last.registered? with
      | none => rwa [registered, next_none] at answered
      | some entry =>
          rw [registered] at answered
          by_cases same : entry.2 = id
          · simp [next, same] at answered
          · rwa [next_registered_of_ne same] at answered

namespace Run

variable {client : Client} {session : Session} {past : List Transition}

/-- The answer that a call finds in its mailbox is the first response to it. -/
theorem answeredIn_of_full
    {task : TaskId} {id : Nat} {answer : Answer} (run : Run (Session.connect client) past session)
    (fresh : client.calls = .empty) (number : session.callId? task = some id)
    (full : session.client.calls.mailbox? id = some (.full answer)) :
    AnsweredIn past task id answer := by
  have agrees := (run.callInvariant fresh).agrees task id number
  generalize recordEq : CallRecord.ofPast past id = record at agrees
  cases agrees with
  | waiting _ _ empty => cases empty.symm.trans full
  | cutOff _ closed => cases closed.symm.trans full
  | answered answer' full' =>
      injection full'.symm.trans full with sameMailbox
      injection sameMailbox with sameAnswer
      exact CallRecord.answeredIn_of_answered (sameAnswer ▸ recordEq)

/-- Behind a registration nobody registers under the number again. -/
theorem registered_once
    {before later : List Transition} {registration : Transition} {task : TaskId} {id : Nat}
    (run : Run (Session.connect client) (before ++ registration :: later) session)
    (fresh : client.calls = .empty) (registered : registration.registered? = some (task, id)) :
    ∀ transition, transition ∈ later → ∀ other, transition.registered? ≠ some (other, id) := by
  intro transition member other registered'
  obtain ⟨first, second, rfl⟩ := List.append_of_mem member
  have run' : Run (Session.connect client)
      ((before ++ registration :: first) ++ transition :: second) session := by
    simpa using run
  obtain ⟨runThen, applied⟩ := run'.before_transition
  have unissued := runThen.unissued_of_registered fresh applied registered'
  exact CallRecord.ofPast_ne_unissued (by simp) registered unissued

private theorem pending_append
    {earlier more : List Transition} {task : TaskId} {id : Nat}
    (pending : CallRecord.ofPast earlier id = .pending task)
    (notRegistered : ∀ transition, transition ∈ more → ∀ other,
      transition.registered? ≠ some (other, id))
    (notAnswered : ∀ transition, transition ∈ more → ∀ answer,
      transition.response? ≠ some (id, answer)) :
    CallRecord.ofPast (earlier ++ more) id = .pending task := by
  induction more using List.reverseRecOn with
  | nil => simpa using pending
  | append_singleton more last inductionHypothesis =>
      have pending' := inductionHypothesis
        (fun transition member => notRegistered transition (List.mem_append_left _ member))
        (fun transition member => notAnswered transition (List.mem_append_left _ member))
      have isLast : last ∈ more ++ [last] := List.mem_append_right _ List.mem_cons_self
      rw [← List.append_assoc, CallRecord.ofPast_concat, pending']
      cases registered : last.registered? with
      | some entry =>
          apply CallRecord.next_registered_of_ne
          rintro rfl
          exact notRegistered last isLast entry.1 registered
      | none =>
          cases response : last.response? with
          | none => rfl
          | some entry =>
              apply CallRecord.next_response_of_ne
              rintro rfl
              exact notAnswered last isLast entry.2 response

private theorem answered_append
    {earlier more : List Transition} {task : TaskId} {id : Nat} {answer : Answer}
    (answered : CallRecord.ofPast earlier id = .answered task answer)
    (notRegistered : ∀ transition, transition ∈ more → ∀ other,
      transition.registered? ≠ some (other, id)) :
    CallRecord.ofPast (earlier ++ more) id = .answered task answer := by
  induction more using List.reverseRecOn with
  | nil => simpa using answered
  | append_singleton more last inductionHypothesis =>
      have answered' := inductionHypothesis
        fun transition member => notRegistered transition (List.mem_append_left _ member)
      have isLast : last ∈ more ++ [last] := List.mem_append_right _ List.mem_cons_self
      rw [← List.append_assoc, CallRecord.ofPast_concat, answered']
      cases registered : last.registered? with
      | some entry =>
          apply CallRecord.next_registered_of_ne
          rintro rfl
          exact notRegistered last isLast entry.1 registered
      | none => rfl

/-- The first response to a call is the answer in the record. -/
theorem answered_of_answeredIn
    {task : TaskId} {id : Nat} {answer : Answer}
    (run : Run (Session.connect client) past session) (fresh : client.calls = .empty)
    (answeredIn : AnsweredIn past task id answer) :
    CallRecord.ofPast past id = .answered task answer := by
  obtain ⟨before, registration, between, response, later, rfl, registered, responds, none⟩ :=
    answeredIn
  rw [List.append_assoc, List.cons_append] at run
  have once := run.registered_once fresh registered
  have pendingThen : CallRecord.ofPast (before ++ [registration]) id = .pending task := by
    rw [CallRecord.ofPast_concat, registered]
    simp [CallRecord.next]
  have pending : CallRecord.ofPast (before ++ registration :: between) id = .pending task := by
    have pending := pending_append pendingThen
      (fun transition member => once transition (List.mem_append_left _ member)) none
    simpa using pending
  have answeredThen :
      CallRecord.ofPast (before ++ registration :: between ++ [response]) id =
        .answered task answer := by
    have notRegistered : response.registered? = Option.none := by
      cases registered' : response.registered? with
      | none => rfl
      | some entry =>
          rw [CallRecord.response?_of_registered registered'] at responds
          cases responds
    rw [CallRecord.ofPast_concat, pending, notRegistered, responds]
    simp [CallRecord.next]
  have answered := answered_append answeredThen fun transition member =>
    once transition (List.mem_append_right _ (List.mem_cons_of_mem _ member))
  simpa using answered

end Run

end LanguageClient
