import LanguageClient.PendingCalls

/-!
# The table of calls

What each operation on the table of calls does to the calls that wait and to the
mailboxes.  An operation on one call leaves the others alone.
-/

namespace LanguageClient.PendingCalls

variable (calls : PendingCalls)

/-! ## Changes of one mailbox -/

theorem mailbox?_changeMailbox (id other : Nat) (change : Mailbox → Mailbox) :
    (calls.changeMailbox id change).mailbox? other =
      if other = id then (calls.mailbox? id).map change else calls.mailbox? other := by
  unfold mailbox? changeMailbox
  induction calls.mailboxes with
  | nil => simp
  | cons entry entries inductionHypothesis =>
      by_cases sameEntry : entry.1 = id
      · by_cases sameId : other = id
        · subst sameId
          simp [sameEntry]
        · simpa [sameEntry, sameId, Ne.symm sameId] using inductionHypothesis
      · by_cases sameId : other = id
        · subst sameId
          simpa [sameEntry] using inductionHypothesis
        · by_cases found : entry.1 = other
          · simp [sameId, found]
          · simpa [sameEntry, sameId, found] using inductionHypothesis

theorem mailbox?_dropReceiver (id other : Nat) :
    (calls.dropReceiver id).2.mailbox? other =
      if other = id then none else calls.mailbox? other := by
  unfold mailbox? dropReceiver
  dsimp only
  induction calls.mailboxes with
  | nil => simp
  | cons entry entries inductionHypothesis =>
      by_cases sameEntry : entry.1 = id
      · by_cases sameId : other = id
        · subst sameId
          simp [sameEntry]
        · simpa [sameEntry, sameId, Ne.symm sameId] using inductionHypothesis
      · by_cases found : entry.1 = other
        · have different : other ≠ id := fun same => sameEntry (found.trans same)
          simp [found, different]
        · simpa [sameEntry, found] using inductionHypothesis

/-! ## Registration -/

theorem register_eq_some_iff (id : Nat) (after : PendingCalls) :
    calls.register = some (id, after) ↔
      calls.isClosed = false ∧ id = calls.nextId ∧
        after = ⟨id + 1, false, id :: calls.waiting, id :: calls.guards,
          (id, .empty) :: calls.mailboxes⟩ := by
  unfold register
  cases calls.isClosed with
  | true => simp
  | false =>
      simp only [Bool.false_eq_true, if_false, Option.some.injEq, Prod.mk.injEq, true_and]
      constructor
      · rintro ⟨rfl, rfl⟩
        exact ⟨rfl, rfl⟩
      · rintro ⟨rfl, rfl⟩
        exact ⟨rfl, rfl⟩

theorem register_eq_none_iff : calls.register = none ↔ calls.isClosed = true := by
  unfold register
  cases calls.isClosed <;> simp

/-! ## Answers -/

theorem complete_of_not_waiting {id : Nat} (notWaiting : id ∉ calls.waiting) (answer : Answer) :
    (calls.complete id answer).2 = calls := by
  simp [complete, notWaiting]

theorem complete_of_waiting {id : Nat} (waits : id ∈ calls.waiting) (answer : Answer) :
    (calls.complete id answer).2 =
      (calls.stopWaiting id).changeMailbox id fun _ => .full answer := by
  simp [complete, waits]

@[simp]
theorem nextId_complete (id : Nat) (answer : Answer) :
    (calls.complete id answer).2.nextId = calls.nextId := by
  unfold complete
  split <;> rfl

@[simp]
theorem isClosed_complete (id : Nat) (answer : Answer) :
    (calls.complete id answer).2.isClosed = calls.isClosed := by
  unfold complete
  split <;> rfl

theorem mem_waiting_stopWaiting (id other : Nat) :
    other ∈ (calls.stopWaiting id).waiting ↔ other ∈ calls.waiting ∧ other ≠ id := by
  simp [stopWaiting]

/-! ## Giving up -/

@[simp]
theorem nextId_dropGuard (id : Nat) : (calls.dropGuard id).2.nextId = calls.nextId := by
  unfold dropGuard
  split <;> rfl

@[simp]
theorem isClosed_dropGuard (id : Nat) : (calls.dropGuard id).2.isClosed = calls.isClosed := by
  unfold dropGuard
  split <;> rfl

theorem mailbox?_abandon (id other : Nat) :
    (calls.abandon id).mailbox? other =
      if other = id then none else calls.mailbox? other := by
  unfold abandon
  rw [mailbox?_dropReceiver]
  by_cases same : other = id
  · simp [same]
  · rw [if_neg same, if_neg same]
    unfold dropGuard
    split
    · dsimp only
      rw [mailbox?_changeMailbox, if_neg same]
      rfl
    · rfl

theorem mem_waiting_abandon {id : Nat} (guarded : id ∈ calls.guards) (other : Nat) :
    other ∈ (calls.abandon id).waiting ↔ other ∈ calls.waiting ∧ other ≠ id := by
  simp [abandon, dropGuard, dropReceiver, guarded, changeMailbox, stopWaiting]

theorem mem_guards_abandon (id other : Nat) :
    other ∈ (calls.abandon id).guards ↔ other ∈ calls.guards ∧ other ≠ id := by
  unfold abandon dropGuard dropReceiver
  by_cases guarded : id ∈ calls.guards
  · simp [guarded, changeMailbox, stopWaiting]
  · rw [if_neg (by simpa using guarded)]
    constructor
    · intro member
      exact ⟨member, fun same => guarded (same ▸ member)⟩
    · exact fun member => member.1

@[simp]
theorem nextId_abandon (id : Nat) : (calls.abandon id).nextId = calls.nextId :=
  calls.nextId_dropGuard id

@[simp]
theorem isClosed_abandon (id : Nat) : (calls.abandon id).isClosed = calls.isClosed :=
  calls.isClosed_dropGuard id

/-! ## Closing the table -/

theorem mailbox?_close (id : Nat) :
    calls.close.2.mailbox? id = (calls.mailbox? id).map Mailbox.close := by
  unfold mailbox? close
  dsimp only
  induction calls.mailboxes with
  | nil => rfl
  | cons entry entries inductionHypothesis =>
      by_cases found : entry.1 = id
      · simp [found]
      · simpa [found] using inductionHypothesis

end LanguageClient.PendingCalls
