import LanguageClient.Proofs.Calls.Entry
import Mathlib.Data.List.Induction
import Mathlib.Data.List.Nodup

/-!
# The table of calls and its past

Whatever is done with a table of calls, one command after the other, its past tells what
the next command returns: which calls an answer is delivered to, what a mailbox holds, and
how many calls are given up when the table is closed.
-/

namespace LanguageClient.PendingCalls

/-! ## Events that last -/

/-- Whether an event has happened and no command that breaks it has come since. -/
def Lasts (past : List Event) (event : Event) (breaks : Command → Prop) : Prop :=
  ∃ earlier later, past = earlier ++ event :: later ∧ ∀ other, other ∈ later → ¬ breaks other.1

section Lasting

variable {past : List Event} {event last : Event} {breaks breaks' : Command → Prop}

theorem not_lasts_nil : ¬ Lasts [] event breaks := by
  rintro ⟨earlier, later, same, _⟩
  exact List.append_ne_nil_of_right_ne_nil _ (List.cons_ne_nil _ _) same.symm

theorem lasts_concat_iff :
    Lasts (past ++ [last]) event breaks ↔
      last = event ∨ Lasts past event breaks ∧ ¬ breaks last.1 := by
  constructor
  · rintro ⟨earlier, later, same, intact⟩
    rcases List.eq_nil_or_concat' later with rfl | ⟨later, last', rfl⟩
    · exact Or.inl (List.append_inj_right' same rfl |> List.head_eq_of_cons_eq)
    · rw [← List.cons_append, ← List.append_assoc] at same
      obtain ⟨rfl, sameLast⟩ := List.append_inj' same rfl
      obtain rfl := List.head_eq_of_cons_eq sameLast
      exact Or.inr ⟨⟨earlier, later, rfl, fun other member =>
        intact other (List.mem_append_left _ member)⟩,
        intact last (List.mem_append_right _ List.mem_cons_self)⟩
  · rintro (rfl | ⟨⟨earlier, later, rfl, intact⟩, unbroken⟩)
    · exact ⟨past, [], rfl, nofun⟩
    · refine ⟨earlier, later ++ [last], by simp, fun other member => ?_⟩
      rcases List.mem_append.mp member with isOld | isLast
      · exact intact other isOld
      · exact List.mem_singleton.mp isLast ▸ unbroken

theorem Lasts.mem (lasts : Lasts past event breaks) : event ∈ past := by
  obtain ⟨_, _, rfl, _⟩ := lasts
  exact List.mem_append_right _ List.mem_cons_self

theorem lasts_or_iff :
    Lasts past event (fun command => breaks command ∨ breaks' command) ↔
      Lasts past event breaks ∧ Lasts past event breaks' := by
  induction past using List.reverseRecOn with
  | nil => exact iff_of_false not_lasts_nil fun both => not_lasts_nil both.1
  | append_singleton past last inductionHypothesis =>
      rw [lasts_concat_iff, lasts_concat_iff, lasts_concat_iff, inductionHypothesis]
      tauto

end Lasting

/-! ## What the past tells of a table -/

structure Record where
  past : List Event
  calls : PendingCalls

def Record.extend (record : Record) (command : Command) : Record where
  past := record.past ++ [record.calls.event command]
  calls := (record.calls.perform command).2

/-- The record of commands that are carried out one after the other on a new table. -/
def record (commands : List Command) : Record := commands.foldl .extend ⟨[], .empty⟩

theorem record_concat (commands : List Command) (command : Command) :
    record (commands ++ [command]) = (record commands).extend command := by
  rw [record, List.foldl_append]
  rfl

/-- Whether nothing was taken from the mailbox of a call, or one answer that was delivered
to the call, and nothing will be delivered to it any more. -/
def HasTakenOnce (past : List Event) (calls : PendingCalls) (id : Nat) : Prop :=
  past.filterMap (taken? id) = [] ∨
    id < calls.nextId ∧ (calls.entry id).waits = false ∧
      (∀ answer, (calls.entry id).mailbox ≠ some (.full answer)) ∧
        ∃ answer, delivery id answer ∈ past ∧ past.filterMap (taken? id) = [answer]

structure Tracks (past : List Event) (calls : PendingCalls) : Prop where
  numbers : ∃ count, calls.nextId = count + 1 ∧ past.filterMap number? = List.range' 1 count
  isClosed : calls.isClosed = true ↔ .close ∈ past.map Prod.fst
  nodup : calls.waiting.Nodup
  sound : ∀ id, (calls.entry id).IsSound
  blank : ∀ id, calls.nextId ≤ id → calls.entry id = .blank
  waits : ∀ id, (calls.entry id).waits = true ↔
    Lasts past (registration id) fun command => command.Completes id ∨ command.GivesUp id
  held : ∀ id, (calls.entry id).mailbox.isSome = true ↔
    Lasts past (registration id) (· = .dropReceiver id)
  full : ∀ id answer, (calls.entry id).mailbox = some (.full answer) ↔
    Lasts past (delivery id answer) (Command.Empties id)
  unanswered : ∀ id answer, Lasts past (registration id) (Command.Completes id) →
    (calls.entry id).mailbox ≠ some (.full answer)
  taken : ∀ id, HasTakenOnce past calls id

theorem Tracks.empty : Tracks [] .empty where
  numbers := ⟨0, rfl, rfl⟩
  isClosed := iff_of_false nofun nofun
  nodup := List.nodup_nil
  sound := fun _ => ⟨nofun, nofun⟩
  blank := fun _ _ => rfl
  waits := fun _ => iff_of_false nofun not_lasts_nil
  held := fun _ => iff_of_false nofun not_lasts_nil
  full := fun _ _ => iff_of_false nofun not_lasts_nil
  unanswered := fun _ _ lasts => absurd lasts not_lasts_nil
  taken := fun _ => Or.inl rfl

namespace Tracks

variable {past : List Event} {calls : PendingCalls}

theorem blank_of_registration
    (tracks : Tracks past calls) {command : Command} {id : Nat}
    (isRegistration : calls.event command = registration id) :
    calls.entry id = .blank := by
  obtain ⟨_, _, rfl⟩ := (calls.event_eq_registration_iff command id).mp isRegistration
  exact tracks.blank _ (Nat.le_refl _)

/-- An answer is in the mailbox of a call from its delivery until it is taken. -/
theorem full_perform
    (tracks : Tracks past calls) (command : Command) (id : Nat) (answer : Answer) :
    ((calls.perform command).2.entry id).mailbox = some (.full answer) ↔
      calls.event command = delivery id answer ∨
        (calls.entry id).mailbox = some (.full answer) ∧ ¬ command.Empties id := by
  rw [entry_perform]
  by_cases isRegistration : calls.event command = registration id
  · have isBlank := tracks.blank_of_registration isRegistration
    rw [isRegistration, Entry.after_registration, isBlank]
    simp [Entry.fresh, Entry.blank, registration, delivery]
  · exact Entry.full_mailbox_after (tracks.sound id) isRegistration
      (calls.event_eq_delivery_iff command id answer)

theorem numbers_perform (tracks : Tracks past calls) (command : Command) :
    ∃ count, (calls.perform command).2.nextId = count + 1 ∧
      (past ++ [calls.event command]).filterMap number? = List.range' 1 count := by
  obtain ⟨count, next, numbers⟩ := tracks.numbers
  rcases calls.number?_perform command with ⟨isNumber, next'⟩ | ⟨noNumber, next'⟩
  · refine ⟨count + 1, by rw [next', next], ?_⟩
    rw [List.filterMap_append, numbers, List.range'_1_concat, List.filterMap_cons, isNumber, next,
      Nat.add_comm 1 count]
    rfl
  · refine ⟨count, next'.trans next, ?_⟩
    rw [List.filterMap_append, numbers, List.filterMap_cons, noNumber]
    exact List.append_nil _

theorem blank_perform
    (tracks : Tracks past calls) {command : Command} {id : Nat}
    (isNew : (calls.perform command).2.nextId ≤ id) :
    (calls.perform command).2.entry id = .blank := by
  have next := calls.number?_perform command
  have notRegistration : calls.event command ≠ registration id := by
    intro isRegistration
    rcases next with ⟨_, next⟩ | ⟨noNumber, _⟩
    · obtain ⟨_, _, rfl⟩ := (calls.event_eq_registration_iff command id).mp isRegistration
      omega
    · rw [isRegistration] at noNumber
      cases noNumber
  rw [entry_perform, tracks.blank id (by omega), Entry.after_blank notRegistration]

theorem waits_perform
    (tracks : Tracks past calls) (command : Command) (id : Nat) :
    ((calls.perform command).2.entry id).waits = true ↔
      calls.event command = registration id ∨
        (calls.entry id).waits = true ∧ ¬ (command.Completes id ∨ command.GivesUp id) := by
  rw [entry_perform, Entry.waits_after (tracks.sound id), event_fst]

theorem lt_nextId_of_mailbox
    (tracks : Tracks past calls) {id : Nat} {mailbox : Mailbox}
    (held : (calls.entry id).mailbox = some mailbox) : id < calls.nextId := by
  by_contra isNew
  rw [tracks.blank id (Nat.not_lt.mp isNew)] at held
  cases held

/-- A call that was registered before is spent when it neither waits nor has an answer in
its mailbox. -/
theorem isSpent_perform
    (tracks : Tracks past calls) {id : Nat} (isOld : id < calls.nextId)
    (notWaiting : (calls.entry id).waits = false) (command : Command)
    (isEmptied : ∀ answer, (calls.entry id).mailbox = some (.full answer) → command.Empties id) :
    id < (calls.perform command).2.nextId ∧
      ((calls.perform command).2.entry id).waits = false ∧
        ∀ answer, ((calls.perform command).2.entry id).mailbox ≠ some (.full answer) := by
  refine ⟨?_, ?_, fun answer isFull => ?_⟩
  · have next := calls.number?_perform command
    omega
  · refine Bool.eq_false_iff.mpr fun waits => ?_
    rcases (tracks.waits_perform command id).mp waits with isRegistration | ⟨waits, _⟩
    · obtain ⟨_, _, rfl⟩ := (calls.event_eq_registration_iff command id).mp isRegistration
      exact Nat.lt_irrefl _ isOld
    · exact Bool.eq_false_iff.mp notWaiting waits
  · rcases (tracks.full_perform command id answer).mp isFull with isDelivery | ⟨isFull, kept⟩
    · obtain ⟨_, waits, _⟩ := (calls.event_eq_delivery_iff command id answer).mp isDelivery
      exact Bool.eq_false_iff.mp notWaiting waits
    · exact kept (isEmptied answer isFull)

/-- What was taken from a mailbox is not delivered again. -/
theorem hasTakenOnce_perform
    (tracks : Tracks past calls) (command : Command) (id : Nat) :
    HasTakenOnce (past ++ [calls.event command]) (calls.perform command).2 id := by
  unfold HasTakenOnce
  rw [List.filterMap_append]
  cases taken : taken? id (calls.event command) with
  | none =>
      rcases tracks.taken id with nothing | ⟨isOld, notWaiting, notFull, answer, delivered, once⟩
      · exact Or.inl (by simp [nothing, taken])
      · obtain ⟨isOld, notWaiting, notFull⟩ := tracks.isSpent_perform isOld notWaiting command
          fun answer isFull => absurd isFull (notFull answer)
        exact Or.inr ⟨isOld, notWaiting, notFull, answer, List.mem_append_left _ delivered,
          by simp [once, taken]⟩
  | some answer =>
      obtain ⟨rfl, isFull⟩ := (calls.taken?_event_eq_some_iff command id answer).mp taken
      have notWaiting : (calls.entry id).waits = false := Bool.eq_false_iff.mpr fun waits =>
        nomatch ((tracks.sound id).empty_iff _ isFull).mpr waits
      rcases tracks.taken id with nothing | ⟨_, _, notFull, _⟩
      · obtain ⟨isOld, notWaiting, notFull⟩ := tracks.isSpent_perform
          (tracks.lt_nextId_of_mailbox isFull) notWaiting (.poll id) fun _ _ => rfl
        have delivered := ((tracks.full id answer).mp isFull).mem
        exact Or.inr ⟨isOld, notWaiting, notFull, answer, List.mem_append_left _ delivered,
          by simp [nothing, taken]⟩
      · exact absurd isFull (notFull answer)

theorem perform (tracks : Tracks past calls) (command : Command) :
    Tracks (past ++ [calls.event command]) (calls.perform command).2 where
  numbers := tracks.numbers_perform command
  isClosed := by
    rw [isClosed_perform, tracks.isClosed]
    simp [eq_comm]
  nodup := by
    refine calls.nodup_waiting_perform tracks.nodup (fun isWaiting => ?_) command
    have waits := congrArg Entry.waits (tracks.blank _ (Nat.le_refl _))
    simp [entry, isWaiting, Entry.blank] at waits
  sound := fun id => by
    rw [entry_perform]
    exact (tracks.sound id).after id _
  blank := fun _ => tracks.blank_perform
  waits := fun id => by
    rw [tracks.waits_perform command id, lasts_concat_iff, tracks.waits id, event_fst]
  held := fun id => by
    rw [entry_perform, Entry.isSome_mailbox_after, lasts_concat_iff, tracks.held id]
  full := fun id answer => by
    rw [tracks.full_perform command id answer, lasts_concat_iff, tracks.full id answer, event_fst]
  unanswered := by
    intro id answer lasts isFull
    rcases lasts_concat_iff.mp lasts with isRegistration | ⟨lasts, notCompleted⟩
    · rw [entry_perform, isRegistration, Entry.after_registration] at isFull
      cases isFull
    · rcases (tracks.full_perform command id answer).mp isFull with isDelivery | ⟨isFull, _⟩
      · obtain rfl : command = .complete id answer := congrArg Prod.fst isDelivery
        exact notCompleted rfl
      · exact tracks.unanswered id answer lasts isFull
  taken := tracks.hasTakenOnce_perform command

end Tracks

theorem tracks_record (commands : List Command) :
    Tracks (record commands).past (record commands).calls := by
  induction commands using List.reverseRecOn with
  | nil => exact .empty
  | append_singleton commands command inductionHypothesis =>
      rw [record_concat]
      exact inductionHypothesis.perform command

/-! ## The next command -/

/-- What every command returns next is told by the past.  A call waits from its
registration until an answer comes for it or it is given up, which closing the table does
to all of them; the answer is delivered if somebody still looks into the mailbox, and can be
taken once. -/
structure ObeysPast (past : List Event) (calls : PendingCalls) : Prop where
  numbers : ∃ count, past.filterMap number? = List.range' 1 count ∧
    (.close ∉ past.map Prod.fst →
      (calls.perform .register).1 = .registered (some (count + 1)))
  closed : .close ∈ past.map Prod.fst → calls.perform .register = (.registered none, calls)
  completed : ∀ id answer, (calls.complete id answer).1 = true ↔
    Lasts past (registration id) fun command =>
      command.Completes id ∨ command.GivesUp id ∨ command = .dropReceiver id
  undelivered : ∀ id answer, (calls.complete id answer).1 = false →
    (calls.complete id answer).2 = { calls with waiting := calls.waiting.filter (· ≠ id) }
  looksInto : ∀ id, (calls.poll id).1.isSome = true ↔
    Lasts past (registration id) (· = .dropReceiver id)
  delivered : ∀ id answer, (calls.poll id).1 = some (.full answer) ↔
    Lasts past (delivery id answer) (Command.Empties id)
  once : ∀ id, past.filterMap (taken? id) = [] ∨
    ∃ answer, delivery id answer ∈ past ∧ past.filterMap (taken? id) = [answer]
  uncompleted : ∀ id,
    Lasts past (registration id)
      (fun command => command.Completes id ∨ command = .dropReceiver id) →
    (calls.poll id).1 = some .empty ∧ Lasts past (registration id) (Command.GivesUp id) ∨
      (calls.poll id).1 = some .closed ∧ ¬ Lasts past (registration id) (Command.GivesUp id)
  drained : ∃ ids : List Nat, ids.Nodup ∧ calls.close.1 = ids.length ∧
    ∀ id, id ∈ ids ↔
      Lasts past (registration id) fun command => command.Completes id ∨ command.GivesUp id

section Tracked

variable {past : List Event} {calls : PendingCalls}

theorem changeMailbox_of_mailbox?_eq_none
    (calls : PendingCalls) {id : Nat} (noMailbox : calls.mailbox? id = none)
    (change : Mailbox → Mailbox) :
    calls.changeMailbox id change = calls := by
  have others : ∀ entry, entry ∈ calls.mailboxes → entry.1 ≠ id := fun entry member same =>
    List.find?_eq_none.mp (Option.map_eq_none_iff.mp noMailbox) entry member (decide_eq_true same)
  obtain ⟨nextId, isClosed, waiting, guards, mailboxes⟩ := calls
  simp only [changeMailbox, mk.injEq, true_and]
  refine (List.map_congr_left fun entry member => ?_).trans (List.map_id _)
  exact if_neg (others entry member)

theorem complete_undelivered
    (id : Nat) (answer : Answer) (undelivered : (calls.complete id answer).1 = false) :
    (calls.complete id answer).2 = { calls with waiting := calls.waiting.filter (· ≠ id) } := by
  by_cases waits : id ∈ calls.waiting
  · have noMailbox : calls.mailbox? id = none := by
      simpa [complete, waits] using undelivered
    rw [complete_of_waiting calls waits]
    exact (calls.stopWaiting id).changeMailbox_of_mailbox?_eq_none noMailbox _
  · have same : calls.waiting.filter (· ≠ id) = calls.waiting :=
      List.filter_eq_self.mpr fun other isWaiting =>
        decide_eq_true fun isCall => waits (isCall ▸ isWaiting)
    rw [complete_of_not_waiting calls waits, same]

theorem Tracks.reads_uncompleted
    (tracks : Tracks past calls) {id : Nat}
    (lasts : Lasts past (registration id) fun command =>
      command.Completes id ∨ command = .dropReceiver id) :
    (calls.poll id).1 = some .empty ∧ Lasts past (registration id) (Command.GivesUp id) ∨
      (calls.poll id).1 = some .closed ∧ ¬ Lasts past (registration id) (Command.GivesUp id) := by
  obtain ⟨uncompleted, notDropped⟩ := lasts_or_iff.mp lasts
  obtain ⟨mailbox, held⟩ := Option.isSome_iff_exists.mp ((tracks.held id).mpr notDropped)
  have empty_iff := (tracks.sound id).empty_iff mailbox held
  rw [tracks.waits id, lasts_or_iff, and_iff_right uncompleted] at empty_iff
  rw [poll_fst, held, ← empty_iff]
  cases mailbox with
  | empty => exact Or.inl ⟨rfl, rfl⟩
  | full answer => exact absurd held (tracks.unanswered id answer uncompleted)
  | closed => exact Or.inr ⟨rfl, nofun⟩

theorem Tracks.register_of_open
    (tracks : Tracks past calls) (notClosed : .close ∉ past.map Prod.fst) :
    (calls.perform .register).1 = .registered (some calls.nextId) := by
  have isOpen : calls.isClosed = false :=
    Bool.eq_false_iff.mpr fun isClosed => notClosed (tracks.isClosed.mp isClosed)
  rw [calls.perform_register_of_open isOpen]

end Tracked

/-- Whatever commands a new table has carried out, it obeys its past. -/
theorem obeysPast (commands : List Command) :
    ObeysPast (record commands).past (record commands).calls := by
  have tracks := tracks_record commands
  obtain ⟨count, next, numbers⟩ := tracks.numbers
  exact {
    numbers := ⟨count, numbers, fun notClosed => next ▸ tracks.register_of_open notClosed⟩
    closed := fun hasClosed => perform_register_of_closed _ (tracks.isClosed.mpr hasClosed)
    completed := by
      intro id answer
      rw [complete_fst_iff, tracks.waits id, tracks.held id, ← lasts_or_iff]
      simp only [or_assoc]
    undelivered := complete_undelivered
    looksInto := fun id => by rw [poll_fst, tracks.held id]
    delivered := fun id answer => by rw [poll_fst, tracks.full id answer]
    once := fun id => (tracks.taken id).imp_right fun ⟨_, _, _, once⟩ => once
    uncompleted := fun id => tracks.reads_uncompleted
    drained := by
      refine ⟨_, tracks.nodup, rfl, fun id => ?_⟩
      rw [← tracks.waits id]
      exact List.contains_iff_mem.symm }

/-- A call whose receiver was dropped waits as long as its guard is held. -/
example :
    (record [.register, .register, .register, .dropReceiver 1, .complete 1 (.ok .null),
        .dropReceiver 2, .complete 3 (.ok .null), .poll 3, .poll 3, .close, .register]).past.map
          Prod.snd =
      [.registered (some 1), .registered (some 2), .registered (some 3), .dropped true,
        .completed false, .dropped true, .completed true, .polled (some (.full (.ok .null))),
        .polled (some .closed), .closed 1, .registered none] := by
  decide

end LanguageClient.PendingCalls
