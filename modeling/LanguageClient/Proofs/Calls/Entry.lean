import LanguageClient.Proofs.Calls.Table

/-!
# Commands on a table of calls

What can be done with a table of calls, what it returns, and what it makes of each call in
the table.  Every command changes the entry of one call, or of all calls in the same way.
-/

namespace LanguageClient.PendingCalls

/-! ## Commands and what they return -/

inductive Command where
  | register
  | complete (id : Nat) (answer : Answer)
  | dropGuard (id : Nat)
  | dropReceiver (id : Nat)
  | close
  | poll (id : Nat)
deriving DecidableEq

inductive Reply where
  | registered (id : Option Nat)
  | completed (isDelivered : Bool)
  | dropped (wasHeld : Bool)
  | closed (drained : Nat)
  | polled (held : Option Mailbox)
deriving DecidableEq

abbrev Event := Command × Reply

def registration (id : Nat) : Event := (.register, .registered (some id))

def perform (calls : PendingCalls) : Command → Reply × PendingCalls
  | .register =>
      match calls.register with
      | some (id, after) => (.registered (some id), after)
      | none => (.registered none, calls)
  | .complete id answer =>
      let (isDelivered, after) := calls.complete id answer
      (.completed isDelivered, after)
  | .dropGuard id =>
      let (wasHeld, after) := calls.dropGuard id
      (.dropped wasHeld, after)
  | .dropReceiver id =>
      let (wasHeld, after) := calls.dropReceiver id
      (.dropped wasHeld, after)
  | .close =>
      let (drained, after) := calls.close
      (.closed drained, after)
  | .poll id =>
      let (held, after) := calls.poll id
      (.polled held, after)

theorem perform_register_of_open
    (calls : PendingCalls) (isOpen : calls.isClosed = false) :
    calls.perform .register =
      (.registered (some calls.nextId),
        ⟨calls.nextId + 1, false, calls.nextId :: calls.waiting, calls.nextId :: calls.guards,
          (calls.nextId, .empty) :: calls.mailboxes⟩) := by
  simp [perform, register, isOpen]

theorem perform_register_of_closed
    (calls : PendingCalls) (isClosed : calls.isClosed = true) :
    calls.perform .register = (.registered none, calls) := by
  simp [perform, register, isClosed]

def event (calls : PendingCalls) (command : Command) : Event :=
  (command, (calls.perform command).1)

@[simp]
theorem event_fst (calls : PendingCalls) (command : Command) : (calls.event command).1 = command :=
  rfl

/-! ## One call in a table -/

structure Entry where
  waits : Bool
  isGuarded : Bool
  mailbox : Option Mailbox

namespace Entry

/-- The entry of a call that has not been registered. -/
def blank : Entry := ⟨false, false, none⟩

/-- The entry of a call that has just been registered. -/
def fresh : Entry := ⟨true, true, some .empty⟩

def polled : Mailbox → Mailbox
  | .full _ => .closed
  | mailbox => mailbox

def after (id : Nat) (event : Event) (entry : Entry) : Entry :=
  if event = registration id then fresh
  else
    match event.1 with
    | .register => entry
    | .complete id' answer =>
        if id' = id ∧ entry.waits then
          { entry with waits := false, mailbox := entry.mailbox.map fun _ => .full answer }
        else entry
    | .dropGuard id' =>
        if id' = id ∧ entry.isGuarded then ⟨false, false, entry.mailbox.map .close⟩ else entry
    | .dropReceiver id' => if id' = id then { entry with mailbox := none } else entry
    | .close => { entry with waits := false, mailbox := entry.mailbox.map .close }
    | .poll id' =>
        if id' = id then { entry with mailbox := entry.mailbox.map polled } else entry

/-- Whether a guard holds the entry of a call that waits, and its mailbox is empty just as
long as it waits. -/
structure IsSound (entry : Entry) : Prop where
  guarded : entry.waits = true → entry.isGuarded = true
  empty_iff : ∀ mailbox, entry.mailbox = some mailbox → (mailbox = .empty ↔ entry.waits = true)

end Entry

def entry (calls : PendingCalls) (id : Nat) : Entry where
  waits := calls.waiting.contains id
  isGuarded := calls.guards.contains id
  mailbox := calls.mailbox? id

section Entries

variable (calls : PendingCalls) (id other : Nat)

theorem entry_stopWaiting_changeMailbox (change : Mailbox → Mailbox) :
    ((calls.stopWaiting id).changeMailbox id change).entry other =
      if id = other then ⟨false, calls.guards.contains id, (calls.mailbox? id).map change⟩
      else calls.entry other := by
  have mailboxes := (calls.stopWaiting id).mailbox?_changeMailbox id other change
  have guards : ((calls.stopWaiting id).changeMailbox id change).guards = calls.guards := rfl
  have waiting : ((calls.stopWaiting id).changeMailbox id change).waiting =
      calls.waiting.filter (· ≠ id) := rfl
  rw [entry, mailboxes, guards, waiting]
  by_cases same : id = other
  · subst same
    simp [mailbox?, stopWaiting]
  · simp [entry, mailbox?, stopWaiting, same, Ne.symm same]

theorem entry_complete (answer : Answer) :
    (calls.complete id answer).2.entry other =
      if id = other ∧ (calls.entry other).waits then
        { calls.entry other with
          waits := false, mailbox := (calls.entry other).mailbox.map fun _ => .full answer }
      else calls.entry other := by
  by_cases waits : id ∈ calls.waiting
  · rw [complete_of_waiting calls waits, entry_stopWaiting_changeMailbox]
    by_cases same : id = other
    · subst same
      simp [entry, waits]
    · simp [same]
  · rw [complete_of_not_waiting calls waits, if_neg]
    rintro ⟨rfl, isWaiting⟩
    exact waits (by simpa [entry] using isWaiting)

theorem entry_dropGuard :
    (calls.dropGuard id).2.entry other =
      if id = other ∧ (calls.entry other).isGuarded then
        ⟨false, false, (calls.entry other).mailbox.map .close⟩
      else calls.entry other := by
  unfold dropGuard
  by_cases guarded : id ∈ calls.guards
  · rw [if_pos (by simpa using guarded)]
    dsimp only
    rw [entry_stopWaiting_changeMailbox]
    by_cases same : id = other
    · subst same
      simp [entry, guarded, mailbox?]
    · simp [entry, mailbox?, same, Ne.symm same]
  · rw [if_neg (by simpa using guarded), if_neg]
    rintro ⟨rfl, isGuarded⟩
    exact guarded (by simpa [entry] using isGuarded)

theorem entry_dropReceiver :
    (calls.dropReceiver id).2.entry other =
      if id = other then { calls.entry other with mailbox := none } else calls.entry other := by
  have mailboxes := calls.mailbox?_dropReceiver id other
  by_cases same : id = other
  · rw [if_pos same.symm] at mailboxes
    rw [if_pos same, entry, mailboxes]
    rfl
  · rw [if_neg (Ne.symm same)] at mailboxes
    rw [if_neg same, entry, mailboxes]
    rfl

theorem entry_close :
    calls.close.2.entry other =
      { calls.entry other with
        waits := false, mailbox := (calls.entry other).mailbox.map .close } := by
  rw [entry, mailbox?_close]
  rfl

theorem entry_poll :
    (calls.poll id).2.entry other =
      if id = other then
        { calls.entry other with mailbox := (calls.entry other).mailbox.map Entry.polled }
      else calls.entry other := by
  by_cases same : id = other
  · subst same
    rw [if_pos rfl]
    unfold poll
    cases held : calls.mailbox? id with
    | none => simp [entry, held]
    | some mailbox =>
        cases mailbox with
        | full answer =>
            have taken := calls.mailbox?_changeMailbox id id fun _ => .closed
            rw [if_pos rfl] at taken
            rw [entry, taken]
            simp [entry, held, Entry.polled, changeMailbox]
        | empty => simp [entry, held, Entry.polled]
        | closed => simp [entry, held, Entry.polled]
  · rw [if_neg same]
    unfold poll
    split
    · rfl
    · have kept := calls.mailbox?_changeMailbox id other fun _ => .closed
      rw [if_neg (Ne.symm same)] at kept
      rw [entry, kept]
      rfl
    · rfl

/-- A command changes the entry of a call as its event says. -/
theorem entry_perform (command : Command) :
    (calls.perform command).2.entry other =
      (calls.entry other).after other (calls.event command) := by
  cases command with
  | register =>
      unfold event
      cases isClosed : calls.isClosed with
      | true =>
          rw [calls.perform_register_of_closed isClosed]
          simp [Entry.after, registration]
      | false =>
          rw [calls.perform_register_of_open isClosed]
          by_cases same : calls.nextId = other
          · simp [Entry.after, registration, entry, Entry.fresh, mailbox?, same]
          · simp [Entry.after, registration, entry, mailbox?, same, Ne.symm same]
  | complete id answer => exact calls.entry_complete id other answer
  | dropGuard id => exact calls.entry_dropGuard id other
  | dropReceiver id => exact calls.entry_dropReceiver id other
  | close => exact calls.entry_close other
  | poll id => exact calls.entry_poll id other

end Entries

/-! ## What tells of one call -/

def delivery (id : Nat) (answer : Answer) : Event := (.complete id answer, .completed true)

def number? : Event → Option Nat
  | (.register, .registered id) => id
  | _ => none

def taken? (id : Nat) : Event → Option Answer
  | (.poll id', .polled (some (.full answer))) => if id' = id then some answer else none
  | _ => none

namespace Command

@[simp]
def Completes (id : Nat) : Command → Prop
  | .complete id' _ => id' = id
  | _ => False

/-- The commands that give up a call without an answer. -/
@[simp]
def GivesUp (id : Nat) : Command → Prop
  | .dropGuard id' => id' = id
  | .close => True
  | _ => False

/-- The commands that leave no answer in the mailbox of a call. -/
@[simp]
def Empties (id : Nat) : Command → Prop
  | .dropReceiver id' | .poll id' => id' = id
  | _ => False

end Command

section OneCall

variable {entry : Entry} {event : Event} {id : Nat} {answer : Answer}

namespace Entry

@[simp]
theorem close_eq_full_iff {mailbox : Mailbox} :
    mailbox.close = .full answer ↔ mailbox = .full answer := by
  cases mailbox <;> simp [Mailbox.close]

@[simp]
theorem close_ne_empty {mailbox : Mailbox} : mailbox.close ≠ .empty := by
  cases mailbox <;> simp [Mailbox.close]

@[simp]
theorem polled_ne_full {mailbox : Mailbox} : polled mailbox ≠ .full answer := by
  cases mailbox <;> simp [polled]

@[simp]
theorem polled_eq_empty_iff {mailbox : Mailbox} : polled mailbox = .empty ↔ mailbox = .empty := by
  cases mailbox <;> simp [polled]

theorem after_registration : entry.after id (registration id) = fresh :=
  if_pos rfl

theorem isSound_of_not_waiting
    {isGuarded : Bool} {mailbox : Option Mailbox} (notEmpty : mailbox ≠ some .empty) :
    IsSound ⟨false, isGuarded, mailbox⟩ := by
  refine ⟨nofun, fun held isHeld => iff_of_false (fun isEmpty => ?_) nofun⟩
  exact notEmpty (isEmpty ▸ isHeld)

theorem IsSound.after (sound : entry.IsSound) (id : Nat) (event : Event) :
    (entry.after id event).IsSound := by
  by_cases isRegistration : event = registration id
  · rw [isRegistration, after_registration]
    exact ⟨fun _ => rfl, by simp [fresh]⟩
  · rw [Entry.after, if_neg isRegistration]
    cases event.1 with
    | register => exact sound
    | complete id' answer =>
        dsimp only
        split
        · exact isSound_of_not_waiting (by simp)
        · exact sound
    | dropGuard id' =>
        dsimp only
        split
        · exact isSound_of_not_waiting (by simp)
        · exact sound
    | dropReceiver id' =>
        dsimp only
        split
        · exact ⟨sound.guarded, nofun⟩
        · exact sound
    | close => exact isSound_of_not_waiting (by simp)
    | poll id' =>
        dsimp only
        split
        · refine ⟨sound.guarded, fun mailbox held => ?_⟩
          obtain ⟨before, isBefore, rfl⟩ := Option.map_eq_some_iff.mp held
          exact polled_eq_empty_iff.trans (sound.empty_iff before isBefore)
        · exact sound

theorem waits_after (sound : entry.IsSound) :
    (entry.after id event).waits = true ↔
      event = registration id ∨
        entry.waits = true ∧ ¬ (event.1.Completes id ∨ event.1.GivesUp id) := by
  by_cases isRegistration : event = registration id
  · simp [isRegistration, after_registration, fresh]
  · rw [Entry.after, if_neg isRegistration]
    have guarded := sound.guarded
    cases command : event.1 with
    | register => simp [isRegistration]
    | complete id' answer => grind [Command.Completes, Command.GivesUp]
    | dropGuard id' => grind [Command.Completes, Command.GivesUp]
    | dropReceiver id' => grind [Command.Completes, Command.GivesUp]
    | close => simp [isRegistration]
    | poll id' => grind [Command.Completes, Command.GivesUp]

theorem isSome_mailbox_after :
    (entry.after id event).mailbox.isSome = true ↔
      event = registration id ∨
        entry.mailbox.isSome = true ∧ event.1 ≠ .dropReceiver id := by
  by_cases isRegistration : event = registration id
  · simp [isRegistration, after_registration, fresh]
  · rw [Entry.after, if_neg isRegistration]
    cases command : event.1 with
    | register => simp [isRegistration]
    | complete id' answer => grind
    | dropGuard id' => grind
    | dropReceiver id' => grind
    | close => simp [isRegistration]
    | poll id' => grind

/-- An answer is in a mailbox from its delivery until it is taken. -/
theorem full_mailbox_after
    (sound : entry.IsSound) (notRegistration : event ≠ registration id)
    (isDelivery : event = delivery id answer ↔
      event.1 = .complete id answer ∧ entry.waits = true ∧ entry.mailbox.isSome = true) :
    (entry.after id event).mailbox = some (.full answer) ↔
      event = delivery id answer ∨
        entry.mailbox = some (.full answer) ∧ ¬ event.1.Empties id := by
  rw [Entry.after, if_neg notRegistration, isDelivery]
  cases command : event.1 with
  | register => simp
  | complete id' answer' =>
      by_cases reached : id' = id ∧ entry.waits = true
      · obtain ⟨rfl, waits⟩ := reached
        -- the mailbox of a call that waits holds no answer yet
        have notFull : entry.mailbox ≠ some (.full answer) := fun isFull =>
          nomatch (sound.empty_iff _ isFull).mpr waits
        simp [waits, notFull, Option.isSome_iff_exists, and_comm]
      · grind [Command.Empties]
  | dropGuard id' =>
      by_cases guarded : id' = id ∧ entry.isGuarded = true
      · simp [guarded]
      · simp [guarded]
  | dropReceiver id' =>
      by_cases same : id' = id
      · simp [same]
      · simp [same]
  | close => simp
  | poll id' =>
      by_cases same : id' = id
      · simp [same]
      · simp [same]

theorem after_blank (notRegistration : event ≠ registration id) :
    blank.after id event = blank := by
  rw [Entry.after, if_neg notRegistration]
  cases event.1 <;> simp [blank]

end Entry

end OneCall

/-! ## What a command returns -/

section Replies

variable (calls : PendingCalls)

theorem event_eq_registration_iff (command : Command) (id : Nat) :
    calls.event command = registration id ↔
      command = .register ∧ calls.isClosed = false ∧ id = calls.nextId := by
  cases command with
  | register =>
      cases isClosed : calls.isClosed with
      | true => simp [event, registration, calls.perform_register_of_closed isClosed]
      | false => simp [event, registration, calls.perform_register_of_open isClosed, eq_comm]
  | _ => simp [event, registration]

theorem complete_fst_iff (id : Nat) (answer : Answer) :
    (calls.complete id answer).1 = true ↔
      (calls.entry id).waits = true ∧ (calls.entry id).mailbox.isSome = true := by
  by_cases waits : id ∈ calls.waiting
  · simp [complete, entry, waits]
  · simp [complete, entry, waits]

theorem event_eq_delivery_iff (command : Command) (id : Nat) (answer : Answer) :
    calls.event command = delivery id answer ↔
      command = .complete id answer ∧
        (calls.entry id).waits = true ∧ (calls.entry id).mailbox.isSome = true := by
  rw [← calls.complete_fst_iff id answer]
  constructor
  · intro isDelivery
    obtain rfl : command = .complete id answer := congrArg Prod.fst isDelivery
    simpa [event, perform, delivery] using isDelivery
  · rintro ⟨rfl, isDelivered⟩
    simp [event, perform, delivery, isDelivered]

theorem poll_fst (id : Nat) : (calls.poll id).1 = (calls.entry id).mailbox := by
  unfold poll entry
  dsimp only
  split
  all_goals rename_i held
  all_goals exact held.symm

theorem taken?_event_eq_some_iff (command : Command) (id : Nat) (answer : Answer) :
    taken? id (calls.event command) = some answer ↔
      command = .poll id ∧ (calls.entry id).mailbox = some (.full answer) := by
  cases command with
  | poll id' =>
      have same : calls.event (.poll id') = (.poll id', .polled (calls.entry id').mailbox) := by
        rw [← poll_fst]
        rfl
      rw [same]
      by_cases isCall : id' = id
      · subst isCall
        rcases (calls.entry id').mailbox with _ | _ | _ | _ <;> simp [taken?]
      · rcases (calls.entry id').mailbox with _ | _ | _ | _ <;> simp [taken?, isCall]
  | _ => simp [event, perform, taken?]

@[simp]
theorem nextId_poll (id : Nat) : (calls.poll id).2.nextId = calls.nextId := by
  unfold poll
  split <;> rfl

@[simp]
theorem isClosed_poll (id : Nat) : (calls.poll id).2.isClosed = calls.isClosed := by
  unfold poll
  split <;> rfl

/-- The table gives out the numbers one after the other. -/
theorem number?_perform (command : Command) :
    number? (calls.event command) = some calls.nextId ∧
        (calls.perform command).2.nextId = calls.nextId + 1 ∨
      number? (calls.event command) = none ∧
        (calls.perform command).2.nextId = calls.nextId := by
  cases command with
  | register =>
      cases isClosed : calls.isClosed with
      | true =>
          rw [event, calls.perform_register_of_closed isClosed]
          exact Or.inr ⟨rfl, rfl⟩
      | false =>
          rw [event, calls.perform_register_of_open isClosed]
          exact Or.inl ⟨rfl, rfl⟩
  | complete id answer => exact Or.inr ⟨rfl, calls.nextId_complete id answer⟩
  | dropGuard id => exact Or.inr ⟨rfl, calls.nextId_dropGuard id⟩
  | dropReceiver id => exact Or.inr ⟨rfl, rfl⟩
  | close => exact Or.inr ⟨rfl, rfl⟩
  | poll id => exact Or.inr ⟨rfl, calls.nextId_poll id⟩

theorem isClosed_perform (command : Command) :
    (calls.perform command).2.isClosed = true ↔ calls.isClosed = true ∨ command = .close := by
  cases command with
  | register =>
      cases isClosed : calls.isClosed with
      | true => simp [calls.perform_register_of_closed isClosed, isClosed]
      | false => simp [calls.perform_register_of_open isClosed]
  | complete id answer => simp [perform]
  | dropGuard id => simp [perform]
  | dropReceiver id => simp [perform, dropReceiver]
  | close => simp [perform, close]
  | poll id => simp [perform]

theorem nodup_waiting_perform
    (nodup : calls.waiting.Nodup) (isNew : calls.nextId ∉ calls.waiting) (command : Command) :
    (calls.perform command).2.waiting.Nodup := by
  cases command with
  | register =>
      cases isClosed : calls.isClosed with
      | true => rwa [calls.perform_register_of_closed isClosed]
      | false =>
          rw [calls.perform_register_of_open isClosed]
          exact List.nodup_cons.mpr ⟨isNew, nodup⟩
  | complete id answer =>
      change (calls.complete id answer).2.waiting.Nodup
      unfold complete
      split
      · exact nodup.filter _
      · exact nodup
  | dropGuard id =>
      change (calls.dropGuard id).2.waiting.Nodup
      unfold dropGuard
      split
      · exact nodup.filter _
      · exact nodup
  | dropReceiver id => exact nodup
  | close => exact List.nodup_nil
  | poll id =>
      change (calls.poll id).2.waiting.Nodup
      unfold poll
      split
      all_goals exact nodup

end Replies

end LanguageClient.PendingCalls
