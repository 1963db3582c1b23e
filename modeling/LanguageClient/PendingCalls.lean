import LanguageClient.Message.ResponseError

/-!
# Pending calls

The calls that wait for an answer.  A call is registered under a number of its
own, holds its entry by a guard, and finds the answer in its mailbox.  Once the
table is closed no call is registered any more.
-/

namespace LanguageClient

inductive Mailbox where
  /-- The answer may still come. -/
  | empty
  | full (answer : Answer)
  /-- No answer will come, or it was taken. -/
  | closed
deriving DecidableEq

/-- A mailbox that no answer will come to any more. -/
def Mailbox.close : Mailbox → Mailbox
  | .empty => .closed
  | mailbox => mailbox

structure PendingCalls where
  nextId : Nat
  isClosed : Bool
  /-- The calls that an answer can be delivered to, the latest first. -/
  waiting : List Nat
  /-- The calls whose guard is held. -/
  guards : List Nat
  /-- The mailboxes that somebody still looks into. -/
  mailboxes : List (Nat × Mailbox)
deriving DecidableEq

namespace PendingCalls

/-- The table before the first call; the first number is one. -/
def empty : PendingCalls := ⟨1, false, [], [], []⟩

def mailbox? (calls : PendingCalls) (id : Nat) : Option Mailbox :=
  (calls.mailboxes.find? fun entry => entry.1 = id).map Prod.snd

def changeMailbox (calls : PendingCalls) (id : Nat) (change : Mailbox → Mailbox) : PendingCalls :=
  { calls with
    mailboxes := calls.mailboxes.map fun (id', mailbox) =>
      if id' = id then (id', change mailbox) else (id', mailbox) }

/-- Registers a call.  A closed table takes none and uses up no number. -/
def register (calls : PendingCalls) : Option (Nat × PendingCalls) :=
  if calls.isClosed then none
  else
    let id := calls.nextId
    some (id, {
      nextId := id + 1
      isClosed := false
      waiting := id :: calls.waiting
      guards := id :: calls.guards
      mailboxes := (id, .empty) :: calls.mailboxes })

def stopWaiting (calls : PendingCalls) (id : Nat) : PendingCalls :=
  { calls with waiting := calls.waiting.filter (· ≠ id) }

/-- Delivers an answer; tells whether it reached a mailbox. -/
def complete (calls : PendingCalls) (id : Nat) (answer : Answer) : Bool × PendingCalls :=
  if calls.waiting.contains id then
    ((calls.mailbox? id).isSome,
      (calls.stopWaiting id).changeMailbox id fun _ => .full answer)
  else (false, calls)

/-- Drops the guard of a call, which gives up waiting; tells whether there was one. -/
def dropGuard (calls : PendingCalls) (id : Nat) : Bool × PendingCalls :=
  if calls.guards.contains id then
    let calls := { calls with guards := calls.guards.filter (· ≠ id) }
    (true, (calls.stopWaiting id).changeMailbox id Mailbox.close)
  else (false, calls)

/-- Drops the mailbox of a call; tells whether there was one. -/
def dropReceiver (calls : PendingCalls) (id : Nat) : Bool × PendingCalls :=
  ((calls.mailbox? id).isSome,
    { calls with mailboxes := calls.mailboxes.filter fun entry => entry.1 ≠ id })

def abandon (calls : PendingCalls) (id : Nat) : PendingCalls :=
  ((calls.dropGuard id).2.dropReceiver id).2

/-- Closes the table; gives the number of calls that waited. -/
def close (calls : PendingCalls) : Nat × PendingCalls :=
  (calls.waiting.length,
    { calls with
      isClosed := true
      waiting := []
      mailboxes := calls.mailboxes.map fun (id, mailbox) => (id, mailbox.close) })

/-- Takes what a mailbox holds.  An answer can be taken once. -/
def poll (calls : PendingCalls) (id : Nat) : Option Mailbox × PendingCalls :=
  match calls.mailbox? id with
  | none => (none, calls)
  | some (.full answer) => (some (.full answer), calls.changeMailbox id fun _ => .closed)
  | some mailbox => (some mailbox, calls)

end PendingCalls

end LanguageClient
