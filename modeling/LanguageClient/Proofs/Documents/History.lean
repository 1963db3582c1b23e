import LanguageClient.Proofs.Operation.Occupation
import LanguageClient.Proofs.Wire.Framing

/-!
# Histories of documents

An operation that tells the server something about a document sends the notice that
says so, and no other operation sends such a notice, unless a user chooses its method.

The history of a document is what the server was told about it by notices that were
written whole.  Replaying a history gives the version at which the server holds the
document, and a history that can be replayed opens, changes and closes the document in
rounds.
-/

namespace LanguageClient

/-! ## The notices of operations -/

def Json.integer? : Json → Option Int
  | .number (.integer value) => some value
  | _ => none

/-- What a message tells the server about the document with a URI. -/
def Outgoing.sync? : Outgoing → Option (String × SyncEvent)
  | .notification method (some params) => do
      let document ← params.member? "textDocument"
      let uri ← (← document.member? "uri").string?
      let version? := (document.member? "version").bind Json.integer?
      if method = "textDocument/didOpen" then
        version?.map fun version => (uri, .opened version)
      else if method = "textDocument/didChange" then
        version?.map fun version => (uri, .changed version)
      else if method = "textDocument/didClose" then some (uri, .closed)
      else none
  | _ => none

/-- Whether a method is not one of those that tell of documents. -/
def IsUnrelated (method : String) : Prop :=
  method ≠ "textDocument/didOpen" ∧ method ≠ "textDocument/didChange" ∧
    method ≠ "textDocument/didClose"

instance (method : String) : Decidable (IsUnrelated method) :=
  inferInstanceAs (Decidable (_ ∧ _ ∧ _))

theorem DocumentNotice.sync?_message (notice : DocumentNotice) :
    notice.message.sync? = some (notice.uri, notice.event) := by
  cases notice <;> rfl

theorem Outgoing.sync?_of_isUnrelated
    {method : String} (unrelated : IsUnrelated method) (params : Option Json) :
    (Outgoing.notification method params).sync? = none := by
  obtain ⟨noOpening, noChange, noClosing⟩ := unrelated
  cases params with
  | none => rfl
  | some params => simp [sync?, noOpening, noChange, noClosing]

namespace Operation

variable {operation : Operation} {uri : String} {event : SyncEvent}

/-- What an operation tells the server is said by the notice that it sends; a document
leaves the table in any case only where all documents are closed. -/
theorem sync?_of_telling
    {mayNotify : String → Prop} {drop : Bool} {frame : Sending}
    (isProper : operation.IsProper mayNotify)
    (tells : operation.documentUse = .telling uri event drop frame) :
    drop = operation.closesAll ∧ operation.use = frame.use ∧
      frame.message.sync? = some (uri, event) := by
  cases occupation isProper with
  | calls calling apart => cases apart.symm.trans tells
  | notifies method apart => cases apart.symm.trans tells
  | answers apart => cases apart.symm.trans tells
  | silent idle => simp [tells, DocumentUse.isTelling] at idle
  | tells notice documents writer message =>
      injection documents.symm.trans tells with sameUri sameEvent sameDrop sameFrame
      subst sameUri sameEvent sameFrame
      exact ⟨sameDrop.symm, writer, by rw [message, notice.sync?_message]⟩

/-- An operation that sends a notice about a document is telling the server what it says. -/
theorem telling_of_sync?
    {message : Outgoing} (isProper : operation.IsProper IsUnrelated)
    (sends : operation.use.message? = some message) (tells : message.sync? = some (uri, event)) :
    ∃ drop frame, operation.documentUse = .telling uri event drop frame := by
  have sent {frame : Sending} {own : Outgoing} (writer : operation.use = frame.use)
      (isOwn : frame.message = own) : own.sync? = some (uri, event) := by
    rw [← isOwn, Sending.message_of_use (writer ▸ sends), tells]
  cases occupation isProper with
  | calls calling apart writer own => cases sent writer own
  | answers apart writer own => cases sent writer own
  | @notifies method params frame allowed apart writer own =>
      have unrelated : IsUnrelated method := by
        rcases allowed with chosen | rfl | rfl
        · exact chosen
        · decide
        · decide
      cases (Outgoing.sync?_of_isUnrelated unrelated params).symm.trans (sent writer own)
  | silent idle quiet => cases quiet.symm.trans sends
  | tells notice documents writer own =>
      cases notice.sync?_message.symm.trans (sent writer own)
      exact ⟨_, _, documents⟩

end Operation

/-! ## What follows what -/

namespace SyncEvent

/-- The version of a document after the server was told something about it; a document
that is closed has none. -/
def version? : SyncEvent → Option Int
  | .opened version | .changed version => some version
  | .closed => none

/-- Whether something can be told next about a document: a closed document is opened with
the first version, and an open one gets the next version or is closed. -/
def Follows (held? : Option Int) : SyncEvent → Prop
  | .opened version => held? = none ∧ version = 1
  | .changed version => held? = some (version - 1)
  | .closed => held?.isSome = true

instance (held? : Option Int) : (event : SyncEvent) → Decidable (event.Follows held?)
  | .opened version => inferInstanceAs (Decidable (held? = none ∧ version = 1))
  | .changed version => inferInstanceAs (Decidable (held? = some (version - 1)))
  | .closed => inferInstanceAs (Decidable (held?.isSome = true))

/-- The version at which the server holds a document after one more notice. -/
def follow (held? : Option Int) (event : SyncEvent) : Option (Option Int) :=
  if event.Follows held? then some event.version? else none

/-- The version at which the server holds a document after a history. -/
def replay (history : List SyncEvent) : Option (Option Int) :=
  history.foldlM follow none

theorem follow_of_follows
    {held? : Option Int} {event : SyncEvent} (follows : event.Follows held?) :
    follow held? event = some event.version? :=
  if_pos follows

theorem replay_concat (history : List SyncEvent) (event : SyncEvent) :
    replay (history ++ [event]) = (replay history).bind fun held? => follow held? event := by
  simp [replay, List.foldlM_append]

/-- What a history that ends with a notice says of the history before it. -/
theorem replay_concat_eq_some
    {history : List SyncEvent} {event : SyncEvent} {held? : Option Int}
    (replayed : replay (history ++ [event]) = some held?) :
    held? = event.version? ∧ ∃ earlier?, replay history = some earlier? ∧
      event.Follows earlier? := by
  rw [replay_concat, Option.bind_eq_some_iff] at replayed
  obtain ⟨earlier?, before, followed⟩ := replayed
  unfold follow at followed
  split at followed
  · rename_i follows
    injection followed with same
    exact ⟨same.symm, earlier?, before, follows⟩
  · cases followed

/-! ## Rounds -/

/-- The opening of a document and a number of changes. -/
def visit (changes : Nat) : List SyncEvent :=
  .opened 1 :: (List.range changes).map fun change => .changed (change + 2)

/-- The opening of a document, a number of changes, and its closing. -/
def round (changes : Nat) : List SyncEvent :=
  visit changes ++ [.closed]

theorem visit_succ (changes : Nat) :
    visit (changes + 1) = visit changes ++ [.changed (changes + 2)] := by
  simp [visit, List.range_succ]

/-- A history that can be replayed is made of rounds, the last of which may be open. -/
theorem exists_rounds_of_replay
    {history : List SyncEvent} {held? : Option Int} (replayed : replay history = some held?) :
    ∃ rounds : List Nat,
      (held? = none ∧ history = rounds.flatMap round) ∨
        ∃ changes : Nat, held? = some (changes + 1) ∧
          history = rounds.flatMap round ++ visit changes := by
  induction history using List.reverseRecOn generalizing held? with
  | nil =>
      injection replayed with same
      exact ⟨[], Or.inl ⟨same.symm, rfl⟩⟩
  | append_singleton history event inductionHypothesis =>
      obtain ⟨rfl, earlier?, before, follows⟩ := replay_concat_eq_some replayed
      obtain ⟨rounds, ⟨rfl, rfl⟩ | ⟨changes, rfl, rfl⟩⟩ := inductionHypothesis before
      · cases event with
        | opened version =>
            obtain ⟨-, rfl⟩ := follows
            exact ⟨rounds, Or.inr ⟨0, rfl, rfl⟩⟩
        | changed version => cases follows
        | closed => cases follows
      · cases event with
        | opened version => cases follows.1
        | changed version =>
            injection follows with next
            obtain rfl : version = changes + 2 := by omega
            have sameVersion : (changes + 2 : Int) = (changes + 1 : Nat) + 1 := by omega
            refine ⟨rounds, Or.inr ⟨changes + 1, congrArg some sameVersion, ?_⟩⟩
            rw [visit_succ, List.append_assoc]
        | closed =>
            refine ⟨rounds ++ [changes], Or.inl ⟨rfl, ?_⟩⟩
            rw [List.flatMap_append, List.flatMap_singleton, round, List.append_assoc]

/-- What can be replayed is a beginning of rounds. -/
theorem exists_prefix_of_replay
    {history : List SyncEvent} {held? : Option Int} (replayed : replay history = some held?) :
    ∃ rounds : List Nat, history <+: rounds.flatMap round := by
  obtain ⟨rounds, ⟨-, rfl⟩ | ⟨changes, -, rfl⟩⟩ := exists_rounds_of_replay replayed
  · exact ⟨rounds, List.prefix_rfl⟩
  · refine ⟨rounds ++ [changes], [.closed], ?_⟩
    rw [List.flatMap_append, List.flatMap_singleton, round, List.append_assoc]

/-- A document is opened once more than it is closed while it is open, and else as often. -/
theorem count_opened_of_replay
    {history : List SyncEvent} {held? : Option Int} (replayed : replay history = some held?) :
    history.count (.opened 1) = history.count .closed + if held?.isSome then 1 else 0 := by
  induction history using List.reverseRecOn generalizing held? with
  | nil =>
      injection replayed with same
      rw [← same]
      rfl
  | append_singleton history event inductionHypothesis =>
      obtain ⟨rfl, earlier?, before, follows⟩ := replay_concat_eq_some replayed
      have earlier := inductionHypothesis before
      rw [List.count_append, List.count_append, earlier]
      cases event with
      | opened version =>
          obtain ⟨rfl, rfl⟩ := follows
          simp [version?]
      | changed version =>
          have isOpen : earlier? = some (version - 1) := follows
          simp [version?, isOpen]
      | closed =>
          have isOpen : earlier?.isSome = true := follows
          simp [version?, isOpen]

end SyncEvent

/-! ## Histories in the log -/

def SyncEvent.about? (uri : String) (told : String × SyncEvent) : Option SyncEvent :=
  if told.1 = uri then some told.2 else none

/-- What a message tells the server about one document. -/
def Outgoing.told? (uri : String) (message : Outgoing) : Option SyncEvent :=
  message.sync?.bind (SyncEvent.about? uri)

namespace Segment

/-- What a frame told the server about a document, if it was written whole. -/
def told? (uri : String) (segment : Segment) : Option SyncEvent :=
  if segment.written = segment.message.frame then segment.message.told? uri else none

/-- What the server was told about a document, the first notice first. -/
def history (uri : String) (log : List Segment) : List SyncEvent :=
  log.reverse.filterMap (told? uri)

theorem history_cons (uri : String) (segment : Segment) (log : List Segment) :
    history uri (segment :: log) = history uri log ++ (segment.told? uri).toList := by
  cases told : segment.told? uri <;> simp [history, told]

end Segment

theorem Outgoing.frame_ne_nil (message : Outgoing) : message.frame ≠ [] := by
  have head : Text.Utf8.encode "Content-Length: " ≠ [] := by
    decide +kernel
  obtain ⟨rest, frame⟩ := message.exists_frame_eq
  rw [frame]
  exact List.append_ne_nil_of_left_ne_nil head rest

/-- The message that a task has written whole with a move from one use of the writer to
another. -/
def WriterUse.completed? : WriterUse → WriterUse → Option Outgoing
  | .writing message (_ :: _), .writing _ [] => some message
  | _, _ => none

theorem WriterUse.completed?_self (use : WriterUse) : use.completed? use = none := by
  cases use with
  | writing message rest => cases rest <;> rfl
  | _ => rfl

theorem WriterUse.completed?_apart (use : WriterUse) : use.completed? .apart = none := by
  cases use with
  | writing message rest => cases rest <;> rfl
  | _ => rfl

/-- The history of a document grows by what the message says that is completed. -/
theorem WireInvariant.history_record
    {log : List Segment} {outlet outlet' : Outlet} {use : TaskId → WriterUse}
    {task : TaskId} {use' : WriterUse} (invariant : WireInvariant log outlet use)
    (move : WriterMove task outlet (use task) outlet' use') (uri : String) :
    Segment.history uri (Segment.record task (use task) use' log) =
      Segment.history uri log ++
        (((use task).completed? use').bind fun message => message.told? uri).toList := by
  generalize before : use task = used at move
  cases move with
  | rest =>
      rw [Segment.record_rest, WriterUse.completed?_self]
      simp
  | begin message held isOpen =>
      have unwritten : Segment.told? uri ⟨task, message, []⟩ = none :=
        if_neg message.frame_ne_nil.symm
      simp [Segment.record, Segment.history_cons, unwritten, WriterUse.completed?]
  | put message more rest unbroken nonempty fits =>
      obtain ⟨-, written, earlier, rfl, frame⟩ := invariant.writing task _ _ before
      have unfinished : Segment.told? uri ⟨task, message, written⟩ = none := by
        apply if_neg
        simp [frame, nonempty]
      rw [Segment.record_put, Segment.extend, Segment.history_cons, Segment.history_cons,
        unfinished]
      cases rest with
      | nil =>
          have finished : Segment.told? uri ⟨task, message, written ++ more⟩ =
              message.told? uri := by
            apply if_pos
            simp [frame]
          obtain ⟨byte, more, rfl⟩ := List.exists_cons_of_ne_nil nonempty
          simp [finished, WriterUse.completed?]
      | cons byte rest =>
          have stillUnfinished : Segment.told? uri ⟨task, message, written ++ more⟩ = none := by
            apply if_neg
            simp [frame]
          simp [stillUnfinished, WriterUse.completed?]
  | leave =>
      rw [Segment.record_apart, WriterUse.completed?_apart]
      simp
  | _ => simp [Segment.record, WriterUse.completed?]

end LanguageClient
