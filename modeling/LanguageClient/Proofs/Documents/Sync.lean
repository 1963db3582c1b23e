import LanguageClient.Proofs.Documents.Shelf
import LanguageClient.Proofs.Wire.Failure

/-!
# Notices and the table

A notice is first written and then recorded in the table.  What a task does to the table
and to the histories of the documents in one step is said once, and the histories in the
log grow by what is written.
-/

namespace LanguageClient

/-! ## Notices that are written -/

namespace DocumentUse

/-- The notice that a task has written whole and not recorded yet. -/
def unrecorded? : DocumentUse → Option (String × SyncEvent)
  | .telling uri event _ (.writing _ []) => some (uri, event)
  | _ => none

/-- The notice of which a task writes the last byte with a move from one use to another. -/
def written? (before after : DocumentUse) : Option (String × SyncEvent) :=
  match before.unrecorded? with
  | none => after.unrecorded?
  | some _ => none

theorem subject?_of_unrecorded?
    {use : DocumentUse} {told : String × SyncEvent} (unrecorded : use.unrecorded? = some told) :
    use.subject? = some told := by
  cases use with
  | telling uri event drop frame =>
      cases frame with
      | writing message rest =>
          cases rest with
          | nil => exact unrecorded
          | cons byte rest => cases unrecorded
      | _ => cases unrecorded
  | _ => cases unrecorded

theorem unrecorded?_of_not_telling
    {use : DocumentUse} (idle : use.isTelling = false) : use.unrecorded? = none := by
  cases use with
  | telling uri event drop frame => cases idle
  | _ => rfl

theorem written?_eq_none
    {before after : DocumentUse}
    (old : after.unrecorded? = before.unrecorded? ∨ after.unrecorded? = none) :
    before.written? after = none := by
  unfold written?
  cases unrecorded : before.unrecorded? with
  | none =>
      rcases old with same | gone
      · exact same.trans unrecorded
      · exact gone
  | some told => rfl

end DocumentUse

/-- What a task does to the table in one step, and which notice it writes. -/
inductive SyncMove
    (turn : Turn) (client : Client) (before : DocumentUse) (shelf : Shelf) (after : DocumentUse) :
    Prop
  | quiet :
      (∀ uri, shelf.version? uri = client.version? uri) →
      after.unrecorded? = before.unrecorded? →
      SyncMove turn client before shelf after
  | writes {uri : String} {event : SyncEvent} :
      (∀ uri, shelf.version? uri = client.version? uri) →
      before.subject? = some (uri, event) →
      before.unrecorded? = none →
      after.unrecorded? = some (uri, event) →
      SyncMove turn client before shelf after
  | records {uri : String} {event : SyncEvent} {drop : Bool} {message : Outgoing} :
      before = .telling uri event drop (.writing message []) →
      after = .apart →
      (∀ other, shelf.version? other =
        if other = uri then event.version? else client.version? other) →
      SyncMove turn client before shelf after
  | drops {uri : String} {event : SyncEvent} {frame : Sending} {client' : Client}
      {error : ClientError} :
      before = .telling uri event true frame →
      frame.step turn client = .finished client' (.error error) →
      after = .apart →
      (∀ other, shelf.version? other = if other = uri then none else client.version? other) →
      SyncMove turn client before shelf after

/-- A frame is over without an error when its last byte is written. -/
theorem Sending.eq_of_finished
    {turn : Turn} {client client' : Client} {frame : Sending}
    (step : frame.step turn client = .finished client' (.ok ())) :
    ∃ message, frame = .writing message [] := by
  cases frame with
  | asking message => cases step
  | queued message =>
      simp only [Sending.step] at step
      split at step
      · split at step
        · cases step
        · cases step
      · cases step
  | writing message rest =>
      cases rest with
      | nil => exact ⟨message, rfl⟩
      | cons byte rest =>
          simp only [Sending.step] at step
          split at step
          · cases step
          · split at step
            · cases step
            · cases step

theorem DocumentUse.unrecorded?_of_error
    {turn : Turn} {client client' : Client} {frame : Sending} {error : ClientError}
    (step : frame.step turn client = .finished client' (.error error)) (uri : String)
    (event : SyncEvent) (drop : Bool) :
    (DocumentUse.telling uri event drop frame).unrecorded? = none := by
  cases frame with
  | writing message rest =>
      cases rest with
      | nil => cases step
      | cons byte rest => rfl
  | _ => rfl

private theorem SyncMove.of_running
    {turn : Turn} {client client' : Client} {frame frame' : Sending}
    (step : frame.step turn client = .running client' frame') (uri : String)
    (event : SyncEvent) (drop : Bool) :
    SyncMove turn client (.telling uri event drop frame) client.shelf
      (.telling uri event drop frame') := by
  cases frame with
  | asking message =>
      injection step with _ same
      exact .quiet (fun _ => rfl) (by rw [← same]; rfl)
  | queued message =>
      simp only [Sending.step] at step
      split at step
      · split at step
        · injection step with _ same
          obtain ⟨byte, rest, frame⟩ := List.exists_cons_of_ne_nil message.frame_ne_nil
          exact .quiet (fun _ => rfl) (by rw [← same, frame]; rfl)
        · cases step
      · cases step
  | writing message rest =>
      cases rest with
      | nil => cases step
      | cons byte rest =>
          simp only [Sending.step] at step
          split at step
          · cases step
          · split at step
            · cases step
            · injection step with _ same
              rw [← same]
              generalize (byte :: rest).drop _ = left
              cases left with
              | nil => exact .writes (fun _ => rfl) rfl rfl rfl
              | cons byte' left => exact .quiet (fun _ => rfl) rfl

/-- What a move on the documents does to the table and to their histories, if nobody is
dropped in the middle of telling the server. -/
theorem DocumentMove.sync
    {turn : Turn} {client : Client} {before after : DocumentUse} {shelf : Shelf}
    (move : DocumentMove turn client False before shelf after) :
    SyncMove turn client before shelf after := by
  cases move with
  | rests => exact .quiet (fun _ => rfl) rfl
  | asks mode => exact .quiet (fun _ => rfl) rfl
  | leaves idle =>
      exact .quiet (fun _ => rfl) (DocumentUse.unrecorded?_of_not_telling idle).symm
  | looksToOpen held absent => exact .quiet (fun _ => rfl) rfl
  | looksToChange held present => exact .quiet (fun _ => rfl) rfl
  | looksToClose message held present => exact .quiet (fun _ => rfl) rfl
  | tellsOpening message => exact .quiet (fun _ => rfl) rfl
  | tellsChange message => exact .quiet (fun _ => rfl) rfl
  | sends step => exact .of_running step _ _ _
  | commits step =>
      obtain ⟨message, rfl⟩ := Sending.eq_of_finished step
      exact .records rfl rfl fun other => client.shelf.version?_record _ other _ _
  | @fails uri event drop frame client' error step =>
      cases drop with
      | true =>
          exact .drops rfl step rfl fun other => client.shelf.version?_without uri other _
      | false =>
          exact .quiet (fun _ => rfl) (DocumentUse.unrecorded?_of_error step uri event false).symm
  | dropped allowed => exact allowed.elim

/-! ## Notices in the log -/

namespace Session.IsProper

variable {session : Session} {task : TaskId} {uri : String} {event : SyncEvent}

theorem use_of_telling
    {mayNotify : String → Prop} {drop : Bool} {frame : Sending}
    (isProper : session.IsProper mayNotify)
    (tells : session.documentUse task = .telling uri event drop frame) :
    session.use task = frame.use ∧ frame.message.sync? = some (uri, event) := by
  obtain ⟨operation, found, operationTells⟩ := found_of_view tells nofun
  obtain ⟨_, used, sync⟩ :=
    Operation.sync?_of_telling (isProper task operation found) operationTells
  exact ⟨(view_of_found found).trans used, sync⟩

theorem telling_of_writing
    {message : Outgoing} {rest : List UInt8} (isProper : session.IsProper IsUnrelated)
    (writes : session.use task = .writing message rest)
    (tells : message.sync? = some (uri, event)) :
    ∃ drop, session.documentUse task = .telling uri event drop (.writing message rest) := by
  obtain ⟨operation, found, operationWrites⟩ := found_of_view writes nofun
  have sends : operation.use.message? = some message := by
    rw [operationWrites]
    rfl
  obtain ⟨drop, frame, operationTells⟩ :=
    Operation.telling_of_sync? (isProper task operation found) sends tells
  have sessionTells : session.documentUse task = .telling uri event drop frame :=
    (view_of_found found).trans operationTells
  have used := writes.symm.trans (isProper.use_of_telling sessionTells).1
  have sameFrame : frame = .writing message rest := by
    cases frame <;> cases used
    rfl
  exact ⟨drop, sameFrame ▸ sessionTells⟩

end Session.IsProper

/-- A message is completed with the move after which nothing of it is left. -/
theorem WriterMove.completed?_eq_some_iff
    {task : TaskId} {outlet outlet' : Outlet} {before after : WriterUse} {message : Outgoing}
    (move : WriterMove task outlet before outlet' after) :
    before.completed? after = some message ↔
      after = .writing message [] ∧ before ≠ .writing message [] := by
  cases move with
  | rest =>
      rw [WriterUse.completed?_self]
      simp
  | begin message' held isOpen => simp [WriterUse.completed?, message'.frame_ne_nil]
  | put message' bytes rest unbroken nonempty fits =>
      obtain ⟨byte, bytes, rfl⟩ := List.exists_cons_of_ne_nil nonempty
      cases rest <;> simp [WriterUse.completed?]
  | leave =>
      rw [WriterUse.completed?_apart]
      simp
  | _ => simp [WriterUse.completed?]

private theorem DocumentUse.of_unrecorded?
    {use : DocumentUse} {uri : String} {event : SyncEvent}
    (unrecorded : use.unrecorded? = some (uri, event)) :
    ∃ drop message, use = .telling uri event drop (.writing message []) := by
  unfold unrecorded? at unrecorded
  split at unrecorded
  · cases unrecorded
    exact ⟨_, _, rfl⟩
  · cases unrecorded

/-- The messages that tasks complete are the notices that they write. -/
theorem WriterMove.completed?_sync?
    {session after : Session} {task : TaskId} {outlet outlet' : Outlet}
    (move : WriterMove task outlet (session.use task) outlet' (after.use task))
    (isProper : session.IsProper IsUnrelated) (isProper' : after.IsProper IsUnrelated) :
    ((session.use task).completed? (after.use task)).bind Outgoing.sync? =
      (session.documentUse task).written? (after.documentUse task) := by
  apply Option.ext
  rintro ⟨uri, event⟩
  rw [Option.bind_eq_some_iff]
  constructor
  · rintro ⟨message, completed, tells⟩
    obtain ⟨writes', _⟩ := move.completed?_eq_some_iff.mp completed
    obtain ⟨drop', telling'⟩ := isProper'.telling_of_writing writes' tells
    unfold DocumentUse.written?
    split
    · rw [telling']
      rfl
    · rename_i told recorded
      obtain ⟨drop, message', telling⟩ := DocumentUse.of_unrecorded? recorded
      have writes : session.use task = .writing message' [] :=
        (isProper.use_of_telling telling).1
      rw [writes, writes'] at completed
      cases completed
  · intro written
    unfold DocumentUse.written? at written
    split at written
    · rename_i recorded
      obtain ⟨drop, message, telling⟩ := DocumentUse.of_unrecorded? written
      obtain ⟨writes', tells⟩ := isProper'.use_of_telling telling
      refine ⟨message, move.completed?_eq_some_iff.mpr ⟨writes', ?_⟩, tells⟩
      intro writes
      obtain ⟨drop', telling'⟩ := isProper.telling_of_writing writes tells
      rw [telling'] at recorded
      cases recorded
    · cases written

end LanguageClient
