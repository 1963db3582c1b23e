import LanguageClient.Proofs.Edits.Pending
import Mathlib.Data.List.Permutation

/-!
# Edits that amount to one after the other

Every edit reads all its files before it replaces the first.  If no file is replaced
between an edit's reading it and its replacing it, by another edit or by anybody
else, then the edits come to what they come to one after the other, in the order in which
they turn from reading to replacing: those that are answered as applied as a whole, and
those that cannot replace a file up to this file.  Otherwise an edit can be lost.
-/

namespace LanguageClient

open WorkspaceEdit (Progress writeAll)

/-! ## One after the other -/

namespace WorkspaceEdit

/-- Applies an edit as far as its first files, as it is applied when nothing comes between its
steps (`finish_editing_start`); `none` if this part of it is refused. -/
def applyFirst (edit : WorkspaceEdit) (count : Nat) (tree : FileTree) : Option FileTree :=
  match edit.byFile with
  | .error _ => none
  | .ok files =>
      match (files.take count).mapM fun (path, edits) => editFile tree path edits with
      | .error _ => none
      | .ok edited =>
          match replaceFiles edited tree with
          | (.ok (), tree) => some tree
          | (.error _, _) => none

/-- Applies parts of edits one after the other; `none` if one of them is refused. -/
def applyPartsInTurn (parts : List (WorkspaceEdit × Nat)) (tree : FileTree) : Option FileTree :=
  parts.foldlM (fun tree part => part.1.applyFirst part.2 tree) tree

/-- Applies whole edits one after the other; `none` if one of them is refused. -/
def applyInTurn (edits : List WorkspaceEdit) (tree : FileTree) : Option FileTree :=
  edits.foldlM (fun tree edit =>
    match edit.apply tree with
    | (.ok _, tree) => some tree
    | (.error _, _) => none) tree

theorem applyFirst_of_editsTo
    {edit : WorkspaceEdit} {files : FileEdits} {edited : List (Path × String)} {tree : FileTree}
    (byFile : edit.byFile = .ok files)
    (comes : EditsTo tree (files.take edited.length) edited) :
    edit.applyFirst edited.length tree = some (writeAll edited tree) := by
  have read := comes.mapM_editFile
  unfold applyFirst
  rw [byFile]
  simp only [read, replaceFiles_of_holdsFile fun _ => comes.holdsFile]

theorem applyPartsInTurn_concat
    {parts : List (WorkspaceEdit × Nat)} {part : WorkspaceEdit × Nat} {first tree : FileTree}
    (applied : applyPartsInTurn parts first = some tree) :
    applyPartsInTurn (parts ++ [part]) first = part.1.applyFirst part.2 tree := by
  unfold applyPartsInTurn at applied ⊢
  rw [List.foldlM_append, applied, Option.bind_eq_bind, Option.bind_some, List.foldlM_cons]
  exact bind_pure _

end WorkspaceEdit

/-- How far edits have come, by the number of the files they have replaced. -/
def EditLog.parts (log : EditLog) (edits : List (TaskId × WorkspaceEdit)) :
    List (WorkspaceEdit × Nat) :=
  edits.map fun entry => (entry.2, (log.replaced entry.1).length)

theorem EditLog.parts_concat
    (log : EditLog) (edits : List (TaskId × WorkspaceEdit)) (task : TaskId)
    (edit : WorkspaceEdit) :
    log.parts (edits ++ [(task, edit)]) =
      log.parts edits ++ [(edit, (log.replaced task).length)] :=
  List.map_append

/-- What a file that an edit has read and not replaced yet is edited to.  If the edit
comes to replace it, that is what it would be edited to now. -/
def IsReadFor
    (tree : FileTree) (before later : List FileAccess) (task : TaskId)
    (file : Path × List TextEdit) (edited : Path × String) : Prop :=
  edited.1 = file.1 ∧ ∃ names, tree.HoldsFile [] file.1 names ∧ .read task names ∈ before ∧
    (.write task names ∈ later →
      WorkspaceEdit.editFile tree file.1 file.2 = .ok edited)

/-- What an edit has read on the way holds: the edit is one that was asked for, and its
files are those it has read and those that are left. -/
def HasRead
    (tree : FileTree) (past later : List Transition) (task : TaskId)
    (left : WorkspaceEdit.FileEdits) (edited : List (Path × String)) : Prop :=
  ∃ edit files, (task, .requested edit) ∈ editLog past ∧
    edit.byFile = .ok (files ++ left) ∧
    List.Forall₂
      (IsReadFor tree (past.filterMap Transition.access?) (later.filterMap Transition.access?)
        task) files edited

/-- With what is replaced later the files are those that the edits which have turned come to
one after the other, each as far as it comes. -/
def AmountsToTurns
    (start : Session) (past : List Transition) (session : Session) (later : List Transition) :
    Prop :=
  ∃ edits : List (TaskId × WorkspaceEdit),
    edits.map Prod.fst = (editLog past).turns ∧
    (∀ task edit, (task, edit) ∈ edits → (task, .requested edit) ∈ editLog past) ∧
    WorkspaceEdit.applyPartsInTurn ((editLog (past ++ later)).parts edits) start.client.files =
      some (writeAll (edits.flatMap fun entry => (editLog later).replaced entry.1)
        session.client.files)

/-- Between a past and what comes later the edits amount to one after the other. -/
structure Serialized
    (start : Session) (past : List Transition) (session : Session) (later : List Transition) :
    Prop where
  record : EditRecord start past session
  reading : ∀ task left edited, session.edit? task = some (.reading left edited) →
    HasRead session.client.files past later task left edited
  serial : AmountsToTurns start past session later

namespace Serialized

variable {start session after last : Session} {past later : List Transition} {action : Action}

theorem refl (fresh : start.HasFreshTask) (quiet : ∀ task, start.edit? task = none) :
    Serialized start [] start later where
  record := .refl fresh quiet
  reading := fun task _ _ isEdit => nomatch (quiet task).symm.trans isEdit
  serial := ⟨[], rfl, nofun, rfl⟩

/-- What an edit has read holds behind a transition that writes nothing the edit is to
replace. -/
private theorem hasRead_of_intact
    {transition : Transition} {tree tree' : FileTree} {task : TaskId}
    {left : WorkspaceEdit.FileEdits} {edited : List (Path × String)}
    (hasRead : HasRead tree past (transition :: later) task left edited)
    (shape : FileTree.SameShape tree tree')
    (intact : ∀ path names edits, tree.HoldsFile [] path names →
      .read task names ∈ past.filterMap Transition.access? →
      .write task names ∈ later.filterMap Transition.access? →
      WorkspaceEdit.editFile tree' path edits = WorkspaceEdit.editFile tree path edits) :
    HasRead tree' (past ++ [transition]) later task left edited := by
  obtain ⟨edit, files, requested, byFile, reads⟩ := hasRead
  unfold HasRead
  rw [editLog_append, List.filterMap_append]
  refine ⟨edit, files, List.mem_append_left _ requested, byFile, reads.imp ?_⟩
  rintro file new ⟨samePath, names, holds, isRead, comes⟩
  refine ⟨samePath, names, holds.of_sameShape shape, List.mem_append_left _ isRead, ?_⟩
  intro isWritten
  rw [intact file.1 names file.2 holds isRead isWritten]
  apply comes
  rw [← List.singleton_append, List.filterMap_append]
  exact List.mem_append_right _ isWritten

/-- An edit that has read one more file. -/
private theorem hasRead_of_read
    {transition : Transition} {tree : FileTree} {task : TaskId} {path : Path}
    {edits : List TextEdit} {left : WorkspaceEdit.FileEdits} {edited : List (Path × String)}
    {file : Path × String}
    (hasRead : HasRead tree past (transition :: later) task ((path, edits) :: left) edited)
    (isEdited : WorkspaceEdit.editFile tree path edits = .ok file)
    (access : transition.access? = (tree.names? [] path).map (.read task)) :
    HasRead tree (past ++ [transition]) later task left (edited ++ [file]) := by
  obtain ⟨edit, files, requested, byFile, reads⟩ :=
    hasRead_of_intact hasRead (.refl tree) fun _ _ _ _ _ _ => rfl
  refine ⟨edit, files ++ [(path, edits)], requested, by simpa using byFile, ?_⟩
  obtain ⟨names, holds⟩ := WorkspaceEdit.holdsFile_of_editFile isEdited
  refine List.rel_append reads (.cons ⟨WorkspaceEdit.fst_of_editFile isEdited, names, holds, ?_,
    fun _ => isEdited⟩ .nil)
  rw [holds.names?, Option.map_some] at access
  simp [access]

/-- An edit that has just begun has read nothing. -/
private theorem hasRead_of_begun
    {tree : FileTree} {edit : WorkspaceEdit} {left : WorkspaceEdit.FileEdits}
    {edited : List (Path × String)} (next : session.nextEdit? = some (session.nextTask, edit))
    (begins : Progress.start edit = .reading left edited) :
    HasRead tree (past ++ [⟨session, .read, after⟩]) later session.nextTask left edited := by
  unfold Progress.start at begins
  cases byFile : edit.byFile with
  | error error =>
      rw [byFile] at begins
      cases begins
  | ok files =>
      rw [byFile] at begins
      cases begins
      have event : (Transition.mk session .read after).event? =
          some (session.nextTask, .requested edit) := by
        simp only [Transition.event?, next, Option.map_some]
      refine ⟨edit, [], ?_, byFile, .nil⟩
      rw [editLog_append, editLog_singleton, event]
      exact List.mem_append_right _ (List.mem_singleton_self _)

/-- What edits have read still holds behind one more transition. -/
private theorem reading_step
    (serialized : Serialized start past session (⟨session, action, after⟩ :: later))
    (effect : Session.Effect session action after) (alone : ∀ files, action ≠ .changeFiles files)
    (keeps : KeepsReads (past ++ ⟨session, action, after⟩ :: later)) {task : TaskId}
    {left : WorkspaceEdit.FileEdits} {edited : List (Path × String)}
    (isEdit : after.edit? task = some (.reading left edited)) :
    HasRead after.client.files (past ++ [⟨session, action, after⟩]) later task left edited := by
  have record := serialized.record
  -- A task that goes on as before, while the files stay.
  have stays (files : after.client.files = session.client.files)
      (same : after.edit? task = session.edit? task) :
      HasRead after.client.files (past ++ [⟨session, action, after⟩]) later task left edited := by
    rw [files]
    exact hasRead_of_intact (serialized.reading task left edited (same.symm.trans isEdit))
      (.refl _) fun _ _ _ _ _ _ => rfl
  have others {changed : TaskId} {next : Option Progress}
      (files : after.client.files = session.client.files)
      (becomes : session.EditBecomes changed next after)
      (notReading : next ≠ some (.reading left edited)) :
      HasRead after.client.files (past ++ [⟨session, action, after⟩]) later task left edited := by
    apply stays files
    apply becomes.of_ne
    rintro rfl
    exact notReading (becomes.self.symm.trans isEdit)
  cases effect.editMove record.fresh with
  | apart _ _ files same => exact stays files (same task)
  | begun edit isRead next files becomes =>
      by_cases isNew : task = session.nextTask
      · subst isNew isRead
        have same := becomes.self.symm.trans isEdit
        injection same with same
        exact hasRead_of_begun next same
      · exact stays files (becomes.of_ne isNew)
  | @read reader portion path edits left' edited' file isAdvance was isEdited files becomes =>
      by_cases isReader : task = reader
      · subst isReader isAdvance
        have same := becomes.self.symm.trans isEdit
        injection same with same
        injection same with sameLeft sameEdited
        subst sameLeft sameEdited
        rw [files]
        exact hasRead_of_read (serialized.reading task _ _ was) isEdited
          (Transition.access?_of_advance was)
      · exact stays files (becomes.of_ne isReader)
  | refused _ _ files becomes => exact others files becomes nofun
  | turned _ _ files becomes => exact others files becomes nofun
  | @wrote writer portion path text left' written isAdvance was files becomes =>
      have notWriter : task ≠ writer := by
        rintro rfl
        cases becomes.self.symm.trans isEdit
      obtain ⟨names', holds', _⟩ := record.held writer _ (path, text) was (List.mem_cons_self ..)
      rw [files]
      apply hasRead_of_intact
        (serialized.reading task left edited ((becomes.of_ne notWriter).symm.trans isEdit))
        (holds'.sameShape_write text)
      intro path' names edits holds isRead isWritten
      apply WorkspaceEdit.editFile_congr
      apply holds'.readText_write_of_ne holds
      rintro rfl
      subst isAdvance
      have access : (Transition.mk session (.advance writer portion) after).access? =
          some (.write writer names) := by
        rw [Transition.access?_of_advance was, becomes.self]
        exact congrArg (Option.map _) holds'.names?
      apply notWriter
      refine (keeps task writer names ?_).symm
      rw [List.filterMap_append, List.filterMap_cons_some access]
      exact (List.singleton_sublist.mpr isRead).append
        ((List.singleton_sublist.mpr isWritten).cons_cons _)
  | failed _ _ files becomes => exact others files becomes nofun
  | ended _ _ files becomes => exact others files becomes nofun
  | answered _ _ _ files becomes => exact others files becomes nofun
  | changed files isChange => exact absurd isChange (alone files)

section Step

variable {edits : List (TaskId × WorkspaceEdit)}

/-- The files that other edits come to replace are not the ones that the edit of a task comes
to replace. -/
private theorem avoids_replaced
    (run : Run session later last) (record : EditRecord start past session)
    (leaves : LeavesFiles later) (keeps : KeepsReads (past ++ later)) {task : TaskId}
    {file : Path × String} {names : List EntryName} (isTurned : task ∈ (editLog past).turns)
    (isReplaced : file ∈ (editLog later).replaced task)
    (holds : session.client.files.HoldsFile [] file.1 names)
    (areTurned : ∀ entry, entry ∈ edits → entry.1 ∈ (editLog past).turns)
    (others : ∀ entry, entry ∈ edits → entry.1 ≠ task) :
    WorkspaceEdit.Avoids session.client.files names
      (edits.flatMap fun entry => (editLog later).replaced entry.1) := by
  intro file' member
  obtain ⟨entry, isEntry, isReplaced'⟩ := List.mem_flatMap.mp member
  have isTurned' := areTurned entry isEntry
  obtain ⟨rest, isPending, _⟩ := run.pending_eq_append record leaves isTurned'
  obtain ⟨progress, isEdit, isHeld⟩ :=
    Session.held_of_pending (isPending ▸ List.mem_append_left rest isReplaced')
  obtain ⟨names', holds', _⟩ := record.held entry.1 progress file' isEdit isHeld
  exact ⟨names', holds', run.replaced_apart record leaves keeps isTurned isTurned' isReplaced holds
    isReplaced' holds' (others entry isEntry)⟩

/-- An edit that turns comes behind those that have turned before. -/
private theorem serial_of_turned
    (serialized : Serialized start past session (⟨session, action, after⟩ :: later))
    (record : EditRecord start (past ++ [⟨session, action, after⟩]) after)
    (run : Run after later last) (leaves : LeavesFiles later)
    (keeps : KeepsReads (past ++ ⟨session, action, after⟩ :: later))
    {task : TaskId} {edited : List (Path × String)}
    (log : editLog [⟨session, action, after⟩] = [(task, .turned)])
    (isEdit : session.edit? task = some (.reading [] edited))
    (files : after.client.files = session.client.files) (now : after.pending task = edited) :
    AmountsToTurns start (past ++ [⟨session, action, after⟩]) after later := by
  obtain ⟨edits, order, requested, result⟩ := serialized.serial
  obtain ⟨edit, read, isRequest, byFile, reads⟩ := serialized.reading task [] edited isEdit
  rw [List.append_nil] at byFile
  rw [List.append_cons] at keeps result
  have turns : (editLog (past ++ [⟨session, action, after⟩])).turns =
      (editLog past).turns ++ [task] := by
    rw [editLog_append, EditLog.turns_append, log]
    rfl
  have nodup := record.nodup_turns
  rw [turns] at nodup
  have before (entry : TaskId × WorkspaceEdit) (isEntry : entry ∈ edits) : entry.1 ≠ task :=
    fun same => (List.nodup_append.mp nodup).2.2 entry.1 (order ▸ List.mem_map_of_mem isEntry) task
      (List.mem_singleton_self _) same
  have areTurned (entry : TaskId × WorkspaceEdit) (isEntry : entry ∈ edits) :
      entry.1 ∈ (editLog (past ++ [⟨session, action, after⟩])).turns := by
    rw [turns, ← order]
    exact List.mem_append_left _ (List.mem_map_of_mem isEntry)
  have isTurned : task ∈ (editLog (past ++ [⟨session, action, after⟩])).turns := by
    rw [turns]
    exact List.mem_append_right _ (List.mem_singleton_self _)
  -- Of the files it has read the edit comes to replace the first.
  obtain ⟨rest, isPending, _⟩ := run.pending_eq_append record leaves isTurned
  rw [now] at isPending
  have noneBefore : (editLog (past ++ [⟨session, action, after⟩])).replaced task = [] := by
    have course := serialized.record.course task
    rw [isEdit] at course
    rw [editLog_append, EditLog.replaced_append, log, EditLog.replaced_singleton_self,
      EditLog.replaced, course.replaced_of_reading]
    rfl
  have sameReplaced (entry : TaskId × WorkspaceEdit) (isEntry : entry ∈ edits) :
      (editLog (⟨session, action, after⟩ :: later)).replaced entry.1 =
        (editLog later).replaced entry.1 :=
    EditLog.replaced_cons later
      (log ▸ EditLog.replaced_singleton_of_ne (Ne.symm (before entry isEntry)) _)
  rw [List.flatMap_congr sameReplaced] at result
  -- What the edit has read it would read now, with all that is replaced later before.
  have comes : WorkspaceEdit.EditsTo
      (writeAll (edits.flatMap fun entry => (editLog later).replaced entry.1)
        session.client.files)
      (read.take ((editLog later).replaced task).length) ((editLog later).replaced task) := by
    have firstReads := List.forall₂_take ((editLog later).replaced task).length reads
    rw [isPending, List.take_left] at firstReads
    refine List.forall₂_iff_zip.mpr ⟨firstReads.length_eq, fun {file new} pair => ?_⟩
    obtain ⟨samePath, names, holds, _, comes⟩ := List.forall₂_zip firstReads pair
    have isReplaced : new ∈ (editLog later).replaced task := (List.of_mem_zip pair).2
    have holds' : after.client.files.HoldsFile [] new.1 names := files ▸ samePath ▸ holds
    have isWritten := run.write_of_replaced record leaves isReplaced holds'
    have avoids := avoids_replaced run record leaves keeps isTurned isReplaced holds' areTurned
      before
    rw [files] at avoids
    rw [WorkspaceEdit.editFile_writeAll holds avoids]
    apply comes
    rw [← List.singleton_append, List.filterMap_append]
    exact List.mem_append_right _ isWritten
  refine ⟨edits ++ [(task, edit)], ?_, fun other otherEdit member => ?_, ?_⟩
  · rw [List.map_append, order, turns]
    rfl
  · rw [editLog_append]
    apply List.mem_append_left
    rcases List.mem_append.mp member with isEntry | isNew
    · exact requested other otherEdit isEntry
    · obtain ⟨rfl, rfl⟩ := Prod.mk.inj (List.mem_singleton.mp isNew)
      exact isRequest
  · have count : (editLog (past ++ [⟨session, action, after⟩] ++ later)).replaced task =
        (editLog later).replaced task := by
      rw [editLog_append, EditLog.replaced_append, noneBefore, List.nil_append]
    rw [EditLog.parts_concat, count,
      WorkspaceEdit.applyPartsInTurn_concat result,
      WorkspaceEdit.applyFirst_of_editsTo byFile comes, List.flatMap_append,
      List.flatMap_singleton, files, WorkspaceEdit.writeAll_append]

/-- A file may be replaced before those that edits which turned earlier come to replace. -/
private theorem writeAll_of_wrote
    (serialized : Serialized start past session (⟨session, action, after⟩ :: later))
    (run : Run session (⟨session, action, after⟩ :: later) last)
    (leaves : LeavesFiles (⟨session, action, after⟩ :: later))
    (keeps : KeepsReads (past ++ ⟨session, action, after⟩ :: later))
    {task : TaskId} {path : Path} {text : String} {left : List (Path × String)}
    (log : editLog [⟨session, action, after⟩] = [(task, .replaced (path, text))])
    (was : session.pending task = (path, text) :: left)
    (files : after.client.files = session.client.files.write [] path text)
    (order : edits.map Prod.fst = (editLog past).turns) :
    writeAll (edits.flatMap fun entry => (editLog later).replaced entry.1) after.client.files =
      writeAll (edits.flatMap fun entry =>
        (editLog (⟨session, action, after⟩ :: later)).replaced entry.1) session.client.files := by
  have record := serialized.record
  have isPending : (path, text) ∈ session.pending task := was ▸ List.mem_cons_self ..
  obtain ⟨progress, isEdit, isHeld⟩ := Session.held_of_pending isPending
  obtain ⟨names, holds, _⟩ := record.held task progress (path, text) isEdit isHeld
  have isTurned : task ∈ (editLog past).turns := by
    have course := record.course task
    rw [isEdit] at course
    rw [Session.pending_of_edit? isEdit] at was
    rw [EditLog.mem_turns_iff]
    cases progress with
    | writing => exact course.turned_of_writing
    | reading | finished => cases was
  have now : (editLog (⟨session, action, after⟩ :: later)).replaced task =
      (path, text) :: (editLog later).replaced task := by
    rw [editLog_cons, EditLog.replaced_append, log, EditLog.replaced_singleton_self]
    rfl
  have sameReplaced (other : TaskId) (different : other ≠ task) :
      (editLog (⟨session, action, after⟩ :: later)).replaced other =
        (editLog later).replaced other :=
    EditLog.replaced_cons later (log ▸ EditLog.replaced_singleton_of_ne (Ne.symm different) _)
  have isEntry : task ∈ edits.map Prod.fst := order ▸ isTurned
  have nodup : (edits.map Prod.fst).Nodup := order ▸ record.nodup_turns
  have areTurned (entry : TaskId × WorkspaceEdit) (member : entry ∈ edits) :
      entry.1 ∈ (editLog past).turns := order ▸ List.mem_map_of_mem member
  obtain ⟨entry, member, rfl⟩ := List.mem_map.mp isEntry
  obtain ⟨front, back, rfl⟩ := List.append_of_mem member
  rw [List.map_append, List.map_cons, List.nodup_middle, List.nodup_cons, List.mem_append,
    not_or] at nodup
  obtain ⟨⟨notFront, notBack⟩, _⟩ := nodup
  have inFront (other : TaskId × WorkspaceEdit) (isOther : other ∈ front) : other.1 ≠ entry.1 :=
    fun same => notFront (same ▸ List.mem_map_of_mem isOther)
  have inBack (other : TaskId × WorkspaceEdit) (isOther : other ∈ back) : other.1 ≠ entry.1 :=
    fun same => notBack (same ▸ List.mem_map_of_mem isOther)
  have avoids := avoids_replaced run record leaves keeps isTurned
    (now ▸ List.mem_cons_self ..) holds
    (fun other isOther => areTurned other (List.mem_append_left _ isOther)) inFront
  rw [List.flatMap_congr fun other isOther => sameReplaced other.1 (inFront other isOther)]
    at avoids
  rw [List.flatMap_append, List.flatMap_append, List.flatMap_cons, List.flatMap_cons, now,
    List.flatMap_congr fun other isOther => sameReplaced other.1 (inFront other isOther),
    List.flatMap_congr fun other isOther => sameReplaced other.1 (inBack other isOther), files,
    WorkspaceEdit.writeAll_append, ← WorkspaceEdit.writeAll_write holds avoids]
  simp only [writeAll, List.foldl_append, List.foldl_cons]

theorem step
    (serialized : Serialized start past session (⟨session, action, after⟩ :: later))
    (applied : session.apply action = some after) (run : Run after later last)
    (leaves : LeavesFiles (⟨session, action, after⟩ :: later))
    (keeps : KeepsReads (past ++ ⟨session, action, after⟩ :: later)) :
    Serialized start (past ++ [⟨session, action, after⟩]) after later := by
  have effect := Session.effect_of_apply applied
  have alone : ∀ files, action ≠ .changeFiles files := leaves _ (List.mem_cons_self ..)
  have leavesLater : LeavesFiles later := fun transition member =>
    leaves transition (List.mem_cons_of_mem _ member)
  have record := serialized.record.step effect alone
  refine ⟨record, fun task left edited => serialized.reading_step effect alone keeps, ?_⟩
  have stays (noTurn : (editLog [⟨session, action, after⟩]).turns = [])
      (same : ∀ edits : List (TaskId × WorkspaceEdit),
        edits.map Prod.fst = (editLog past).turns →
        writeAll (edits.flatMap fun entry => (editLog later).replaced entry.1)
            after.client.files =
          writeAll (edits.flatMap fun entry =>
            (editLog (⟨session, action, after⟩ :: later)).replaced entry.1)
            session.client.files) :
      AmountsToTurns start (past ++ [⟨session, action, after⟩]) after later := by
    obtain ⟨edits, order, requested, result⟩ := serialized.serial
    refine ⟨edits, ?_, fun task edit member => ?_, ?_⟩
    · rw [order, editLog_append, EditLog.turns_append, noTurn, List.append_nil]
    · rw [editLog_append]
      exact List.mem_append_left _ (requested task edit member)
    · rw [← List.append_cons, result, same edits order]
  cases (effect.editMove serialized.record.fresh).pendingMove alone with
  | still aside files _ =>
      apply stays (EditLog.turns_of_aside fun entry member => (aside entry member).1)
      intro edits _
      have same (task : TaskId) := EditLog.replaced_cons later
        (EditLog.replaced_of_aside (fun entry member => (aside entry member).2) task)
      simp only [files, same]
  | turned log isEdit files now _ =>
      exact serialized.serial_of_turned record run leavesLater keeps log isEdit files now
  | wrote log _ was files _ _ =>
      apply stays (log ▸ rfl)
      intro edits order
      exact serialized.writeAll_of_wrote (run.cons applied) leaves keeps log was files order

end Step

end Serialized

theorem Run.serialized
    {start session : Session} {past : List Transition} (run : Run start past session)
    (fresh : start.HasFreshTask) (quiet : ∀ task, start.edit? task = none)
    {later : List Transition} {last : Session} (runOn : Run session later last)
    (leaves : LeavesFiles (past ++ later)) (keeps : KeepsReads (past ++ later)) :
    Serialized start past session later := by
  induction run generalizing later with
  | refl => exact .refl fresh quiet
  | step run applied inductionHypothesis =>
      rw [List.append_assoc] at leaves keeps
      have before := inductionHypothesis (runOn.cons applied) leaves keeps
      exact before.step applied runOn leaves.of_append_right keeps

/-- What has become of an edit that is over: it was refused, or has replaced all its files, or
those in front of one that could not be replaced. -/
inductive EditOutcome (edit : WorkspaceEdit) (events : List EditEvent) : Prop
  | refused :
      .turned ∉ events →
      .replied WorkspaceEdit.applied ∉ events →
      (∀ error, .failed error ∉ events) →
      EditOutcome edit events
  | whole {files : WorkspaceEdit.FileEdits} :
      edit.byFile = .ok files →
      files.map Prod.fst = (events.filterMap EditEvent.replaced?).map Prod.fst →
      .turned ∈ events →
      .replied WorkspaceEdit.applied ∈ events →
      (∀ error, .failed error ∉ events) →
      EditOutcome edit events
  | broken {files : WorkspaceEdit.FileEdits} {path : Path} {behind : List Path}
      {fault : FileError} :
      edit.byFile = .ok files →
      files.map Prod.fst =
        (events.filterMap EditEvent.replaced?).map Prod.fst ++ path :: behind →
      .turned ∈ events →
      .replied WorkspaceEdit.applied ∉ events →
      (∀ error, .failed error ∈ events ↔ error = .unwritable path fault) →
      .replied (.ok (WorkspaceEdit.resultOf (.error (.unwritable path fault)))) ∈ events →
      EditOutcome edit events

theorem EditCourse.outcome
    {edit : WorkspaceEdit} {events : List EditEvent} (course : EditCourse events none)
    (isRequested : .requested edit ∈ events) : EditOutcome edit events := by
  cases course with
  | unasked => cases isRequested
  | @answered events outcome course =>
      have isApplied := WorkspaceEdit.resultOf_eq_applied_iff outcome
      cases course with
      | refused =>
          refine .refused (by simp) ?_ (by simp)
          simpa [eq_comm] using isApplied
      | @whole edit' files replaced count byFile paths =>
          obtain rfl : edit = edit' := by simpa [EditEvent.upTo] using isRequested
          refine .whole byFile ?_ ?_ ?_ ?_
          · rw [EditEvent.filterMap_replaced?_upTo_append, List.filterMap_cons_none rfl,
              List.filterMap_nil, List.append_nil]
            exact paths
          · simp [EditEvent.upTo]
          · exact List.mem_append_right _ (List.mem_singleton.mpr
              (congrArg EditEvent.replied (isApplied.mpr ⟨count, rfl⟩).symm))
          · simp [EditEvent.upTo]
      | @failed edit' files replaced path behind fault byFile paths =>
          obtain rfl : edit = edit' := by simpa [EditEvent.upTo] using isRequested
          refine @EditOutcome.broken edit _ files path behind fault byFile ?_ ?_ ?_ ?_
            (List.mem_append_right _ (List.mem_singleton_self _))
          · rw [List.append_assoc, EditEvent.filterMap_replaced?_upTo_append]
            exact paths.trans (by simp [List.filterMap_cons, EditEvent.replaced?])
          · simp [EditEvent.upTo]
          · simpa [EditEvent.upTo, eq_comm] using isApplied
          · simp [EditEvent.upTo]

theorem EditRecord.outcome
    {start session : Session} {past : List Transition} (record : EditRecord start past session)
    (isOver : ∀ task, session.edit? task = none) {task : TaskId} {edit : WorkspaceEdit}
    (isRequested : (task, .requested edit) ∈ editLog past) :
    EditOutcome edit ((editLog past).eventsOf task) := by
  have course := record.course task
  rw [isOver task] at course
  exact course.outcome (EditLog.mem_eventsOf_iff.mpr isRequested)

namespace EditOutcome

variable {edit : WorkspaceEdit} {events : List EditEvent}

end EditOutcome

/-- Whether edits are those that are answered as applied, and come from one tree to another as
whole edits one after the other. -/
structure WholeInTurn
    (log : EditLog) (first last : FileTree) (edits : List (TaskId × WorkspaceEdit)) : Prop where
  once : (edits.map Prod.fst).Nodup
  members : ∀ task edit, (task, edit) ∈ edits ↔
    (task, .requested edit) ∈ log ∧ (task, .replied WorkspaceEdit.applied) ∈ log
  result : WorkspaceEdit.applyInTurn (edits.map Prod.snd) first = some last

def EditLog.appliedEdits (log : EditLog) : List (TaskId × WorkspaceEdit) :=
  log.filterMap fun entry =>
    match entry.2 with
    | .requested edit =>
        if (entry.1, .replied WorkspaceEdit.applied) ∈ log then some (entry.1, edit) else none
    | _ => none

theorem EditLog.mem_appliedEdits_iff {log : EditLog} {task : TaskId} {edit : WorkspaceEdit} :
    (task, edit) ∈ log.appliedEdits ↔
      (task, .requested edit) ∈ log ∧ (task, .replied WorkspaceEdit.applied) ∈ log := by
  rw [appliedEdits, List.mem_filterMap]
  constructor
  · rintro ⟨⟨task', event⟩, isEntry, isApplied⟩
    cases event with
    | requested edit' =>
        obtain ⟨isReplied, same⟩ := Option.ite_none_right_eq_some.mp isApplied
        obtain ⟨rfl, rfl⟩ := Prod.mk.inj (Option.some.inj same)
        exact ⟨isEntry, isReplied⟩
    | turned | replaced | failed | replied => cases isApplied
  · rintro ⟨isEntry, isReplied⟩
    exact ⟨_, isEntry, if_pos isReplied⟩

theorem WholeInTurn.perm
    {log : EditLog} {first last : FileTree} {edits : List (TaskId × WorkspaceEdit)}
    (whole : WholeInTurn log first last edits) (nodup : log.appliedEdits.Nodup) :
    edits.Perm log.appliedEdits :=
  (List.perm_ext_iff_of_nodup whole.once.of_map nodup).mpr fun entry =>
    (whole.members entry.1 entry.2).trans EditLog.mem_appliedEdits_iff.symm

end LanguageClient
