import LanguageClient.Proofs.Edits.Effect
import LanguageClient.Proofs.Edits.Progress
import LanguageClient.Proofs.Sequence

/-!
# The past of edits

The past of a session tells of its edits in a log: which were asked for, which have turned
from reading their files to replacing them, which files were replaced, and how each edit was
answered.  An edit keeps to one course: it reads all its files, then replaces them in order,
up to the first that cannot be replaced, and is answered for how far it has come.
-/

namespace LanguageClient

open WorkspaceEdit (Progress)

/-! ## What transitions do -/

inductive FileAccess where
  | read (task : TaskId) (file : List EntryName)
  | write (task : TaskId) (file : List EntryName)
deriving DecidableEq

inductive EditEvent where
  | requested (edit : WorkspaceEdit)
  /-- All its files have been read. -/
  | turned
  | replaced (file : Path × String)
  /-- A file could not be replaced. -/
  | failed (error : EditError)
  | replied (answer : Answer)
deriving DecidableEq

namespace WorkspaceEdit

def applied : Answer := .ok (.ofMembers [("applied", .bool true)])

theorem resultOf_eq_applied_iff (outcome : Except EditError Nat) :
    Except.ok (resultOf outcome) = applied ↔ ∃ count, outcome = .ok count := by
  cases outcome with
  | ok count => exact ⟨fun _ => ⟨count, rfl⟩, fun _ => rfl⟩
  | error error =>
      constructor
      · intro same
        have sameMember := congrArg (fun answer : Answer =>
          answer.toOption.bind fun value => value.member? "failureReason") same
        cases sameMember
      · rintro ⟨count, same⟩
        cases same

namespace Progress

def isGivenUp : Progress → Bool
  | .finished (.error _) => true
  | _ => false

/-- The access to a file in the step of an edit to what comes next.  A file that cannot be
replaced is left alone. -/
def access? (task : TaskId) (tree : FileTree) (next : Option Progress) :
    Progress → Option FileAccess
  | .reading (file :: _) _ => (tree.names? [] file.1).map (.read task)
  | .writing (file :: _) _ =>
      if next.any isGivenUp then none else (tree.names? [] file.1).map (.write task)
  | _ => none

/-- What becomes of an edit in its step to what comes next, or to an answer. -/
def event? (next : Option Progress) (answer : Option Answer) : Progress → Option EditEvent
  | .reading [] _ => some .turned
  | .writing (file :: _) _ =>
      match next with
      | some (.finished (.error error)) => some (.failed error)
      | _ => some (.replaced file)
  | .finished _ => answer.map .replied
  | _ => none

/-- The files that an edit has read and not replaced yet, with their new texts. -/
def held : Progress → List (Path × String)
  | .reading _ edited => edited
  | .writing left _ => left
  | .finished _ => []

/-- The files that an edit has turned to replace and not replaced yet. -/
def pending : Progress → List (Path × String)
  | .writing left _ => left
  | _ => []

theorem held_start (edit : WorkspaceEdit) : (start edit).held = [] := by
  unfold start
  cases edit.byFile <;> rfl

end Progress

end WorkspaceEdit

namespace Transition

def event? (transition : Transition) : Option (TaskId × EditEvent) :=
  match transition.action with
  | .read => transition.before.nextEdit?.map fun (task, edit) => (task, .requested edit)
  | .advance task _ =>
      (transition.before.edit? task).bind fun progress =>
        (progress.event? (transition.after.edit? task)
          (transition.after.view Operation.reply? none task)).map fun event => (task, event)
  | _ => none

def access? (transition : Transition) : Option FileAccess :=
  match transition.action with
  | .advance task _ =>
      (transition.before.edit? task).bind fun progress =>
        progress.access? task transition.before.client.files (transition.after.edit? task)
  | _ => none

section Facts

variable {session after : Session} {action : Action} {task : TaskId} {portion : Nat}
  {progress : Progress}

theorem event?_of_advance (isEdit : session.edit? task = some progress) :
    (Transition.mk session (.advance task portion) after).event? =
      (progress.event? (after.edit? task) (after.view Operation.reply? none task)).map
        fun event => (task, event) := by
  simp only [event?, isEdit, Option.bind_some]

theorem access?_of_advance (isEdit : session.edit? task = some progress) :
    (Transition.mk session (.advance task portion) after).access? =
      progress.access? task session.client.files (after.edit? task) := by
  simp only [access?, isEdit, Option.bind_some]

theorem event?_of_apart
    (after : Session)
    (idle : ∀ task portion, action = .advance task portion → session.edit? task = none)
    (noRequest : action = .read → session.nextEdit? = none) :
    (Transition.mk session action after).event? = none := by
  unfold event?
  split
  · rename_i isRead
    rw [noRequest isRead, Option.map_none]
  · rename_i task portion isAdvance
    rw [idle task portion isAdvance, Option.bind_none]
  · rfl

end Facts

end Transition

/-! ## Logs -/

namespace EditEvent

def isTurned : EditEvent → Bool
  | .turned => true
  | _ => false

def replaced? : EditEvent → Option (Path × String)
  | .replaced file => some file
  | _ => none

end EditEvent

/-- What becomes of edits, with the tasks that are at work on them. -/
abbrev EditLog := List (TaskId × EditEvent)

def editLog (past : List Transition) : EditLog := past.filterMap Transition.event?

namespace EditLog

def eventsOf (task : TaskId) (log : EditLog) : List EditEvent :=
  log.filterMap fun entry => if entry.1 = task then some entry.2 else none

/-- The tasks whose edits turn, in this order. -/
def turns (log : EditLog) : List TaskId :=
  (log.filter fun entry => entry.2.isTurned).map Prod.fst

/-- The files that the edit of a task replaces, with their new texts. -/
def replaced (task : TaskId) (log : EditLog) : List (Path × String) :=
  (log.eventsOf task).filterMap EditEvent.replaced?

variable {log : EditLog} {task : TaskId} {event : EditEvent}

theorem mem_eventsOf_iff : event ∈ log.eventsOf task ↔ (task, event) ∈ log := by
  simp [eventsOf, List.mem_filterMap]

theorem eventsOf_append (log more : EditLog) (task : TaskId) :
    (log ++ more).eventsOf task = log.eventsOf task ++ more.eventsOf task :=
  List.filterMap_append

theorem replaced_append (log more : EditLog) (task : TaskId) :
    (log ++ more).replaced task = log.replaced task ++ more.replaced task := by
  rw [replaced, eventsOf_append, List.filterMap_append, replaced, replaced]

theorem turns_append (log more : EditLog) : (log ++ more).turns = log.turns ++ more.turns := by
  simp only [turns, List.filter_append, List.map_append]

theorem eventsOf_singleton_self (task : TaskId) (event : EditEvent) :
    eventsOf task [(task, event)] = [event] := by
  simp [eventsOf]

theorem eventsOf_singleton_of_ne {other : TaskId} (different : other ≠ task) (event : EditEvent) :
    eventsOf task [(other, event)] = [] := by
  simp [eventsOf, different]

theorem mem_turns_iff : task ∈ log.turns ↔ .turned ∈ log.eventsOf task := by
  rw [mem_eventsOf_iff]
  constructor
  · intro member
    obtain ⟨⟨mover, event⟩, isEntry, rfl⟩ := List.mem_map.mp member
    obtain ⟨isEntry, isTurned⟩ := List.mem_filter.mp isEntry
    cases event with
    | turned => exact isEntry
    | requested | replaced | failed | replied => cases isTurned
  · intro member
    exact List.mem_map.mpr ⟨_, List.mem_filter.mpr ⟨member, rfl⟩, rfl⟩

theorem count_turns : log.turns.count task = (log.eventsOf task).countP EditEvent.isTurned := by
  rw [turns, List.count, List.countP_map, List.countP_filter, eventsOf, List.countP_filterMap]
  apply List.countP_congr
  rintro ⟨mover, event⟩ -
  by_cases same : mover = task <;> simp [same]

end EditLog

theorem editLog_append (past later : List Transition) :
    editLog (past ++ later) = editLog past ++ editLog later :=
  List.filterMap_append

theorem editLog_cons (transition : Transition) (later : List Transition) :
    editLog (transition :: later) = editLog [transition] ++ editLog later :=
  editLog_append [transition] later

theorem editLog_singleton (transition : Transition) :
    editLog [transition] = transition.event?.toList := by
  cases isEvent : transition.event? <;> simp [editLog, isEvent]

/-! ## The course of an edit -/

def EditEvent.upTo (edit : WorkspaceEdit) (files : List (Path × String)) : List EditEvent :=
  .requested edit :: .turned :: files.map .replaced

/-- What can have become of an edit that has come so far. -/
inductive EditCourse : List EditEvent → Option Progress → Prop
  | unasked : EditCourse [] none
  | reading {edit : WorkspaceEdit} {files left : WorkspaceEdit.FileEdits}
      {edited : List (Path × String)} :
      edit.byFile = .ok files →
      files.map Prod.fst = edited.map Prod.fst ++ left.map Prod.fst →
      EditCourse [.requested edit] (some (.reading left edited))
  | refused {edit : WorkspaceEdit} {error : EditError} :
      EditCourse [.requested edit] (some (.finished (.error error)))
  | writing {edit : WorkspaceEdit} {files : WorkspaceEdit.FileEdits}
      {replaced left : List (Path × String)} {written : Nat} :
      edit.byFile = .ok files →
      files.map Prod.fst = replaced.map Prod.fst ++ left.map Prod.fst →
      EditCourse (EditEvent.upTo edit replaced) (some (.writing left written))
  | whole {edit : WorkspaceEdit} {files : WorkspaceEdit.FileEdits}
      {replaced : List (Path × String)} {count : Nat} :
      edit.byFile = .ok files →
      files.map Prod.fst = replaced.map Prod.fst →
      EditCourse (EditEvent.upTo edit replaced) (some (.finished (.ok count)))
  | failed {edit : WorkspaceEdit} {files : WorkspaceEdit.FileEdits}
      {replaced : List (Path × String)} {path : Path} {behind : List Path} {fault : FileError} :
      edit.byFile = .ok files →
      files.map Prod.fst = replaced.map Prod.fst ++ path :: behind →
      EditCourse (EditEvent.upTo edit replaced ++ [.failed (.unwritable path fault)])
        (some (.finished (.error (.unwritable path fault))))
  | answered {events : List EditEvent} {outcome : Except EditError Nat} :
      EditCourse events (some (.finished outcome)) →
      EditCourse (events ++ [.replied (.ok (WorkspaceEdit.resultOf outcome))]) none

theorem EditEvent.countP_isTurned_upTo (edit : WorkspaceEdit) (files : List (Path × String)) :
    (upTo edit files).countP isTurned = 1 := by
  have noTurn : (files.map EditEvent.replaced).countP isTurned = 0 := by
    rw [List.countP_map]
    exact List.countP_eq_zero.mpr fun _ _ => nofun
  rw [upTo, List.countP_cons, List.countP_cons, noTurn]
  rfl

theorem EditEvent.filterMap_replaced?_upTo_append
    (edit : WorkspaceEdit) (files : List (Path × String)) (more : List EditEvent) :
    (upTo edit files ++ more).filterMap replaced? = files ++ more.filterMap replaced? := by
  have areFiles : (files.map EditEvent.replaced).filterMap replaced? = files := by
    rw [List.filterMap_map]
    exact List.filterMap_some
  rw [List.filterMap_append, upTo, List.filterMap_cons_none rfl, List.filterMap_cons_none rfl,
    areFiles]

namespace EditCourse

variable {events : List EditEvent} {progress : Option Progress}

/-- An edit turns once at most. -/
theorem countP_isTurned_le (course : EditCourse events progress) :
    events.countP EditEvent.isTurned ≤ 1 := by
  induction course with
  | unasked | reading | refused => simp [EditEvent.isTurned]
  | writing | whole => exact (EditEvent.countP_isTurned_upTo _ _).le
  | failed =>
      rw [List.countP_append, EditEvent.countP_isTurned_upTo]
      exact Nat.le_refl 1
  | answered _ inductionHypothesis => simpa [EditEvent.isTurned] using inductionHypothesis

/-- An edit that is still reading has replaced nothing. -/
theorem replaced_of_reading
    {left : WorkspaceEdit.FileEdits} {edited : List (Path × String)}
    (course : EditCourse events (some (.reading left edited))) :
    events.filterMap EditEvent.replaced? = [] := by
  cases course
  rfl

theorem turned_of_writing
    {left : List (Path × String)} {written : Nat}
    (course : EditCourse events (some (.writing left written))) : .turned ∈ events := by
  cases course
  exact List.mem_cons_of_mem _ (List.mem_cons_self ..)

/-! ### Its steps -/

theorem start (edit : WorkspaceEdit) : EditCourse [.requested edit] (some (.start edit)) := by
  unfold Progress.start
  cases byFile : edit.byFile with
  | error error => exact .refused
  | ok files => exact .reading byFile rfl

section Steps

variable {left : WorkspaceEdit.FileEdits} {edited unwritten : List (Path × String)} {written : Nat}

theorem read
    {path : Path} {edits : List TextEdit} {file : Path × String}
    (course : EditCourse events (some (.reading ((path, edits) :: left) edited)))
    (sameName : file.1 = path) : EditCourse events (some (.reading left (edited ++ [file]))) := by
  cases course with
  | reading byFile paths => exact .reading byFile (by simpa [sameName] using paths)

theorem turn (course : EditCourse events (some (.reading [] edited))) :
    EditCourse (events ++ [.turned]) (some (.writing edited 0)) := by
  cases course with
  | @reading edit files _ _ byFile paths =>
      rw [List.map_nil, List.append_nil] at paths
      exact @writing edit files [] edited 0 byFile paths

theorem write
    {file : Path × String}
    (course : EditCourse events (some (.writing (file :: unwritten) written))) :
    EditCourse (events ++ [.replaced file]) (some (.writing unwritten (written + 1))) := by
  cases course with
  | @writing edit files replaced _ _ byFile paths =>
      have events : EditEvent.upTo edit replaced ++ [.replaced file] =
          EditEvent.upTo edit (replaced ++ [file]) := by simp [EditEvent.upTo]
      rw [events]
      exact .writing byFile (by simpa using paths)

theorem giveUp
    {path : Path} {text : String} (fault : FileError)
    (course : EditCourse events (some (.writing ((path, text) :: unwritten) written))) :
    EditCourse (events ++ [.failed (.unwritable path fault)])
      (some (.finished (.error (.unwritable path fault)))) := by
  cases course with
  | writing byFile paths => exact .failed byFile paths

theorem finish (course : EditCourse events (some (.writing [] written))) :
    EditCourse events (some (.finished (.ok written))) := by
  cases course with
  | writing byFile paths => exact .whole byFile (by simpa using paths)

end Steps

end EditCourse

/-! ## The record of a past -/

theorem Session.lt_of_edit?
    {session : Session} (fresh : session.HasFreshTask) {task : TaskId} {progress : Progress}
    (isEdit : session.edit? task = some progress) : task < session.nextTask := by
  obtain ⟨operation, found, _⟩ := found_of_view isEdit nofun
  exact fresh.lt found

theorem Session.EditBecomes.self
    {session after : Session} {task : TaskId} {next : Option Progress}
    (becomes : session.EditBecomes task next after) : after.edit? task = next :=
  (becomes task).trans (if_pos rfl)

theorem Session.EditBecomes.of_ne
    {session after : Session} {task other : TaskId} {next : Option Progress}
    (becomes : session.EditBecomes task next after) (different : other ≠ task) :
    after.edit? other = session.edit? other :=
  (becomes other).trans (if_neg different)

/-- What a past tells of the edits under way and of those that are over. -/
structure EditRecord (start : Session) (past : List Transition) (session : Session) : Prop where
  fresh : session.HasFreshTask
  /-- Edits leave the directories as they are. -/
  shape : FileTree.SameShape start.client.files session.client.files
  /-- A file that an edit is still to replace is there, and the edit has read it. -/
  held : ∀ task progress file, session.edit? task = some progress → file ∈ progress.held →
    ∃ names, session.client.files.HoldsFile [] file.1 names ∧
      .read task names ∈ past.filterMap Transition.access?
  course : ∀ task, EditCourse ((editLog past).eventsOf task) (session.edit? task)
  /-- No edit was asked for under a number that is still to be given. -/
  unasked : ∀ task, session.nextTask ≤ task → (editLog past).eventsOf task = []

namespace EditRecord

variable {start session after : Session} {past : List Transition} {action : Action}

/-- A session with no edit under way, as a past begins with. -/
theorem refl (fresh : start.HasFreshTask) (quiet : ∀ task, start.edit? task = none) :
    EditRecord start [] start where
  fresh := fresh
  shape := .refl _
  held := fun task _ _ isEdit => nomatch (quiet task).symm.trans isEdit
  course := fun task => quiet task ▸ .unasked
  unasked := fun _ _ => rfl

/-- No edit turns twice. -/
theorem nodup_turns (record : EditRecord start past session) : (editLog past).turns.Nodup := by
  rw [List.nodup_iff_count_le_one]
  intro task
  rw [EditLog.count_turns]
  exact (record.course task).countP_isTurned_le

private theorem held_of_becomes
    (record : EditRecord start past session) {task : TaskId} {next : Option Progress}
    {later : List FileAccess} (becomes : session.EditBecomes task next after)
    (shape : FileTree.SameShape session.client.files after.client.files)
    (now : ∀ progress file, next = some progress → file ∈ progress.held →
      (∃ before, session.edit? task = some before ∧ file ∈ before.held) ∨
        ∃ names, session.client.files.HoldsFile [] file.1 names ∧ .read task names ∈ later) :
    ∀ other progress file, after.edit? other = some progress → file ∈ progress.held →
      ∃ names, after.client.files.HoldsFile [] file.1 names ∧
        .read other names ∈ past.filterMap Transition.access? ++ later := by
  have kept (other : TaskId) (before : Progress) (file : Path × String)
      (was : session.edit? other = some before) (member : file ∈ before.held) :
      ∃ names, after.client.files.HoldsFile [] file.1 names ∧
        .read other names ∈ past.filterMap Transition.access? ++ later := by
    obtain ⟨names, holds, isRead⟩ := record.held other before file was member
    exact ⟨names, holds.of_sameShape shape, List.mem_append_left _ isRead⟩
  intro other progress file isEdit member
  by_cases isTask : other = task
  · subst isTask
    rcases now progress file (becomes.self.symm.trans isEdit) member with
      ⟨before, was, member⟩ | ⟨names, holds, isRead⟩
    · exact kept other before file was member
    · exact ⟨names, holds.of_sameShape shape, List.mem_append_right _ isRead⟩
  · exact kept other progress file ((becomes.of_ne isTask).symm.trans isEdit) member

/-- The step of one edit, which adds an event to its course or none. -/
private theorem of_becomes
    (record : EditRecord start past session) (effect : Session.Effect session action after)
    {task : TaskId} {next : Option Progress} (event : Option EditEvent)
    (logged : (Transition.mk session action after).event? = event.map fun event => (task, event))
    (becomes : session.EditBecomes task next after)
    (isOld : event.isSome = true → task < after.nextTask)
    (course : EditCourse ((editLog past).eventsOf task) (session.edit? task) →
      EditCourse ((editLog past).eventsOf task ++ event.toList) next)
    (shape : FileTree.SameShape session.client.files after.client.files)
    (now : ∀ progress file, next = some progress → file ∈ progress.held →
      (∃ before, session.edit? task = some before ∧ file ∈ before.held) ∨
        ∃ names, session.client.files.HoldsFile [] file.1 names ∧
          .read task names ∈ (Transition.mk session action after).access?.toList) :
    EditRecord start (past ++ [⟨session, action, after⟩]) after := by
  have events : (editLog [Transition.mk session action after]).eventsOf task = event.toList := by
    rw [editLog_singleton, logged]
    cases event with
    | none => rfl
    | some event => exact EditLog.eventsOf_singleton_self task event
  have others {other : TaskId} (different : other ≠ task) :
      (editLog [Transition.mk session action after]).eventsOf other = [] := by
    rw [editLog_singleton, logged]
    cases event with
    | none => rfl
    | some event => exact EditLog.eventsOf_singleton_of_ne (Ne.symm different) event
  exact {
    fresh := record.fresh.effect effect
    shape := record.shape.trans shape
    held := by
      rw [filterMap_concat]
      exact record.held_of_becomes becomes shape now
    course := by
      intro other
      rw [editLog_append, EditLog.eventsOf_append]
      by_cases isTask : other = task
      · rw [isTask, events, becomes.self]
        exact course (record.course task)
      · rw [others isTask, List.append_nil, becomes.of_ne isTask]
        exact record.course other
    unasked := by
      intro other isNew
      rw [editLog_append, EditLog.eventsOf_append,
        record.unasked other (effect.nextTask_le.trans isNew), List.nil_append]
      by_cases isTask : other = task
      · rw [isTask, events]
        cases event with
        | none => rfl
        | some event => exact absurd (isTask ▸ isNew) (Nat.not_le_of_lt (isOld rfl))
      · exact others isTask }

/-- The same for a step that a task takes of its edit. -/
private theorem of_advanced
    (record : EditRecord start past session) {task : TaskId} {portion : Nat} {progress : Progress}
    {next : Option Progress} (event : Option EditEvent)
    (effect : Session.Effect session (.advance task portion) after)
    (isEdit : session.edit? task = some progress) (becomes : session.EditBecomes task next after)
    (isEvent : progress.event? next (after.view Operation.reply? none task) = event)
    (course : ∀ events, EditCourse events (some progress) →
      EditCourse (events ++ event.toList) next)
    (shape : FileTree.SameShape session.client.files after.client.files)
    (now : ∀ after file, next = some after → file ∈ after.held → file ∈ progress.held ∨
      ∃ names, session.client.files.HoldsFile [] file.1 names ∧
        progress.access? task session.client.files next = some (.read task names)) :
    EditRecord start (past ++ [⟨session, .advance task portion, after⟩]) after := by
  refine record.of_becomes effect event ?_ becomes ?_ ?_ shape fun held file same member => ?_
  · rw [Transition.event?_of_advance isEdit, becomes.self, isEvent]
  · intro
    exact (Session.lt_of_edit? record.fresh isEdit).trans_le effect.nextTask_le
  · exact fun before => course _ (isEdit ▸ before)
  · rcases now held file same member with earlier | ⟨names, holds, isRead⟩
    · exact Or.inl ⟨progress, isEdit, earlier⟩
    · rw [Transition.access?_of_advance isEdit, becomes.self, isRead]
      exact Or.inr ⟨names, holds, List.mem_singleton_self _⟩

/-- The record after one more transition, if nobody else changes files. -/
theorem step
    (record : EditRecord start past session) (effect : Session.Effect session action after)
    (alone : ∀ files, action ≠ .changeFiles files) :
    EditRecord start (past ++ [⟨session, action, after⟩]) after := by
  have newIdle : session.edit? session.nextTask = none :=
    Session.view_of_absent (record.fresh.task?_of_le (Nat.le_refl _))
  cases effect.editMove record.fresh with
  | apart idle noRequest files same =>
      have becomes : session.EditBecomes session.nextTask none after := fun other => by
        rw [same]
        split
        · rename_i isNew
          exact isNew ▸ newIdle
        · rfl
      refine record.of_becomes effect none (Transition.event?_of_apart after idle noRequest) becomes
        nofun ?_ (files ▸ .refl _) nofun
      rw [newIdle, Option.toList_none, List.append_nil]
      exact id
  | begun edit isRead request files becomes =>
      subst isRead
      refine record.of_becomes effect (some (.requested edit)) ?_ becomes ?_ ?_ (files ▸ .refl _) ?_
      · simp only [Transition.event?, request, Option.map_some]
      · intro
        exact Session.lt_of_edit? (record.fresh.effect effect) becomes.self
      · intro
        rw [record.unasked _ (Nat.le_refl _)]
        exact .start edit
      · intro progress file same member
        injection same with same
        rw [← same, Progress.held_start] at member
        cases member
  | @read task portion path edits left edited file isAdvance isEdit isEdited files becomes =>
      subst isAdvance
      refine record.of_advanced none effect isEdit becomes rfl (fun events course => ?_)
        (files ▸ .refl _) fun held file' same member => ?_
      · rw [Option.toList_none, List.append_nil]
        exact course.read (WorkspaceEdit.fst_of_editFile isEdited)
      · injection same with same
        rw [← same] at member
        rcases List.mem_append.mp member with earlier | isFile
        · exact Or.inl earlier
        · obtain rfl := List.mem_singleton.mp isFile
          obtain ⟨names, holds⟩ := WorkspaceEdit.holdsFile_of_editFile isEdited
          rw [WorkspaceEdit.fst_of_editFile isEdited]
          exact Or.inr ⟨names, holds, congrArg (Option.map _) holds.names?⟩
  | refused isAdvance isEdit files becomes =>
      subst isAdvance
      refine record.of_advanced none effect isEdit becomes rfl (fun events course => ?_)
        (files ▸ .refl _) ?_
      · rw [Option.toList_none, List.append_nil]
        cases course with
        | reading => exact .refused
      · rintro _ file ⟨⟩ ⟨⟩
  | turned isAdvance isEdit files becomes =>
      subst isAdvance
      refine record.of_advanced _ effect isEdit becomes rfl (fun events course => course.turn)
        (files ▸ .refl _) ?_
      rintro _ file ⟨⟩ member
      exact Or.inl member
  | @wrote task portion path text left written isAdvance isEdit files becomes =>
      subst isAdvance
      obtain ⟨names, holds, _⟩ := record.held task _ (path, text) isEdit (List.mem_cons_self ..)
      refine record.of_advanced _ effect isEdit becomes rfl (fun events course => course.write)
        (files ▸ holds.sameShape_write text) ?_
      rintro _ file ⟨⟩ member
      exact Or.inl (List.mem_cons_of_mem _ member)
  | failed isAdvance isEdit files becomes =>
      subst isAdvance
      refine record.of_advanced _ effect isEdit becomes rfl (fun events course => course.giveUp _)
        (files ▸ .refl _) ?_
      rintro _ file ⟨⟩ ⟨⟩
  | ended isAdvance isEdit files becomes =>
      subst isAdvance
      refine record.of_advanced none effect isEdit becomes rfl (fun events course => ?_)
        (files ▸ .refl _) ?_
      · rw [Option.toList_none, List.append_nil]
        exact course.finish
      · rintro _ file ⟨⟩ ⟨⟩
  | answered isAdvance isEdit reply files becomes =>
      subst isAdvance
      exact record.of_advanced _ effect isEdit becomes (congrArg (Option.map _) reply)
        (fun events course => course.answered) (files ▸ .refl _) nofun
  | changed files isChange => exact absurd isChange (alone files)

end EditRecord

end LanguageClient
