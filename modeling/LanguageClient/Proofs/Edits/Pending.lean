import LanguageClient.Proofs.Edits.History
import LanguageClient.Proofs.Sequence

/-!
# What edits are still to write

What an edit replaces from a time on, when it has turned to replace its files, are the
first of those that were still to be replaced then.  If no file is replaced between an
edit's reading it and its replacing it, no two edits that have turned come to replace the
same file.
-/

namespace LanguageClient

open WorkspaceEdit (Progress)

/-! ## What is still to be written -/

namespace Session

/-- The files that the edit of a task has turned to replace and not replaced yet. -/
def pending (session : Session) (task : TaskId) : List (Path × String) :=
  ((session.edit? task).map Progress.pending).getD []

variable {session after : Session} {action : Action}

theorem pending_of_edit?
    {task : TaskId} {progress : Progress} (isEdit : session.edit? task = some progress) :
    session.pending task = progress.pending := by
  simp only [pending, isEdit, Option.map_some, Option.getD_some]

theorem pending_of_idle {task : TaskId} (idle : session.edit? task = none) :
    session.pending task = [] := by
  simp only [pending, idle, Option.map_none, Option.getD_none]

theorem EditBecomes.pending_of_ne
    {task other : TaskId} {next : Option Progress}
    (becomes : session.EditBecomes task next after) (different : other ≠ task) :
    after.pending other = session.pending other := by
  simp only [pending, becomes.of_ne different]

/-- How an action changes what is still to be written: an edit may also give it up. -/
inductive PendingMove (session : Session) (action : Action) (after : Session) : Prop
  | still :
      (∀ entry, entry ∈ editLog [⟨session, action, after⟩] →
        entry.2.isTurned = false ∧ entry.2.replaced? = none) →
      after.client.files = session.client.files →
      (∀ task, after.pending task = session.pending task ∨ after.pending task = []) →
      PendingMove session action after
  | turned {task : TaskId} {edited : List (Path × String)} :
      editLog [⟨session, action, after⟩] = [(task, .turned)] →
      session.edit? task = some (.reading [] edited) →
      after.client.files = session.client.files →
      after.pending task = edited →
      (∀ other, other ≠ task → after.pending other = session.pending other) →
      PendingMove session action after
  | wrote {task : TaskId} {path : Path} {text : String} {left : List (Path × String)} :
      editLog [⟨session, action, after⟩] = [(task, .replaced (path, text))] →
      (Transition.mk session action after).access? =
        (session.client.files.names? [] path).map (.write task) →
      session.pending task = (path, text) :: left →
      after.client.files = session.client.files.write [] path text →
      after.pending task = left →
      (∀ other, other ≠ task → after.pending other = session.pending other) →
      PendingMove session action after

/-- A step of an edit in which nothing is replaced, though it may be given up. -/
private theorem pendingMove_of_becomes
    {task : TaskId} {next : Option Progress} (becomes : session.EditBecomes task next after)
    (log : ∀ entry, entry ∈ editLog [⟨session, action, after⟩] →
      entry.2.isTurned = false ∧ entry.2.replaced? = none)
    (files : after.client.files = session.client.files)
    (same : (next.map Progress.pending).getD [] = []) : PendingMove session action after := by
  refine .still log files fun other => ?_
  by_cases isTask : other = task
  · rw [isTask, pending, becomes.self, same]
    exact Or.inr rfl
  · exact Or.inl (becomes.pending_of_ne isTask)

theorem EditMove.pendingMove
    (move : EditMove session action after) (alone : ∀ files, action ≠ .changeFiles files) :
    PendingMove session action after := by
  -- What is written in the log for a step of an edit.
  have logged {task : TaskId} {portion : Nat} {progress : Progress} {next : Option Progress}
      (isAdvance : action = .advance task portion) (isEdit : session.edit? task = some progress)
      (becomes : session.EditBecomes task next after) :
      editLog [⟨session, action, after⟩] =
        ((progress.event? next (after.view Operation.reply? none task)).map
          fun event => (task, event)).toList := by
    rw [isAdvance, editLog_singleton, Transition.event?_of_advance isEdit, becomes.self]
  cases move with
  | apart idle noRequest files same =>
      refine .still ?_ files fun task => Or.inl (by simp only [pending, same])
      rw [editLog_singleton, Transition.event?_of_apart after idle noRequest]
      exact List.forall_mem_nil _
  | begun edit isRead request files becomes =>
      subst isRead
      refine pendingMove_of_becomes becomes ?_ files ?_
      · simp [editLog_singleton, Transition.event?, request, EditEvent.isTurned,
          EditEvent.replaced?]
      · unfold Progress.start
        cases edit.byFile <;> rfl
  | read isAdvance isEdit _ files becomes =>
      refine pendingMove_of_becomes becomes ?_ files rfl
      rw [logged isAdvance isEdit becomes]
      exact List.forall_mem_nil _
  | refused isAdvance isEdit files becomes =>
      refine pendingMove_of_becomes becomes ?_ files rfl
      rw [logged isAdvance isEdit becomes]
      exact List.forall_mem_nil _
  | turned isAdvance isEdit files becomes =>
      exact .turned (logged isAdvance isEdit becomes) isEdit files (pending_of_edit? becomes.self)
        fun other => becomes.pending_of_ne
  | wrote isAdvance isEdit files becomes =>
      refine .wrote (logged isAdvance isEdit becomes) ?_ (pending_of_edit? isEdit) files
        (pending_of_edit? becomes.self) fun other => becomes.pending_of_ne
      subst isAdvance
      rw [Transition.access?_of_advance isEdit, becomes.self]
      rfl
  | failed isAdvance isEdit files becomes =>
      refine pendingMove_of_becomes becomes ?_ files rfl
      rw [logged isAdvance isEdit becomes]
      rintro entry member
      rw [List.mem_singleton.mp member]
      exact ⟨rfl, rfl⟩
  | ended isAdvance isEdit files becomes =>
      refine pendingMove_of_becomes becomes ?_ files rfl
      rw [logged isAdvance isEdit becomes]
      exact List.forall_mem_nil _
  | answered isAdvance isEdit reply files becomes =>
      refine pendingMove_of_becomes becomes ?_ files rfl
      rw [logged isAdvance isEdit becomes, reply]
      rintro entry member
      rw [List.mem_singleton.mp member]
      exact ⟨rfl, rfl⟩
  | changed files isChange => exact absurd isChange (alone files)

end Session

namespace EditLog

variable {log : EditLog}

theorem turns_of_aside (aside : ∀ entry, entry ∈ log → entry.2.isTurned = false) :
    log.turns = [] := by
  rw [turns, List.filter_eq_nil_iff.mpr fun entry member => by simp [aside entry member]]
  rfl

theorem replaced_of_aside
    (aside : ∀ entry, entry ∈ log → entry.2.replaced? = none) (task : TaskId) :
    log.replaced task = [] := by
  rw [replaced, List.filterMap_eq_nil_iff]
  exact fun event member => aside _ (mem_eventsOf_iff.mp member)

theorem replaced_singleton_of_ne
    {mover task : TaskId} (different : mover ≠ task) (event : EditEvent) :
    replaced task [(mover, event)] = [] := by
  rw [replaced, eventsOf_singleton_of_ne different]
  rfl

theorem replaced_singleton_self (task : TaskId) (event : EditEvent) :
    replaced task [(task, event)] = event.replaced?.toList := by
  rw [replaced, eventsOf_singleton_self]
  cases isFile : event.replaced? <;> simp [isFile]

theorem replaced_cons
    {transition : Transition} {task : TaskId} (later : List Transition)
    (nothing : (editLog [transition]).replaced task = []) :
    (editLog (transition :: later)).replaced task = (editLog later).replaced task := by
  rw [editLog_cons, replaced_append, nothing, List.nil_append]

end EditLog

/-! ## Files that are written later -/

/-- Nobody but edits changes files. -/
def LeavesFiles (past : List Transition) : Prop :=
  ∀ transition, transition ∈ past → ∀ files, transition.action ≠ .changeFiles files

/-- Between an edit's reading a file and its replacing it no other edit replaces it. -/
def KeepsReads (past : List Transition) : Prop :=
  ∀ task other file,
    [.read task file, .write other file, .write task file].Sublist
      (past.filterMap Transition.access?) → other = task

section Later

variable {start session last : Session} {earlier later : List Transition}

theorem LeavesFiles.of_append_left (leaves : LeavesFiles (earlier ++ later)) :
    LeavesFiles earlier :=
  fun transition member => leaves transition (List.mem_append_left _ member)

theorem LeavesFiles.of_append_right (leaves : LeavesFiles (earlier ++ later)) :
    LeavesFiles later :=
  fun transition member => leaves transition (List.mem_append_right _ member)

/-- The record of a past behind a later run. -/
theorem Run.editRecord
    (run : Run session later last) (record : EditRecord start earlier session)
    (leaves : LeavesFiles later) : EditRecord start (earlier ++ later) last := by
  induction run with
  | refl => simpa using record
  | step run applied inductionHypothesis =>
      rw [← List.append_assoc]
      refine (inductionHypothesis leaves.of_append_left).step (Session.effect_of_apply applied) ?_
      exact leaves _ (List.mem_append_right _ (List.mem_singleton_self _))

theorem Run.pendingMove
    {middle after : Session} {action : Action} (run : Run session later middle)
    (record : EditRecord start earlier session) (applied : middle.apply action = some after)
    (leaves : LeavesFiles (later ++ [⟨middle, action, after⟩])) :
    Session.PendingMove middle action after := by
  have recordMiddle := run.editRecord record leaves.of_append_left
  apply ((Session.effect_of_apply applied).editMove recordMiddle.fresh).pendingMove
  exact leaves _ (List.mem_append_right _ (List.mem_singleton_self _))

/-- What an edit that has turned replaces later are the first of the files that it has still to
replace; the others are left in the end, or are given up. -/
theorem Run.pending_eq_append
    (run : Run session later last) (record : EditRecord start earlier session)
    (leaves : LeavesFiles later) {task : TaskId} (hasTurned : task ∈ (editLog earlier).turns) :
    ∃ rest, session.pending task = (editLog later).replaced task ++ rest ∧
      (last.pending task = rest ∨ last.pending task = []) := by
  induction run with
  | refl => exact ⟨_, rfl, Or.inl rfl⟩
  | @step past middle after action run applied inductionHypothesis =>
      obtain ⟨rest, was, isRest⟩ := inductionHypothesis leaves.of_append_left
      have recordAfter := (run.step applied).editRecord record leaves
      have stays (nothing : (editLog [⟨middle, action, after⟩]).replaced task = [])
          (same : after.pending task = middle.pending task ∨ after.pending task = []) :
          ∃ rest, session.pending task =
              (editLog (past ++ [⟨middle, action, after⟩])).replaced task ++ rest ∧
            (after.pending task = rest ∨ after.pending task = []) := by
        refine ⟨rest, ?_, ?_⟩
        · rw [editLog_append, EditLog.replaced_append, nothing, List.append_nil, was]
        · rcases same with same | isNil
          · rwa [same]
          · exact Or.inr isNil
      cases run.pendingMove record applied leaves with
      | still aside _ same =>
          exact stays (EditLog.replaced_of_aside (fun entry member => (aside entry member).2) task)
            (same task)
      | @turned turning edited log isEdit _ _ others =>
          have notTask : turning ≠ task := by
            rintro rfl
            have nodup := recordAfter.nodup_turns
            rw [← List.append_assoc, editLog_append, EditLog.turns_append, log] at nodup
            refine (List.nodup_append.mp nodup).2.2 turning ?_ turning (List.mem_singleton_self _) rfl
            rw [editLog_append, EditLog.turns_append]
            exact List.mem_append_left _ hasTurned
          refine stays ?_ (Or.inl (others task (Ne.symm notTask)))
          rw [log]
          exact EditLog.replaced_singleton_of_ne notTask _
      | @wrote writing path text left log _ before _ now others =>
          by_cases isTask : writing = task
          · subst isTask
            rcases isRest with isRest | isNil
            · refine ⟨left, ?_, Or.inl now⟩
              rw [was, ← isRest, before, editLog_append, EditLog.replaced_append, log,
                EditLog.replaced_singleton_self, List.append_assoc]
              rfl
            · cases before.symm.trans isNil
          · refine stays ?_ (Or.inl (others task (Ne.symm isTask)))
            rw [log]
            exact EditLog.replaced_singleton_of_ne isTask _

/-- The replacing of a file is an access to it. -/
theorem Run.write_of_replaced
    (run : Run session later last) (record : EditRecord start earlier session)
    (leaves : LeavesFiles later) {task : TaskId} {file : Path × String} {names : List EntryName}
    (isReplaced : file ∈ (editLog later).replaced task)
    (holds : session.client.files.HoldsFile [] file.1 names) :
    .write task names ∈ later.filterMap Transition.access? := by
  induction run with
  | refl => cases isReplaced
  | @step past middle after action run applied inductionHypothesis =>
      have recordMiddle := run.editRecord record leaves.of_append_left
      rw [editLog_append, EditLog.replaced_append] at isReplaced
      rw [filterMap_concat]
      rcases List.mem_append.mp isReplaced with earlier | isNow
      · exact List.mem_append_left _ (inductionHypothesis leaves.of_append_left earlier)
      · apply List.mem_append_right
        cases run.pendingMove record applied leaves with
        | still aside =>
            rw [EditLog.replaced_of_aside (fun entry member => (aside entry member).2)] at isNow
            cases isNow
        | @turned turning _ log =>
            rw [log] at isNow
            by_cases isTask : turning = task
            · rw [isTask, EditLog.replaced_singleton_self] at isNow
              cases isNow
            · rw [EditLog.replaced_singleton_of_ne isTask] at isNow
              cases isNow
        | @wrote writing path text _ log access =>
            rw [log] at isNow
            by_cases isTask : writing = task
            · rw [isTask, EditLog.replaced_singleton_self] at isNow
              obtain rfl := List.mem_singleton.mp isNow
              have sameNames : middle.client.files.names? [] path = some names := by
                rw [← holds.names?]
                exact FileTree.names?_of_sameShape
                  (recordMiddle.shape.symm.trans record.shape) [] path
              rw [access, sameNames, isTask]
              exact List.mem_singleton_self _
            · rw [EditLog.replaced_singleton_of_ne isTask] at isNow
              cases isNow

theorem Session.held_of_pending
    {task : TaskId} {file : Path × String} (isPending : file ∈ session.pending task) :
    ∃ progress, session.edit? task = some progress ∧ file ∈ progress.held := by
  cases isEdit : session.edit? task with
  | none =>
      rw [pending_of_idle isEdit] at isPending
      cases isPending
  | some progress =>
      rw [pending_of_edit? isEdit] at isPending
      cases progress with
      | writing left written => exact ⟨_, rfl, isPending⟩
      | reading left edited => cases isPending
      | finished outcome => cases isPending

/-- No two edits that have turned come to replace the same file: whichever came first would
come between the other's reading and replacing it. -/
theorem Run.replaced_apart
    (run : Run session later last) (record : EditRecord start earlier session)
    (leaves : LeavesFiles later) (keeps : KeepsReads (earlier ++ later)) {task other : TaskId}
    {file file' : Path × String} {names names' : List EntryName}
    (isTurned : task ∈ (editLog earlier).turns) (isTurned' : other ∈ (editLog earlier).turns)
    (isReplaced : file ∈ (editLog later).replaced task)
    (holds : session.client.files.HoldsFile [] file.1 names)
    (isReplaced' : file' ∈ (editLog later).replaced other)
    (holds' : session.client.files.HoldsFile [] file'.1 names') (different : other ≠ task) :
    names' ≠ names := by
  rintro rfl
  have isRead {task : TaskId} {file : Path × String} (isTurned : task ∈ (editLog earlier).turns)
      (isReplaced : file ∈ (editLog later).replaced task)
      (holds : session.client.files.HoldsFile [] file.1 names') :
      [.read task names'].Sublist (earlier.filterMap Transition.access?) := by
    obtain ⟨rest, isPending, _⟩ := run.pending_eq_append record leaves isTurned
    obtain ⟨progress, isEdit, isHeld⟩ :=
      Session.held_of_pending (isPending ▸ List.mem_append_left rest isReplaced)
    obtain ⟨names, holds'', isRead⟩ := record.held task progress file isEdit isHeld
    obtain rfl : names = names' := Option.some.inj (holds''.names?.symm.trans holds.names?)
    exact List.singleton_sublist.mpr isRead
  unfold KeepsReads at keeps
  rw [List.filterMap_append] at keeps
  have distinct : FileAccess.write other names' ≠ .write task names' := by
    rintro ⟨⟩
    exact different rfl
  rcases pair_sublist_or (run.write_of_replaced record leaves isReplaced holds)
    (run.write_of_replaced record leaves isReplaced' holds') distinct with taskFirst | otherFirst
  · exact different
      (keeps other task names' ((isRead isTurned' isReplaced' holds').append taskFirst)).symm
  · exact different (keeps task other names' ((isRead isTurned isReplaced holds).append otherFirst))

end Later

end LanguageClient
