import LanguageClient.Proofs.Documents.Effect
import LanguageClient.Proofs.Documents.History

/-!
# The table of documents and its lock

A task that has looked at the table keeps its lock until it has brought the table up to
date.  So the table is the same when the server is told, and what is told follows what
the table says.
-/

namespace LanguageClient

namespace Shelf

/-- Taking a document away changes its version only. -/
theorem version?_without (shelf : Shelf) (uri other : String) (lock : Lock) :
    (Shelf.mk (shelf.without uri) lock).version? other =
      if other = uri then none else shelf.version? other := by
  unfold version? without
  rw [List.find?_filter]
  by_cases same : other = uri
  · subst same
    simp
  · rw [if_neg same]
    congr 2
    funext entry
    by_cases found : entry.1 = other
    · simp [found, same]
    · simp [found]

/-- Recording what the server was told changes the version of that document only. -/
theorem version?_record
    (shelf : Shelf) (uri other : String) (event : SyncEvent) (lock : Lock) :
    (Shelf.mk (shelf.record uri event) lock).version? other =
      if other = uri then event.version? else shelf.version? other := by
  have added (version : Int) :
      (Shelf.mk (shelf.without uri ++ [(uri, version)]) lock).version? other =
        if other = uri then some version else shelf.version? other := by
    have without := shelf.version?_without uri other lock
    unfold version? at without ⊢
    rw [List.find?_append, Option.map_or, without]
    by_cases same : other = uri
    · simp [same]
    · simp [same, Ne.symm same]
  cases event with
  | opened version => exact added version
  | changed version => exact added version
  | closed => exact shelf.version?_without uri other lock

end Shelf

namespace DocumentUse

/-- How a task wants the lock of the documents that it holds or waits for. -/
def mode? : DocumentUse → Option LockMode
  | .apart => none
  | .queued mode => some mode
  | .opening _ | .changing _ _ | .telling _ _ _ _ => some .exclusive

/-- What a task that has looked at the table is going to tell the server. -/
def subject? : DocumentUse → Option (String × SyncEvent)
  | .apart | .queued _ => none
  | .opening uri => some (uri, .opened 1)
  | .changing uri version => some (uri, .changed version)
  | .telling uri event _ _ => some (uri, event)

end DocumentUse

structure ShelfInvariant (shelf : Shelf) (use : TaskId → DocumentUse) : Prop where
  orderly : shelf.lock.IsOrderly
  queued : ∀ task mode, (task, mode) ∈ shelf.lock.queue ↔ (use task).mode? = some mode
  /-- Whoever has looked at the table is the first in the queue, and may tell what it is
  going to tell. -/
  leads : ∀ task uri event, (use task).subject? = some (uri, event) →
    shelf.lock.IsLedBy task ∧ event.Follows (shelf.version? uri)

namespace ShelfInvariant

variable {shelf shelf' : Shelf} {use use' : TaskId → DocumentUse} {task : TaskId}

/-- No two tasks have looked at the table at the same time. -/
theorem subject_unique
    (invariant : ShelfInvariant shelf use) {other : TaskId} {subject subject' : String × SyncEvent}
    (looked : (use task).subject? = some subject) (looked' : (use other).subject? = some subject') :
    other = task :=
  (invariant.leads task subject.1 subject.2 looked).1.unique
    (invariant.leads other subject'.1 subject'.2 looked').1

private theorem isLedBy
    (invariant : ShelfInvariant shelf use) (alone : (use task).mode? = some .exclusive)
    (held : shelf.lock.isHeldBy task = true) : shelf.lock.IsLedBy task :=
  Lock.isLedBy_of_isHeldBy invariant.orderly ((invariant.queued task .exclusive).mpr alone) held

private theorem ask
    (invariant : ShelfInvariant shelf use) {mode : LockMode} (apart : use task = .apart)
    (waits : use' task = .queued mode)
    (others : ∀ other, other ≠ task → use' other = use other) :
    ShelfInvariant { shelf with lock := shelf.lock.ask task mode } use' where
  orderly := by
    apply invariant.orderly.ask
    rintro member
    obtain ⟨⟨task', mode'⟩, queued, rfl⟩ := List.mem_map.mp member
    rw [invariant.queued] at queued
    simp [apart, DocumentUse.mode?] at queued
  queued := by
    intro other mode'
    by_cases same : other = task
    · subst same
      have before := invariant.queued other mode'
      simp only [apart, DocumentUse.mode?] at before
      simp [Lock.ask, before, waits, DocumentUse.mode?, eq_comm]
    · rw [others other same, ← invariant.queued]
      simp [Lock.ask, same]
  leads := by
    intro other uri event looked
    by_cases same : other = task
    · subst same
      rw [waits] at looked
      cases looked
    · rw [others other same] at looked
      obtain ⟨led, follows⟩ := invariant.leads other uri event looked
      exact ⟨led.ask task mode, follows⟩

private theorem release
    (invariant : ShelfInvariant shelf use) {documents : List (String × Int)}
    (apart : use' task = .apart) (others : ∀ other, other ≠ task → use' other = use other)
    (kept : documents = shelf.documents ∨ ∃ subject, (use task).subject? = some subject) :
    ShelfInvariant ⟨documents, shelf.lock.release task⟩ use' where
  orderly := invariant.orderly.release task
  queued := by
    intro other mode
    by_cases same : other = task
    · subst same
      simp [Lock.release, apart, DocumentUse.mode?]
    · rw [others other same, ← invariant.queued]
      simp [Lock.release, same]
  leads := by
    intro other uri event looked
    by_cases same : other = task
    · subst same
      rw [apart] at looked
      cases looked
    · rw [others other same] at looked
      obtain ⟨led, follows⟩ := invariant.leads other uri event looked
      refine ⟨led.release same, ?_⟩
      rcases kept with rfl | ⟨subject, looked'⟩
      · exact follows
      · exact absurd (invariant.subject_unique looked' looked) same

private theorem goesOn
    (invariant : ShelfInvariant shelf use) (sameMode : (use' task).mode? = (use task).mode?)
    (looked : ∀ uri event, (use' task).subject? = some (uri, event) →
      (use task).subject? = some (uri, event) ∨
        shelf.lock.IsLedBy task ∧ event.Follows (shelf.version? uri))
    (others : ∀ other, other ≠ task → use' other = use other) : ShelfInvariant shelf use' where
  orderly := invariant.orderly
  queued := by
    intro other mode
    rw [invariant.queued]
    by_cases same : other = task
    · rw [same, sameMode]
    · rw [others other same]
  leads := by
    intro other uri event looks
    by_cases same : other = task
    · subst same
      rcases looked uri event looks with before | now
      · exact invariant.leads other uri event before
      · exact now
    · rw [others other same] at looks
      exact invariant.leads other uri event looks

/-- A move of a task keeps the table and its lock right. -/
theorem moved
    {client : Client} {turn : Turn} {mayDrop : Prop}
    (invariant : ShelfInvariant client.shelf use)
    (move : DocumentMove turn client mayDrop (use turn.task) shelf' (use' turn.task))
    (others : ∀ other, other ≠ turn.task → use' other = use other) :
    ShelfInvariant shelf' use' := by
  generalize before : use turn.task = used at move
  generalize afterwards : use' turn.task = used' at move
  cases move with
  | rests =>
      apply invariant.goesOn _ _ others
      · rw [before, afterwards]
      · intro uri event looked
        exact Or.inl (by rw [before, ← afterwards, looked])
  | asks mode => exact invariant.ask before afterwards others
  | leaves idle => exact invariant.release afterwards others (Or.inl rfl)
  | @looksToOpen uri held absent =>
      have alone : (use turn.task).mode? = some .exclusive := by rw [before]; rfl
      apply invariant.goesOn _ _ others
      · rw [before, afterwards]
        rfl
      · intro uri' event looked
        rw [afterwards] at looked
        cases looked
        exact Or.inr ⟨invariant.isLedBy alone held, absent, rfl⟩
  | @looksToChange uri version held present =>
      have alone : (use turn.task).mode? = some .exclusive := by rw [before]; rfl
      apply invariant.goesOn _ _ others
      · rw [before, afterwards]
        rfl
      · intro uri' event looked
        rw [afterwards] at looked
        cases looked
        have follows : client.version? uri = some (version + 1 - 1) := by
          rw [present, Int.add_sub_cancel]
        exact Or.inr ⟨invariant.isLedBy alone held, follows⟩
  | @looksToClose uri drop message held present =>
      have alone : (use turn.task).mode? = some .exclusive := by rw [before]; rfl
      apply invariant.goesOn _ _ others
      · rw [before, afterwards]
        rfl
      · intro uri' event looked
        rw [afterwards] at looked
        cases looked
        exact Or.inr ⟨invariant.isLedBy alone held, present⟩
  | tellsOpening message =>
      apply invariant.goesOn _ _ others
      · rw [before, afterwards]
        rfl
      · intro uri event looked
        exact Or.inl (by rw [before, ← looked, afterwards]; rfl)
  | tellsChange message =>
      apply invariant.goesOn _ _ others
      · rw [before, afterwards]
        rfl
      · intro uri event looked
        exact Or.inl (by rw [before, ← looked, afterwards]; rfl)
  | sends step =>
      apply invariant.goesOn _ _ others
      · rw [before, afterwards]
        rfl
      · intro uri event looked
        exact Or.inl (by rw [before, ← looked, afterwards]; rfl)
  | commits step =>
      exact invariant.release afterwards others (Or.inr ⟨_, by rw [before]; rfl⟩)
  | fails step =>
      exact invariant.release afterwards others (Or.inr ⟨_, by rw [before]; rfl⟩)
  | dropped allowed => exact invariant.release afterwards others (Or.inl rfl)

end ShelfInvariant

/-- The tasks of a run agree with the table of the documents and its lock. -/
theorem Run.shelfInvariant
    {client : Client} {session : Session} {past : List Transition}
    (run : Run (Session.connect client) past session) (fresh : client.documentsLock = .free) :
    ShelfInvariant session.client.shelf session.documentUse := by
  induction run with
  | refl =>
      have noLock : (Session.connect client).client.shelf.lock = .free := fresh
      constructor
      · rw [noLock]
        exact Lock.isOrderly_free
      · intro task mode
        rw [noLock]
        constructor
        · intro member
          cases member
        · intro mode?
          cases mode?
      · intro task uri event looked
        cases looked
  | @step past session after action run applied inductionHypothesis =>
      cases (Session.effect_of_apply applied).documents run.hasFreshTask
          (fun _ => True.intro) with
      | moved turn isAction move others => exact inductionHypothesis.moved move others
      | quiet noTask sameShelf sameUse =>
          rw [sameShelf, funext sameUse]
          exact inductionHypothesis

/-! ## One version of each document -/

namespace Shelf

/-- No document has two versions. -/
def HasDistinct (shelf : Shelf) : Prop :=
  (shelf.documents.map Prod.fst).Nodup

variable {shelf : Shelf}

theorem HasDistinct.without (distinct : shelf.HasDistinct) (uri : String) (lock : Lock) :
    (Shelf.mk (shelf.without uri) lock).HasDistinct :=
  List.Nodup.sublist (List.filter_sublist.map Prod.fst) distinct

theorem HasDistinct.record
    (distinct : shelf.HasDistinct) (uri : String) (event : SyncEvent) (lock : Lock) :
    (Shelf.mk (shelf.record uri event) lock).HasDistinct := by
  have added (version : Int) :
      (Shelf.mk (shelf.without uri ++ [(uri, version)]) lock).HasDistinct := by
    have others : ((shelf.without uri).map Prod.fst).Nodup := distinct.without uri lock
    have absent : uri ∉ (shelf.without uri).map Prod.fst := by simp [Shelf.without]
    unfold HasDistinct
    rw [List.map_append, List.map_cons, List.map_nil, ← List.concat_eq_append]
    exact others.concat absent
  cases event with
  | opened version | changed version => exact added version
  | closed => exact distinct.without uri lock

end Shelf

/-- In a run no document gets a second version. -/
theorem Run.hasDistinct
    {client : Client} {session : Session} {past : List Transition}
    (run : Run (Session.connect client) past session) (distinct : client.shelf.HasDistinct) :
    session.client.shelf.HasDistinct := by
  induction run with
  | refl => exact distinct
  | @step past session after action run applied inductionHypothesis =>
      cases (Session.effect_of_apply applied).documents run.hasFreshTask
          (fun _ => True.intro) with
      | quiet noTask sameShelf sameUse =>
          rw [sameShelf]
          exact inductionHypothesis
      | moved turn isAction move others =>
          generalize session.documentUse turn.task = before at move
          generalize after.documentUse turn.task = afterwards at move
          generalize after.client.shelf = shelf at move ⊢
          cases move with
          | commits step => exact inductionHypothesis.record _ _ _
          | @fails uri event drop frame client' error step =>
              cases drop with
              | true => exact inductionHypothesis.without uri _
              | false => exact inductionHypothesis
          | _ => exact inductionHypothesis

end LanguageClient
