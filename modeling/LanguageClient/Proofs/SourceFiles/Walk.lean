import LanguageClient.Proofs.Files.Name
import LanguageClient.Proofs.Files.PathOrder
import LanguageClient.Proofs.Files.Tree
import LanguageClient.SourceFiles
import Mathlib.Data.List.Basic

/-!
# Walking through a tree

A walk goes through a tree directory by directory, each in the order of its names, and
leaves out what is pruned with all that is below it.  It comes to the regular files that are
not below anything pruned, each once and in dictionary order, however the directories list
their entries.
-/

namespace LanguageClient.FileTree

open Std

/-! ## Trees with proper names -/

inductive IsProper : FileTree → Prop
  | file (content : List UInt8) (executable : Bool) : IsProper (.file content executable)
  | program : IsProper .program
  | directory {entries : List (EntryName × FileTree)} :
      (entries.map Prod.fst).Nodup →
      (∀ entry, entry ∈ entries → Path.IsName entry.1) →
      (∀ entry, entry ∈ entries → IsProper entry.2) →
      IsProper (.directory entries)

/-- Induction over a tree, with all entries of a directory at once. -/
theorem entries_induction
    {motive : FileTree → Prop}
    (file : ∀ content executable, motive (.file content executable)) (program : motive .program)
    (directory : ∀ entries, (∀ entry, entry ∈ entries → motive entry.2) →
      motive (.directory entries)) (tree : FileTree) : motive tree :=
  @FileTree.rec motive (fun entries => ∀ entry, entry ∈ entries → motive entry.2)
    (fun entry => motive entry.2) file program directory (fun _ member => nomatch member)
    (fun _ _ first rest => List.forall_mem_cons.mpr ⟨first, rest⟩) (fun _ _ inside => inside) tree

theorem child?_eq_some_iff
    {entries : List (EntryName × FileTree)} (distinct : (entries.map Prod.fst).Nodup)
    {name : EntryName} {entry : FileTree} :
    (directory entries).child? name = some entry ↔ (name, entry) ∈ entries := by
  induction entries with
  | nil => simp [child?, FileTree.entries]
  | cons first entries inductionHypothesis =>
      obtain ⟨absent, distinct⟩ := List.nodup_cons.mp distinct
      have rest := inductionHypothesis distinct
      simp only [child?, FileTree.entries] at rest ⊢
      obtain ⟨first, tree⟩ := first
      by_cases same : first = name
      · subst same
        have absent (entry : FileTree) : (first, entry) ∉ entries := fun member =>
          absent (List.mem_map.mpr ⟨_, member, rfl⟩)
        simp [absent, eq_comm]
      · simp [same, Ne.symm same, rest]

/-! ## What a walk comes to -/

/-- Whether nothing on the way along some names is pruned. -/
def IsKept (prune : List EntryName → Bool → Bool) (names : List EntryName) (tree : FileTree)
    (below : List EntryName) : Prop :=
  ∀ front, front <+: below → front ≠ [] →
    ∀ entry, tree.below? front = some entry → prune (names ++ front) entry.isDirectory = false

def HasFile (tree : FileTree) (below : List EntryName) : Prop :=
  ∃ content executable, tree.below? below = some (.file content executable)

section Walk

variable {prune : List EntryName → Bool → Bool} {names : List EntryName}

theorem walkEntries_eq_map (entries : List (EntryName × FileTree)) :
    walkEntries prune names entries = entries.map fun entry =>
      (entry.1, if prune (names ++ [entry.1]) entry.2.isDirectory then []
        else entry.2.walk prune (names ++ [entry.1])) := by
  induction entries with
  | nil => rfl
  | cons entry entries inductionHypothesis =>
      rw [walkEntries, inductionHypothesis]
      rfl

theorem mem_walk_directory_iff
    {entries : List (EntryName × FileTree)} {found : List EntryName} :
    found ∈ (directory entries).walk prune names ↔
      ∃ entry, entry ∈ entries ∧ prune (names ++ [entry.1]) entry.2.isDirectory = false ∧
        found ∈ entry.2.walk prune (names ++ [entry.1]) := by
  simp only [walk, walkEntries_eq_map, List.mem_flatMap, List.mem_mergeSort, List.mem_map]
  constructor
  · rintro ⟨_, ⟨entry, member, rfl⟩, isFound⟩
    cases pruned : prune (names ++ [entry.1]) entry.2.isDirectory with
    | true => simp [pruned] at isFound
    | false => exact ⟨entry, member, pruned, by simpa [pruned] using isFound⟩
  · rintro ⟨entry, member, kept, isFound⟩
    exact ⟨_, ⟨entry, member, rfl⟩, by simpa [kept] using isFound⟩

theorem isKept_cons_iff
    {tree entry : FileTree} {name : EntryName} {below : List EntryName}
    (found : tree.child? name = some entry) :
    IsKept prune names tree (name :: below) ↔
      prune (names ++ [name]) entry.isDirectory = false ∧
        IsKept prune (names ++ [name]) entry below := by
  constructor
  · intro kept
    refine ⟨kept [name] ⟨below, rfl⟩ (List.cons_ne_nil _ _) entry ?_, ?_⟩
    · rw [below?_singleton, found]
    · intro front isFront _ leaf isLeaf
      rw [List.append_assoc]
      refine kept (name :: front) (List.cons_prefix_cons.mpr ⟨rfl, isFront⟩)
        (List.cons_ne_nil _ _) leaf ?_
      rw [below?_cons_of_entry found, isLeaf]
  · rintro ⟨first, rest⟩ front isFront notEmpty leaf isLeaf
    obtain ⟨name', front, rfl⟩ := List.exists_cons_of_ne_nil notEmpty
    obtain ⟨rfl, isFront'⟩ := List.cons_prefix_cons.mp isFront
    rw [below?_cons_of_entry found] at isLeaf
    by_cases isLast : front = []
    · subst isLast
      exact Option.some.inj isLeaf ▸ first
    · have kept := rest front isFront' isLast leaf isLeaf
      rwa [List.append_assoc] at kept

/-- A walk comes to the regular files with nothing pruned on the way. -/
theorem mem_walk_iff
    {tree : FileTree} (proper : tree.IsProper) {found : List EntryName} :
    found ∈ tree.walk prune names ↔
      ∃ below, found = names ++ below ∧ tree.HasFile below ∧ IsKept prune names tree below := by
  induction tree using entries_induction generalizing names found with
  | file content executable =>
      rw [walk, List.mem_singleton]
      constructor
      · rintro rfl
        refine ⟨[], by simp, ⟨content, executable, rfl⟩, fun front isFront notEmpty => ?_⟩
        exact absurd (List.prefix_nil.mp isFront) notEmpty
      · rintro ⟨below, rfl, ⟨_, _, isFile⟩, _⟩
        rw [(eq_nil_of_below? rfl isFile).1, List.append_nil]
  | program =>
      refine iff_of_false List.not_mem_nil ?_
      rintro ⟨below, _, ⟨_, _, isFile⟩, _⟩
      cases (eq_nil_of_below? rfl isFile).2
  | directory entries inductionHypothesis =>
      cases proper with
      | directory distinct _ proper =>
          rw [mem_walk_directory_iff]
          constructor
          · rintro ⟨⟨name, entry⟩, member, kept, isFound⟩
            obtain ⟨below, rfl, ⟨content, executable, isFile⟩, keptBelow⟩ :=
              (inductionHypothesis _ member (proper _ member)).mp isFound
            have isEntry := (child?_eq_some_iff distinct).mpr member
            refine ⟨name :: below, by simp, ⟨content, executable, ?_⟩, ?_⟩
            · rw [below?_cons_of_entry isEntry, isFile]
            · exact (isKept_cons_iff isEntry).mpr ⟨kept, keptBelow⟩
          · rintro ⟨below, rfl, ⟨content, executable, isFile⟩, kept⟩
            cases below with
            | nil => cases isFile
            | cons name below =>
                obtain ⟨entry, isEntry, isFile⟩ := child?_of_below?_cons isFile
                have member := (child?_eq_some_iff distinct).mp isEntry
                obtain ⟨keptEntry, keptBelow⟩ := (isKept_cons_iff isEntry).mp kept
                refine ⟨(name, entry), member, keptEntry, ?_⟩
                rw [inductionHypothesis _ member (proper _ member)]
                exact ⟨below, by simp, ⟨content, executable, isFile⟩, keptBelow⟩

end Walk

/-! ## The order of a walk -/

/-- Whether names come before others in dictionary order. -/
def IsBefore (names names' : List EntryName) : Prop :=
  List.compareLex Path.compareBytes names names' = .lt

instance : TransCmp Path.compareBytes := by
  have same : Path.compareBytes = Ord.compare := by
    funext x y
    exact Path.compareBytes_eq x y
  exact same ▸ inferInstance

instance : LawfulEqCmp Path.compareBytes where
  eq_of_compare := by
    intro x y same
    rw [Path.compareBytes_eq] at same
    exact LawfulEqOrd.eq_of_compare same

theorem isBefore_append_iff (front : List EntryName) {names names' : List EntryName} :
    IsBefore (front ++ names) (front ++ names') ↔ IsBefore names names' := by
  unfold IsBefore
  induction front with
  | nil => rfl
  | cons name front inductionHypothesis =>
      have same : Path.compareBytes name name = .eq := ReflCmp.compare_self
      rw [List.cons_append, List.cons_append, List.compareLex_cons_cons, same, Ordering.eq_then,
        inductionHypothesis]

/-- What is found below entries whose names are in order is in order. -/
theorem isBefore_of_mem_walk
    {first second : EntryName × FileTree} (properFirst : first.2.IsProper)
    (properSecond : second.2.IsProper) (less : Path.compareBytes first.1 second.1 = .lt)
    {prune : List EntryName → Bool → Bool} {names found found' : List EntryName}
    (isFound : found ∈ first.2.walk prune (names ++ [first.1]))
    (isFound' : found' ∈ second.2.walk prune (names ++ [second.1])) : IsBefore found found' := by
  obtain ⟨below, rfl, _⟩ := (mem_walk_iff properFirst).mp isFound
  obtain ⟨below', rfl, _⟩ := (mem_walk_iff properSecond).mp isFound'
  rw [List.append_assoc, List.append_assoc, isBefore_append_iff]
  unfold IsBefore
  rw [List.singleton_append, List.singleton_append, List.compareLex_cons_cons, less]
  rfl

/-- Items with different names are sorted strictly. -/
theorem pairwise_mergeSort_names
    {α : Type} {items : List (EntryName × α)} (distinct : (items.map Prod.fst).Nodup) :
    (items.mergeSort fun first second => Path.compareBytes first.1 second.1 != .gt).Pairwise
      fun first second => Path.compareBytes first.1 second.1 = .lt := by
  let le := fun first second : EntryName × α => Path.compareBytes first.1 second.1 != .gt
  have le_iff (first second : EntryName × α) :
      le first second = true ↔ (Path.compareBytes first.1 second.1).isLE = true := by
    cases compared : Path.compareBytes first.1 second.1 <;> simp [le, compared]
  have sorted : (items.mergeSort le).Pairwise fun first second => le first second := by
    apply List.pairwise_mergeSort
    · intro first second third
      simp only [le_iff]
      exact TransCmp.isLE_trans
    · intro first second
      have swapped : Path.compareBytes first.1 second.1 =
          (Path.compareBytes second.1 first.1).swap := OrientedCmp.eq_swap
      rw [Bool.or_eq_true, le_iff, le_iff, swapped]
      cases Path.compareBytes second.1 first.1 <;> simp
  have sameNames := (List.mergeSort_perm items le).map Prod.fst
  have different : (items.mergeSort le).Pairwise fun first second => first.1 ≠ second.1 :=
    List.pairwise_map.mp (sameNames.nodup_iff.mpr distinct)
  refine (sorted.and different).imp fun {first second} ⟨notAfter, different⟩ => ?_
  cases compared : Path.compareBytes first.1 second.1 with
  | lt => rfl
  | eq => exact absurd (LawfulEqCmp.eq_of_compare compared) different
  | gt => simp [le, compared] at notAfter

/-- A walk comes to the files in dictionary order. -/
theorem pairwise_walk
    {tree : FileTree} (proper : tree.IsProper) (prune : List EntryName → Bool → Bool)
    (names : List EntryName) : (tree.walk prune names).Pairwise IsBefore := by
  induction tree using entries_induction generalizing names with
  | file content executable => exact List.pairwise_singleton _ _
  | program => exact List.Pairwise.nil
  | directory entries inductionHypothesis =>
      cases proper with
      | directory distinct _ proper =>
          have origin {item : EntryName × List (List EntryName)}
              (member : item ∈ walkEntries prune names entries) :
              ∃ entry, entry ∈ entries ∧ item.1 = entry.1 ∧
                (item.2 = [] ∨ item.2 = entry.2.walk prune (names ++ [entry.1])) := by
            rw [walkEntries_eq_map] at member
            obtain ⟨entry, isEntry, rfl⟩ := List.mem_map.mp member
            refine ⟨entry, isEntry, rfl, ?_⟩
            dsimp only
            split
            · exact Or.inl rfl
            · exact Or.inr rfl
          have sameNames : (walkEntries prune names entries).map Prod.fst =
              entries.map Prod.fst := by
            rw [walkEntries_eq_map, List.map_map]
            rfl
          rw [walk, List.pairwise_flatMap]
          constructor
          · intro item member
            obtain ⟨entry, isEntry, _, isEmpty | isWalk⟩ := origin (List.mem_mergeSort.mp member)
            · exact isEmpty ▸ List.Pairwise.nil
            · exact isWalk ▸ inductionHypothesis entry isEntry (proper entry isEntry) _
          · have inOrder := pairwise_mergeSort_names (sameNames.symm ▸ distinct)
            refine inOrder.imp_of_mem fun {first second} member member' less => ?_
            obtain ⟨entry, isEntry, sameName, isEmpty | isWalk⟩ :=
              origin (List.mem_mergeSort.mp member)
            · simp [isEmpty]
            obtain ⟨entry', isEntry', sameName', isEmpty' | isWalk'⟩ :=
              origin (List.mem_mergeSort.mp member')
            · simp [isEmpty']
            rw [sameName, sameName'] at less
            rw [isWalk, isWalk']
            intro found isFound found' isFound'
            exact isBefore_of_mem_walk (proper entry isEntry) (proper entry' isEntry') less isFound
              isFound'

end LanguageClient.FileTree
