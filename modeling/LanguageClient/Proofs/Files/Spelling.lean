import LanguageClient.Proofs.Files.Name
import LanguageClient.Proofs.Files.Place

/-!
# Spellings of a path

A file is found by the steps of its path alone, wherever the path is taken from.  A
separator behind the last step makes the path lead nowhere, since a file is no directory.
-/

namespace LanguageClient.FileTree

open LanguageClient.Path (rooted separator)

/-! ## Steps -/

theorem Place.step_of_idle
    {place next : Place} {piece : List UInt8} (idle : piece = [] ∨ piece = [Path.dot])
    (stepped : place.step piece = .ok next) : next = place ∧ place.tree.isDirectory = true := by
  obtain ⟨tree, above⟩ := place
  cases tree with
  | file content executable => cases stepped
  | program => cases stepped
  | directory entries =>
      have stays : (piece = [] || piece = [Path.dot]) = true := by simpa using idle
      simp only [Place.step, stays, if_true, Except.ok.injEq] at stepped
      exact ⟨stepped.symm, rfl⟩

theorem Place.follow_cons (place : Place) (piece : List UInt8) (pieces : List (List UInt8)) :
    place.follow (piece :: pieces) = (place.step piece).bind fun next => next.follow pieces :=
  List.foldlM_cons

theorem Place.follow_append (place : Place) (pieces pieces' : List (List UInt8)) :
    place.follow (pieces ++ pieces') =
      (place.follow pieces).bind fun next => next.follow pieces' :=
  List.foldlM_append

/-- The pieces that lead nowhere can be left out. -/
theorem Place.follow_filter
    {place last : Place} {pieces : List (List UInt8)}
    (followed : place.follow pieces = .ok last) :
    place.follow (pieces.filter fun piece => piece ≠ [] && piece ≠ [Path.dot]) = .ok last := by
  induction pieces generalizing place with
  | nil => exact followed
  | cons piece pieces inductionHypothesis =>
      rw [follow_cons] at followed
      cases stepped : place.step piece with
      | error error =>
          rw [stepped] at followed
          cases followed
      | ok next =>
          rw [stepped] at followed
          have rest := inductionHypothesis followed
          by_cases idle : piece = [] ∨ piece = [Path.dot]
          · obtain ⟨rfl, _⟩ := Place.step_of_idle idle stepped
            rw [List.filter_cons_of_neg (by simpa using fun nonempty => idle.resolve_left nonempty)]
            exact rest
          · rw [not_or] at idle
            rw [List.filter_cons_of_pos (by simpa using idle), follow_cons, stepped]
            exact rest

/-! ## Paths -/

section Paths

variable {tree : FileTree} {current current' : List EntryName} {path path' : Path}
  {names : List EntryName} {place : Place}

theorem locate_of_isAbsolute (absolute : path.isAbsolute = true) :
    tree.locate current path =
      if path.bytes.contains 0 then .error .nulByte
      else if greatestPath < path.bytes.length then .error .nameTooLong
      else tree.rootPlace.follow path.pieces.tail := by
  have notEmpty : path.bytes.isEmpty = false := by
    cases bytes : path.bytes with
    | nil => simp [Path.isAbsolute, bytes] at absolute
    | cons byte rest => rfl
  unfold locate
  rw [notEmpty, absolute, if_neg Bool.false_ne_true, if_pos rfl, List.drop_one]

/-- Where a path from the root leads, its steps lead too. -/
theorem locate_steps
    (located : tree.locate current path = .ok place) (absolute : path.isAbsolute = true)
    (someStep : path.steps ≠ []) : tree.locate current' ⟨rooted path.steps⟩ = .ok place := by
  have shorter := Path.rooted_steps_sublist absolute
  have undivided : ∀ step, step ∈ path.steps → separator ∉ step := fun step isStep =>
    Path.undivided_of_mem_pieces (Path.mem_steps_iff.mp isStep).1
  rw [locate_of_isAbsolute absolute] at located
  split at located
  · cases located
  · rename_i noNul
    split at located
    · cases located
    · rename_i fits
      have noNul' : ¬ (rooted path.steps).contains 0 = true := by
        simp only [List.contains_iff_mem] at noNul ⊢
        exact fun isNul => noNul (shorter.subset isNul)
      have fits' : ¬ greatestPath < (rooted path.steps).length := fun isLong =>
        fits (Nat.lt_of_lt_of_le isLong shorter.length_le)
      rw [locate_of_isAbsolute (Path.isAbsolute_rooted someStep), if_neg noNul', if_neg fits',
        Path.pieces_rooted undivided, List.tail_cons, Path.steps_eq_filter_tail absolute]
      exact Place.follow_filter located

/-- A path to a file takes a step at least. -/
theorem HoldsFile.steps_ne_nil
    (holds : tree.HoldsFile current path names) (absolute : path.isAbsolute = true) :
    path.steps ≠ [] := by
  intro noStep
  obtain ⟨place, located, _, isFile⟩ := holds
  rw [locate_of_isAbsolute absolute] at located
  split at located
  · cases located
  · split at located
    · cases located
    · have stays := Place.follow_filter located
      rw [← Path.steps_eq_filter_tail absolute, noStep] at stays
      injection stays with isRoot
      subst isRoot
      -- Every path from the root steps somewhere from there, which it cannot from a file.
      obtain ⟨piece, pieces, split⟩ := List.exists_cons_of_ne_nil
        (l := path.pieces.tail) fun noPiece => by
          have bytes := Path.bytes_of_isAbsolute absolute
          rw [noPiece] at bytes
          simp [Path.isAbsolute, bytes, rooted] at absolute
      rw [split, Place.follow_cons, Place.step_of_file isFile] at located
      cases located

/-- The steps of a path lead to the same file. -/
theorem HoldsFile.of_steps
    (holds : tree.HoldsFile current path names) (absolute : path.isAbsolute = true)
    (current' : List EntryName) : tree.HoldsFile current' ⟨rooted path.steps⟩ names := by
  have someStep := holds.steps_ne_nil absolute
  obtain ⟨place, located, isNamed, isFile⟩ := holds
  exact ⟨place, locate_steps located absolute someStep, isNamed, isFile⟩

/-- With a separator behind them they lead nowhere. -/
theorem HoldsFile.not_located
    (holds : tree.HoldsFile current path names) (absolute : path.isAbsolute = true)
    (current' : List EntryName) :
    ∃ error, tree.locate current' ⟨rooted path.steps ++ [separator]⟩ = .error error := by
  obtain ⟨place, located, _, isFile⟩ := holds.of_steps absolute current'
  have someStep := holds.steps_ne_nil absolute
  have undivided : ∀ step, step ∈ path.steps → separator ∉ step := fun step isStep =>
    Path.undivided_of_mem_pieces (Path.mem_steps_iff.mp isStep).1
  have undivided' : ∀ piece, piece ∈ path.steps ++ [[]] → separator ∉ piece := by
    intro piece member
    rcases List.mem_append.mp member with isStep | isLast
    · exact undivided piece isStep
    · rw [List.mem_singleton.mp isLast]
      exact List.not_mem_nil
  rw [locate_of_isAbsolute (Path.isAbsolute_rooted someStep), Path.pieces_rooted undivided,
    List.tail_cons] at located
  rw [Path.rooted_concat_nil, locate_of_isAbsolute (Path.isAbsolute_rooted (by simp)),
    Path.pieces_rooted undivided', List.tail_cons]
  split at located
  · cases located
  · split at located
    · cases located
    · split
      · exact ⟨_, rfl⟩
      · split
        · exact ⟨_, rfl⟩
        · refine ⟨.notDirectory, ?_⟩
          rw [Place.follow_append, located]
          exact (Place.follow_cons place [] []).trans (by rw [Place.step_of_file isFile]; rfl)

/-- Two paths that lead to the same file are read alike. -/
theorem HoldsFile.readText_eq
    (holds : tree.HoldsFile current path names) (holds' : tree.HoldsFile current' path' names) :
    tree.readText current' path' = tree.readText current path := by
  obtain ⟨place, located, isNamed, _⟩ := holds
  obtain ⟨place', located', isNamed', _⟩ := holds'
  have sameTree : place'.tree = place.tree := by
    have found := (isPlace_of_locate located).below?_names
    have found' := (isPlace_of_locate located').below?_names
    rw [isNamed] at found
    rw [isNamed', found] at found'
    exact (Option.some.inj found').symm
  simp only [readText, read, located, located', sameTree]

/-- What is written to one is written to the other. -/
theorem HoldsFile.write_eq
    (holds : tree.HoldsFile current path names) (holds' : tree.HoldsFile current' path' names)
    (text : String) : tree.write current' path' text = tree.write current path text := by
  obtain ⟨leaf, below, _⟩ := holds.below?
  rw [write_eq_insert holds below, write_eq_insert holds' below]

end Paths

end LanguageClient.FileTree
