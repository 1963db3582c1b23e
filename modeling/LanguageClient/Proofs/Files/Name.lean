import LanguageClient.Path
import LanguageClient.Proofs.Sequence
import Mathlib.Data.List.Flatten

/-!
# Names on the way of a path

The components of a path from the root are known from the steps it takes: the pieces
between its separators without those that lead nowhere.  A path that is made of names
takes just these names as its steps, and a path below another one takes the steps of
both.
-/

namespace LanguageClient.Path

/-! ## Steps -/

def steps (path : Path) : List (List UInt8) :=
  path.pieces.filter fun piece => piece ≠ [] && piece ≠ [dot]

structure IsName (name : List UInt8) : Prop where
  nonempty : name ≠ []
  undivided : separator ∉ name
  noDot : name ≠ [dot]
  noDots : name ≠ [dot, dot]

instance (name : List UInt8) : Decidable (IsName name) :=
  decidable_of_iff (name ≠ [] ∧ separator ∉ name ∧ name ≠ [dot] ∧ name ≠ [dot, dot])
    ⟨fun ⟨nonempty, undivided, noDot, noDots⟩ => ⟨nonempty, undivided, noDot, noDots⟩,
      fun isName => ⟨isName.nonempty, isName.undivided, isName.noDot, isName.noDots⟩⟩

theorem IsName.ofPiece {name : List UInt8} (isName : IsName name) :
    Component.ofPiece name = .name name :=
  if_neg isName.noDots

theorem map_ofPiece_of_isName
    {names : List (List UInt8)} (areNames : ∀ name, name ∈ names → IsName name) :
    names.map Component.ofPiece = names.map .name :=
  List.map_congr_left fun name member => (areNames name member).ofPiece

section Steps

variable {path : Path}

/-- A path from the root takes its steps from there. -/
theorem components_of_isAbsolute (absolute : path.isAbsolute = true) :
    path.components = .root :: path.steps.map .ofPiece :=
  if_pos absolute

theorem root_not_mem_steps : Component.root ∉ path.steps.map Component.ofPiece := by
  rintro member
  obtain ⟨piece, _, isRoot⟩ := List.mem_map.mp member
  unfold Component.ofPiece at isRoot
  split at isRoot <;> cases isRoot

/-- Only a path from the root has the root for its first component. -/
theorem isAbsolute_of_components
    {below : List Component} (fromRoot : path.components = .root :: below) :
    path.isAbsolute = true := by
  cases absolute : path.isAbsolute with
  | true => rfl
  | false =>
      unfold components at fromRoot
      rw [absolute, if_neg Bool.false_ne_true] at fromRoot
      split at fromRoot
      · cases fromRoot
      · exact absurd (fromRoot ▸ List.mem_cons_self) root_not_mem_steps

theorem mem_steps_iff {step : List UInt8} :
    step ∈ path.steps ↔ step ∈ path.pieces ∧ step ≠ [] ∧ step ≠ [dot] := by
  simp [steps]

theorem undivided_of_mem_pieces {piece : List UInt8} (isPiece : piece ∈ path.pieces) :
    separator ∉ piece :=
  not_mem_of_mem_splitOn isPiece

/-- The steps of a path that never leads up are names. -/
theorem isName_of_mem_steps
    (noParent : .parent ∉ path.components) {step : List UInt8} (isStep : step ∈ path.steps) :
    IsName step := by
  obtain ⟨isPiece, nonempty, noDot⟩ := mem_steps_iff.mp isStep
  refine ⟨nonempty, undivided_of_mem_pieces isPiece, noDot, ?_⟩
  rintro rfl
  apply noParent
  have isComponent : Component.parent ∈ path.steps.map .ofPiece := List.mem_map.mpr ⟨_, isStep, rfl⟩
  unfold components
  split
  · exact List.mem_cons_of_mem _ isComponent
  · split
    · exact List.mem_cons_of_mem _ isComponent
    · exact isComponent

end Steps

/-! ## Paths made of names -/

/-- Bytes with a separator in front of each of some pieces. -/
def rooted (pieces : List (List UInt8)) : List UInt8 :=
  pieces.flatMap fun piece => separator :: piece

theorem rooted_append (pieces pieces' : List (List UInt8)) :
    rooted (pieces ++ pieces') = rooted pieces ++ rooted pieces' :=
  List.flatMap_append

/-- A separator at the end stands before an empty piece. -/
theorem rooted_concat_nil (pieces : List (List UInt8)) :
    rooted pieces ++ [separator] = rooted (pieces ++ [[]]) := by
  rw [rooted_append]
  rfl

section Rooted

variable {pieces : List (List UInt8)}

theorem isAbsolute_rooted (notEmpty : pieces ≠ []) : isAbsolute ⟨rooted pieces⟩ = true := by
  obtain ⟨piece, pieces, rfl⟩ := List.exists_cons_of_ne_nil notEmpty
  rfl

theorem pieces_rooted (undivided : ∀ piece, piece ∈ pieces → separator ∉ piece) :
    Path.pieces ⟨rooted pieces⟩ = [] :: pieces :=
  splitOn_flatMap_cons undivided

theorem steps_rooted (undivided : ∀ piece, piece ∈ pieces → separator ∉ piece) :
    steps ⟨rooted pieces⟩ = pieces.filter fun piece => piece ≠ [] && piece ≠ [dot] := by
  rw [steps, pieces_rooted undivided]
  rfl

theorem filter_names (areNames : ∀ name, name ∈ pieces → IsName name) :
    (pieces.filter fun piece => piece ≠ [] && piece ≠ [dot]) = pieces := by
  rw [List.filter_eq_self]
  intro name member
  simp [(areNames name member).nonempty, (areNames name member).noDot]

theorem steps_rooted_names (areNames : ∀ name, name ∈ pieces → IsName name) :
    steps ⟨rooted pieces⟩ = pieces := by
  rw [steps_rooted fun name member => (areNames name member).undivided, filter_names areNames]

/-- A separator at the end makes no difference to the steps. -/
theorem steps_rooted_concat_nil (areNames : ∀ name, name ∈ pieces → IsName name) :
    steps ⟨rooted pieces ++ [separator]⟩ = pieces := by
  have undivided : ∀ piece, piece ∈ pieces ++ [[]] → separator ∉ piece := by
    intro piece member
    rcases List.mem_append.mp member with isName | isLast
    · exact (areNames piece isName).undivided
    · rw [List.mem_singleton.mp isLast]
      exact List.not_mem_nil
  rw [rooted_concat_nil, steps_rooted undivided, List.filter_append, filter_names areNames]
  simp

end Rooted

theorem ofNames_eq_rooted {names : List (List UInt8)} (notEmpty : names ≠ []) :
    ofNames names = ⟨rooted names⟩ := by
  rw [ofNames, if_neg (by simpa using notEmpty)]
  rfl

section Absolute

variable {path : Path} (absolute : path.isAbsolute = true)

include absolute

/-- A path from the root is its pieces with a separator in front of each. -/
theorem pieces_of_isAbsolute : path.pieces = [] :: path.pieces.tail := by
  obtain ⟨bytes, isBytes⟩ : ∃ bytes, path.bytes = separator :: bytes :=
    List.head?_eq_some_iff.mp (by simpa [isAbsolute] using absolute)
  rw [pieces, isBytes, List.splitOn_cons_eq_if_modifyHead, if_pos (beq_self_eq_true separator),
    List.tail_cons]

theorem bytes_of_isAbsolute : path.bytes = rooted path.pieces.tail := by
  have behind (first : List UInt8) (rest : List (List UInt8)) :
      [separator].intercalate (first :: rest) = first ++ rooted rest := by
    induction rest generalizing first with
    | nil => simp [rooted]
    | cons piece rest inductionHypothesis =>
        rw [List.intercalate_cons_cons, inductionHypothesis]
        simp [rooted]
  have whole := behind [] path.pieces.tail
  rwa [← pieces_of_isAbsolute absolute, pieces, List.intercalate_splitOn] at whole

theorem steps_eq_filter_tail :
    path.steps = path.pieces.tail.filter fun piece => piece ≠ [] && piece ≠ [dot] := by
  rw [steps, pieces_of_isAbsolute absolute]
  rfl

/-- The steps alone take no more bytes than the path. -/
theorem rooted_steps_sublist : (rooted path.steps).Sublist path.bytes := by
  rw [bytes_of_isAbsolute absolute, steps_eq_filter_tail absolute]
  exact List.filter_sublist.flatMap _

end Absolute

/-! ## Paths below others -/

/-- A relative path below another adds its steps to those of the other. -/
theorem components_join
    {path below : Path} (notEmpty : path.bytes ≠ []) (relative : below.isAbsolute = false) :
    (path.join below).components = path.components ++ below.steps.map .ofPiece := by
  have added : ∃ front, front ≠ [] ∧ path.pieces.head? = front.head? ∧
      (path.join below).pieces = front ++ below.pieces ∧
        path.steps = front.filter (fun piece => piece ≠ [] && piece ≠ [dot]) ∧
          (path.join below).isAbsolute = path.isAbsolute := by
    rw [join, if_neg (by simp [relative])]
    split
    · -- The separator at the end of the path is the one between the two.
      rename_i isLast
      have isLast : path.bytes.getLast? = some separator := by simpa [notEmpty] using isLast
      obtain ⟨bytes, isBytes⟩ := List.getLast?_eq_some_iff.mp isLast
      have split : path.pieces = bytes.splitOn separator ++ [[]] := by
        rw [pieces, isBytes, List.splitOn_append_cons_self]
        rfl
      refine ⟨bytes.splitOn separator, List.splitOn_ne_nil separator bytes, ?_, ?_, ?_, ?_⟩
      · rw [split, List.head?_append_of_ne_nil _ (List.splitOn_ne_nil separator bytes)]
      · rw [pieces, isBytes, List.append_assoc, List.singleton_append,
          List.splitOn_append_cons_self, pieces]
      · rw [steps, split, List.filter_append]
        simp
      · simp only [isAbsolute, List.head?_append_of_ne_nil _ notEmpty]
    · refine ⟨path.pieces, List.splitOn_ne_nil separator path.bytes, rfl, ?_, rfl, ?_⟩
      · exact List.splitOn_append_cons_self _ _
      · simp only [isAbsolute, List.head?_append_of_ne_nil _ notEmpty]
  obtain ⟨front, hasFront, sameHead, split, isSteps, sameRoot⟩ := added
  have joined : (path.join below).steps = path.steps ++ below.steps := by
    rw [steps, split, List.filter_append, isSteps]
    rfl
  have head : (path.join below).pieces.head? = path.pieces.head? := by
    rw [split, List.head?_append_of_ne_nil _ hasFront, sameHead]
  have assembled (path : Path) : path.components =
      if path.isAbsolute then .root :: path.steps.map .ofPiece
      else if path.pieces.head? = some [dot] then .current :: path.steps.map .ofPiece
      else path.steps.map .ofPiece := rfl
  rw [assembled, assembled path, joined, head, sameRoot, List.map_append]
  split
  · rfl
  · split <;> rfl

end LanguageClient.Path
