import LanguageClient.FileUri.Basic
import LanguageClient.Proofs.Files.Name
import LanguageClient.Proofs.FileUri.Percent
import Mathlib.Data.List.TakeWhile

/-!
# The path behind the URI of a file

The URI of a path is made of its steps alone, so two paths share a URI when they have the
same components.  Reading the URI of a path that never leads up takes the same steps again;
only a last step that looks like a drive gets a separator behind it.
-/

namespace LanguageClient.FileUri

open LanguageClient.Path (IsName rooted separator)

/-! ## The URI of a path -/

theorem map_componentBytes_ofPiece (steps : List (List UInt8)) :
    (steps.map Path.Component.ofPiece).map componentBytes = steps := by
  rw [List.map_map]
  conv => rhs; rw [← List.map_id steps]
  apply List.map_congr_left
  intro step _
  unfold Function.comp Path.Component.ofPiece
  split
  · rename_i isParent
    exact isParent.symm
  · rfl

/-- The URI of a path from the root tells its steps. -/
theorem ofPath?_of_isAbsolute {path : Path} (absolute : path.isAbsolute = true) :
    ofPath? path = some (String.ofList ("file://".toList ++ writeSegments path.steps)) := by
  simp only [ofPath?, Path.components_of_isAbsolute absolute, map_componentBytes_ofPiece]

/-- Only paths from the root have a URI. -/
theorem isAbsolute_of_ofPath? {path : Path} {uri : String} (isUri : ofPath? path = some uri) :
    path.isAbsolute = true := by
  unfold ofPath? at isUri
  split at isUri
  · rename_i below fromRoot
    exact Path.isAbsolute_of_components fromRoot
  · cases isUri

/-- What is written tells the segments, if none of them is empty. -/
theorem writeSegments_inj
    {segments segments' : List (List UInt8)} (nonempty : [] ∉ segments)
    (nonempty' : [] ∉ segments') :
    writeSegments segments = writeSegments segments' ↔ segments = segments' := by
  have read {segments : List (List UInt8)} (nonempty : [] ∉ segments) :
      (writeSegments segments).splitOn '/' =
        if segments = [] then [[], []] else [] :: segments.map encodeSegment := by
    unfold writeSegments
    cases segments with
    | nil => rfl
    | cons segment segments =>
        rw [if_neg (by simp), if_neg (List.cons_ne_nil _ _), ← List.flatMap_map encodeSegment]
        apply splitOn_flatMap_cons
        intro piece isPiece isDivided
        obtain ⟨bytes, _, rfl⟩ := List.mem_map.mp isPiece
        exact (isWritten_of_mem_encodeSegment '/' isDivided).separatesNothing.1 rfl
  have different {segments : List (List UInt8)} (nonempty : [] ∉ segments) :
      [[], []] ≠ [] :: segments.map encodeSegment := by
    intro same
    injection same with _ same
    have member : [] ∈ segments.map encodeSegment := same ▸ List.mem_cons_self
    obtain ⟨bytes, isSegment, isEmpty⟩ := List.mem_map.mp member
    rw [encodeSegment_eq_nil_iff] at isEmpty
    exact nonempty (isEmpty ▸ isSegment)
  constructor
  · intro same
    have sameRead := (read nonempty).symm.trans ((congrArg (List.splitOn '/') same).trans
      (read nonempty'))
    split at sameRead <;> split at sameRead
    · rename_i isNil isNil'
      rw [isNil, isNil']
    · exact absurd sameRead (different nonempty')
    · exact absurd sameRead.symm (different nonempty)
    · injection sameRead with _ sameRead
      exact List.map_injective_iff.mpr encodeSegment_injective sameRead
  · exact congrArg writeSegments

/-- Two paths have the same URI if they have the same components. -/
theorem ofPath?_eq_iff
    {path other : Path} {uri : String} (isUri : ofPath? path = some uri) :
    ofPath? other = some uri ↔ other.components = path.components := by
  have absolute := isAbsolute_of_ofPath? isUri
  have nonempty (path : Path) : [] ∉ path.steps :=
    fun isStep => (Path.mem_steps_iff.mp isStep).2.1 rfl
  constructor
  · intro isUri'
    have same := isUri'.trans isUri.symm
    have absolute' := isAbsolute_of_ofPath? isUri'
    rw [ofPath?_of_isAbsolute absolute, ofPath?_of_isAbsolute absolute', Option.some.injEq,
      String.ofList_inj, List.append_cancel_left_eq,
      writeSegments_inj (nonempty other) (nonempty path)] at same
    rw [Path.components_of_isAbsolute absolute, Path.components_of_isAbsolute absolute', same]
  · intro same
    rw [← isUri, ofPath?, ofPath?, same]

/-! ## Reading segments -/

section Segments

variable {start : List (List Char)} {hasDrive : Bool} {name : List UInt8}

/-- A written name is put behind the segments before it, whatever it looks like. -/
theorem push_encodeSegment
    (started : start ≠ []) (isName : IsName name) :
    Trail.push .file ⟨start, hasDrive⟩ (encodeSegment name) =
      ⟨encodeSegment name :: start, hasDrive⟩ := by
  have notEmpty : start.isEmpty = false := by simpa using started
  simp [Trail.push, Trail.add, notEmpty, dropBreaks_encodeSegment,
    isHere_encodeSegment isName.noDot, isAbove_encodeSegment isName.noDots]

theorem finish_encodeSegment
    (started : start ≠ []) (isName : IsName name) :
    Trail.finish .file ⟨start, hasDrive⟩ (encodeSegment name) =
      ⟨encodeSegment name :: start, hasDrive⟩ := by
  simp [Trail.finish, push_encodeSegment started isName, dropBreaks_encodeSegment,
    isHere_encodeSegment isName.noDot, isAbove_encodeSegment isName.noDots]

theorem foldl_push_encodeSegment
    {names : List (List UInt8)} (started : start ≠ [])
    (areNames : ∀ name, name ∈ names → IsName name) :
    (names.map encodeSegment).foldl (Trail.push .file) ⟨start, hasDrive⟩ =
      ⟨(names.map encodeSegment).reverse ++ start, hasDrive⟩ := by
  induction names generalizing start with
  | nil => rfl
  | cons name names inductionHypothesis =>
      obtain ⟨isName, areNames⟩ := List.forall_mem_cons.mp areNames
      rw [List.map_cons, List.foldl_cons, push_encodeSegment started isName,
        inductionHypothesis (List.cons_ne_nil _ _) areNames]
      simp

end Segments

/-- The trail behind some written names. -/
theorem ofPath_writeSegments
    {names : List (List UInt8)} (notEmpty : names ≠ [])
    (areNames : ∀ name, name ∈ names → IsName name) :
    Trail.ofPath .file [[]] (dropSeparator .file (writeSegments names)) =
      ⟨(names.map encodeSegment).reverse ++ [[]], false⟩ := by
  have written : writeSegments names = (names.map encodeSegment).flatMap fun segment =>
      '/' :: segment := by
    rw [writeSegments, if_neg (by simpa using notEmpty), List.flatMap_map]
  have pieces : (dropSeparator .file (writeSegments names)).splitOnP Scheme.file.isSeparator =
      names.map encodeSegment := by
    have whole : ((names.map encodeSegment).flatMap fun segment => '/' :: segment).splitOnP
        Scheme.file.isSeparator = [] :: names.map encodeSegment := by
      refine splitOnP_flatMap_cons rfl fun piece isPiece c member => ?_
      obtain ⟨bytes, _, rfl⟩ := List.mem_map.mp isPiece
      exact (isWritten_of_mem_encodeSegment c member).isSeparator .file
    have isSlash : Scheme.file.isSeparator '/' = true := rfl
    rw [written]
    cases names with
    | nil => exact absurd rfl notEmpty
    | cons name names =>
        rw [List.map_cons, List.flatMap_cons, List.cons_append,
          List.splitOnP_cons_eq_if_modifyHead, if_pos isSlash] at whole
        exact List.tail_eq_of_cons_eq whole
  obtain ⟨front, last, rfl⟩ : ∃ front last, names = front ++ [last] :=
    ⟨_, _, (List.dropLast_concat_getLast notEmpty).symm⟩
  have areFront : ∀ name, name ∈ front → IsName name := fun name member =>
    areNames name (List.mem_append_left _ member)
  have isLast : IsName last := areNames last (List.mem_append_right _ List.mem_cons_self)
  rw [Trail.ofPath, pieces, List.map_append, List.map_singleton, List.dropLast_concat,
    List.getLastD_concat, foldl_push_encodeSegment (List.cons_ne_nil _ _) areFront,
    finish_encodeSegment (by simp) isLast]
  simp

/-! ## Reading a path -/

/-- Whether a name ends in a letter and a colon or a bar, as drives do. -/
def looksLikeDrive (name : List UInt8) : Bool :=
  match name.reverse with
  | mark :: letter :: _ =>
      (mark == 0x3A || mark == 0x7C) && (Char.ofNat letter.toNat).isAlpha && letter < 0x80
  | _ => false

/-- The path from the root through some names, with a separator behind a last one that looks
like a drive. -/
def pathBack (names : List (List UInt8)) : Path :=
  if names.getLast?.any looksLikeDrive then ⟨rooted names ++ [separator]⟩
  else Path.ofNames names

theorem pathOfSegments_encodeSegment {names : List (List UInt8)} (notEmpty : names ≠ []) :
    pathOfSegments (names.map encodeSegment) = pathBack names := by
  have bytes : ((names.map encodeSegment).flatMap fun segment =>
      separator :: decodeText segment) = rooted names := by
    simp [List.flatMap_map, decodeText_encodeSegment, rooted]
  obtain ⟨front, last, rfl⟩ : ∃ front last, names = front ++ [last] :=
    ⟨_, _, (List.dropLast_concat_getLast notEmpty).symm⟩
  have reversed : (rooted (front ++ [last])).reverse =
      last.reverse ++ separator :: (rooted front).reverse := by
    simp [Path.rooted]
  simp only [pathOfSegments, bytes, reversed, pathBack, List.getLast?_concat, Option.any_some,
    Path.ofNames_eq_rooted notEmpty, looksLikeDrive]
  generalize last.reverse = ending
  -- A letter in front of a mark is never the separator before the last name.
  rcases ending with _ | ⟨mark, _ | ⟨letter, ending⟩⟩
  · cases (rooted front).reverse with
    | nil => rfl
    | cons byte rest =>
        cases rest with
        | nil => rfl
        | cons byte' rest =>
            simp [separator]
  · cases (rooted front).reverse with
    | nil => rfl
    | cons byte rest =>
        simp [separator]
  · cases ending with
    | nil => rfl
    | cons byte rest => rfl

section Reading

variable {names : List (List UInt8)}

theorem path_of_written
    (notEmpty : names ≠ []) (areNames : ∀ name, name ∈ names → IsName name) :
    Trail.path .file ⟨(names.map encodeSegment).reverse ++ [[]], false⟩ = pathBack names := by
  have behindEmpty : dropEmptyFront ([] :: names.map encodeSegment) = names.map encodeSegment := by
    obtain ⟨name, names, rfl⟩ := List.exists_cons_of_ne_nil notEmpty
    have written : encodeSegment name ≠ [] := fun isEmpty =>
      (areNames name List.mem_cons_self).nonempty ((encodeSegment_eq_nil_iff name).mp isEmpty)
    obtain ⟨c, segment, isWritten⟩ := List.exists_cons_of_ne_nil written
    rw [List.map_cons, isWritten]
    rfl
  rw [← pathOfSegments_encodeSegment notEmpty, ← behindEmpty]
  simp [Trail.path, behindEmpty]

theorem trimOuter_of_printable
    {text : List Char} (printable : ∀ c, c ∈ text → 0x20 < c.toNat) : trimOuter text = text := by
  have kept (text : List Char) (printable : ∀ c, c ∈ text → 0x20 < c.toNat) :
      text.dropWhile (fun c => c.toNat ≤ 0x20) = text := by
    cases text with
    | nil => rfl
    | cons c text =>
        apply List.dropWhile_cons_of_neg
        simpa using printable c List.mem_cons_self
  change ((text.dropWhile fun c => c.toNat ≤ 0x20).reverse.dropWhile fun c => c.toNat ≤ 0x20).reverse
    = text
  rw [kept text printable, kept text.reverse fun c member => printable c (List.mem_reverse.mp member),
    List.reverse_reverse]

theorem beforeQuery_of_not_ends
    {text : List Char} (ends : ∀ c, c ∈ text → endsPath c = false) : beforeQuery text = text := by
  rw [beforeQuery, List.takeWhile_eq_self_iff]
  intro c member
  rw [ends c member]
  rfl

theorem mem_writeSegments {c : Char} (member : c ∈ writeSegments names) :
    c = '/' ∨ IsWritten c := by
  unfold writeSegments at member
  split at member
  · exact Or.inl (List.mem_singleton.mp member)
  · obtain ⟨name, _, isPart⟩ := List.mem_flatMap.mp member
    rcases List.mem_cons.mp isPart with isSlash | isSegment
    · exact Or.inl isSlash
    · exact Or.inr (isWritten_of_mem_encodeSegment c isSegment)

theorem exists_writeSegments_eq (names : List (List UInt8)) :
    ∃ rest, writeSegments names = '/' :: rest := by
  unfold writeSegments
  cases names with
  | nil => exact ⟨[], rfl⟩
  | cons name names => exact ⟨_, rfl⟩

/-- The text of the URI of a file, behind the scheme, is read segment by segment. -/
theorem filePath?_writeSegments (names : List (List UInt8)) :
    filePath? ('/' :: '/' :: writeSegments names) =
      some ((Trail.ofPath .file [[]] (dropSeparator .file (writeSegments names))).path .file) := by
  obtain ⟨rest, isRooted⟩ := exists_writeSegments_eq names
  rw [isRooted]
  have noHost : ('/' :: rest).span (!Scheme.file.isSeparator ·) = ([], '/' :: rest) := rfl
  have opened (text : List Char) : takeSeparator? .file ('/' :: text) = some text := rfl
  simp only [filePath?, opened, pathBehindHost?, noHost]
  rfl

/-- Reading the URI that some names are written as gives the path through them. -/
theorem toPath?_writeSegments (areNames : ∀ name, name ∈ names → IsName name) :
    toPath? (String.ofList ("file://".toList ++ writeSegments names)) = some (pathBack names) := by
  have written : "file://".toList ++ writeSegments names =
      'f' :: 'i' :: 'l' :: 'e' :: ':' :: '/' :: '/' :: writeSegments names := rfl
  have plain : ∀ c, c ∈ "file://".toList ++ writeSegments names →
      0x20 < c.toNat ∧ endsPath c = false := by
    intro c member
    rcases List.mem_append.mp member with isFront | isPath
    · have checked : ("file://".toList.all fun c => 0x20 < c.toNat && !endsPath c) = true := by
        decide
      simpa using List.all_eq_true.mp checked c isFront
    · rcases mem_writeSegments isPath with rfl | isWritten
      · decide
      · exact ⟨isWritten.printable, isWritten.endsPath⟩
  have scheme (rest : List Char) :
      splitScheme? ('f' :: 'i' :: 'l' :: 'e' :: ':' :: rest) = some (.file, rest) := by
    rfl
  have query : beforeQuery ('/' :: '/' :: writeSegments names) =
      '/' :: '/' :: writeSegments names := by
    apply beforeQuery_of_not_ends
    intro c member
    exact (plain c (written ▸ List.mem_append_right ['f', 'i', 'l', 'e', ':'] member)).2
  rw [toPath?, String.toList_ofList, trimOuter_of_printable fun c member => (plain c member).1,
    written, scheme]
  simp only [query, filePath?_writeSegments]
  by_cases isEmpty : names = []
  · subst isEmpty
    rfl
  · rw [ofPath_writeSegments isEmpty areNames, path_of_written isEmpty areNames]

end Reading

/-! ## There and back -/

section Back

variable {path : Path} {uri : String}

/-- The URI of a path that never leads up names the path with its steps. -/
theorem toPath?_of_ofPath?
    (noParent : .parent ∉ path.components) (isUri : ofPath? path = some uri) :
    toPath? uri = some (pathBack path.steps) := by
  rw [ofPath?_of_isAbsolute (isAbsolute_of_ofPath? isUri), Option.some.injEq] at isUri
  rw [← isUri]
  exact toPath?_writeSegments fun step isStep => Path.isName_of_mem_steps noParent isStep

/-- The path that is read has the components of the names. -/
theorem components_pathBack
    {names : List (List UInt8)} (areNames : ∀ name, name ∈ names → IsName name) :
    (pathBack names).components = .root :: names.map .ofPiece := by
  have rooted {path : Path} (absolute : path.isAbsolute = true) (steps : path.steps = names) :
      path.components = .root :: names.map .ofPiece := by
    rw [Path.components_of_isAbsolute absolute, steps]
  unfold pathBack
  split
  · apply rooted _ (Path.steps_rooted_concat_nil areNames)
    rw [Path.rooted_concat_nil]
    exact Path.isAbsolute_rooted (by simp)
  · by_cases isEmpty : names = []
    · subst isEmpty
      rfl
    · rw [Path.ofNames_eq_rooted isEmpty]
      exact rooted (Path.isAbsolute_rooted isEmpty) (Path.steps_rooted_names areNames)

theorem components_pathBack_steps
    (absolute : path.isAbsolute = true) (noParent : .parent ∉ path.components) :
    (pathBack path.steps).components = path.components := by
  rw [components_pathBack fun step => Path.isName_of_mem_steps noParent,
    Path.components_of_isAbsolute absolute]

end Back

end LanguageClient.FileUri
