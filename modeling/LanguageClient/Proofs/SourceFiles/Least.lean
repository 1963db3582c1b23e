import LanguageClient.Proofs.Files.Place
import LanguageClient.Proofs.SourceFiles.Walk
import Mathlib.Data.List.TakeWhile

/-!
# The least files of a workspace

Of the regular files below a workspace that are not left out and have one of the extensions,
the first in the order of their paths are found, as many as are asked for.
-/

namespace LanguageClient

/-! ## Paths of names -/

namespace Path

section Names

variable {names names' : List (List UInt8)}

theorem pieces_pathBytes
    (notEmpty : names ≠ []) (areNames : ∀ name, name ∈ names → IsName name) :
    pieces ⟨IgnoreFile.pathBytes names⟩ = names :=
  List.splitOn_intercalate separator (fun name member => (areNames name member).undivided) notEmpty

theorem steps_pathBytes
    (notEmpty : names ≠ []) (areNames : ∀ name, name ∈ names → IsName name) :
    steps ⟨IgnoreFile.pathBytes names⟩ = names := by
  rw [steps, pieces_pathBytes notEmpty areNames, filter_names areNames]

theorem isAbsolute_pathBytes
    (notEmpty : names ≠ []) (areNames : ∀ name, name ∈ names → IsName name) :
    isAbsolute ⟨IgnoreFile.pathBytes names⟩ = false := by
  cases absolute : isAbsolute ⟨IgnoreFile.pathBytes names⟩ with
  | false => rfl
  | true =>
      -- A path from the root has an empty piece in front.
      have split := pieces_of_isAbsolute absolute
      rw [pieces_pathBytes notEmpty areNames] at split
      exact absurd rfl (areNames [] (split ▸ List.mem_cons_self)).nonempty

/-- The components of a path through names below another one. -/
theorem components_join_pathBytes
    {path : Path} (somewhere : path.bytes ≠ []) (notEmpty : names ≠ [])
    (areNames : ∀ name, name ∈ names → IsName name) :
    (path.join ⟨IgnoreFile.pathBytes names⟩).components =
      path.components ++ names.map Component.name := by
  rw [components_join somewhere (isAbsolute_pathBytes notEmpty areNames),
    steps_pathBytes notEmpty areNames, map_ofPiece_of_isName areNames]

theorem compareComponents_append_names (front : List Component) :
    compareComponents (front ++ names.map .name) (front ++ names'.map .name) =
      List.compareLex compareBytes names names' := by
  induction front with
  | nil =>
      simp only [List.nil_append]
      induction names generalizing names' with
      | nil => cases names' <;> rfl
      | cons name names inductionHypothesis =>
          cases names' with
          | nil => rfl
          | cons name' names' =>
              rw [List.map_cons, List.map_cons, compareComponents, inductionHypothesis,
                List.compareLex_cons_cons]
              rfl
  | cons first front inductionHypothesis =>
      have same : first.compare first = .eq := Std.ReflCmp.compare_self
      rw [List.cons_append, List.cons_append, compareComponents, same, Ordering.eq_then,
        inductionHypothesis]

end Names

/-! ## Extensions -/

/-- Whether a name ends in an extension, behind a dot that is not its first byte. -/
def EndsIn (name extension : List UInt8) : Prop :=
  ∃ stem, stem ≠ [] ∧ dot ∉ extension ∧ name = stem ++ dot :: extension

theorem splitName_of_endsIn {name extension : List UInt8} (ends : EndsIn name extension) :
    (splitName name).2 = some extension := by
  obtain ⟨stem, notEmpty, noDot, rfl⟩ := ends
  have reversed : (stem ++ dot :: extension).reverse =
      extension.reverse ++ dot :: stem.reverse := by simp
  have plain : ∀ byte, byte ∈ extension.reverse → (byte != dot) = true := by
    intro byte member
    rw [bne_iff_ne]
    rintro rfl
    exact noDot (List.mem_reverse.mp member)
  have stops : (dot != dot) = false := by decide
  have after : (extension.reverse ++ dot :: stem.reverse).takeWhile (· != dot) =
      extension.reverse := by
    rw [List.takeWhile_append_of_pos plain, List.takeWhile_cons, stops]
    simp
  have before : (extension.reverse ++ dot :: stem.reverse).dropWhile (· != dot) =
      dot :: stem.reverse := by
    rw [List.dropWhile_append_of_pos plain, List.dropWhile_cons, stops]
    rfl
  have shorter : extension.length ≠ stem.length + (extension.length + 1) := by omega
  simp only [splitName, reversed, after, before]
  simp [shorter, notEmpty]

theorem endsIn_of_splitName {name extension : List UInt8}
    (isSplit : (splitName name).2 = some extension) : EndsIn name extension := by
  have whole : name.reverse.takeWhile (· != dot) ++ name.reverse.dropWhile (· != dot) =
      name.reverse := List.takeWhile_append_dropWhile
  have plain : dot ∉ name.reverse.takeWhile (· != dot) := fun member => by
    simpa using List.mem_takeWhile_imp member
  have stops := List.head?_dropWhile_not (· != dot) name.reverse
  unfold splitName at isSplit
  generalize name.reverse.takeWhile (· != dot) = after at whole plain isSplit
  generalize name.reverse.dropWhile (· != dot) = before at whole stops isSplit
  have isName : name = before.reverse ++ after.reverse := by
    rw [← List.reverse_append, whole, List.reverse_reverse]
  simp only at isSplit
  split at isSplit
  · cases isSplit
  · rename_i isDivided
    obtain rfl : after.reverse = extension := Option.some.inj isSplit
    cases before with
    | nil => simp [isName] at isDivided
    | cons byte before =>
        obtain rfl : byte = dot := by simpa using stops
        refine ⟨before.reverse, ?_, by simpa using plain, by simp [isName]⟩
        intro isEmpty
        simp [isEmpty] at isDivided

end Path

/-! ## Proper trees -/

namespace FileTree

section Proper

variable {tree leaf : FileTree} {names : List EntryName}

/-- What is at names in a proper tree is proper, and they are names of entries. -/
theorem IsProper.of_below?
    (proper : tree.IsProper) (found : tree.below? names = some leaf) :
    leaf.IsProper ∧ ∀ name, name ∈ names → Path.IsName name := by
  induction names generalizing tree with
  | nil => exact ⟨Option.some.inj found ▸ proper, fun _ member => nomatch member⟩
  | cons name names inductionHypothesis =>
      obtain ⟨entry, isEntry, isLeaf⟩ := child?_of_below?_cons found
      cases proper with
      | file | program => cases isDirectory_of_child? isEntry
      | directory distinct areNames proper =>
          have member := (child?_eq_some_iff distinct).mp isEntry
          obtain ⟨properLeaf, areBelow⟩ := inductionHypothesis (proper _ member) isLeaf
          exact ⟨properLeaf, List.forall_mem_cons.mpr ⟨areNames _ member, areBelow⟩⟩

/-- All that is on the way to something is there. -/
theorem exists_below?_of_prefix
    {front : List EntryName} (found : tree.below? names = some leaf) (isFront : front <+: names) :
    ∃ entry, tree.below? front = some entry := by
  obtain ⟨rest, rfl⟩ := isFront
  rw [below?_append] at found
  obtain ⟨entry, isEntry, _⟩ := Option.bind_eq_some_iff.mp found
  exact ⟨entry, isEntry⟩

end Proper

end FileTree

/-! ## The files that are found -/

namespace SourceFiles

/-- Whether names lead to a file that is one to be found: a regular file below a place which
is not ignored, nor below anything that is, with no name on the way to it that is excluded,
and with just one of the extensions at its end. -/
structure IsEligible (ignored : List EntryName → Bool → Bool) (extensions : List (List UInt8))
    (place : FileTree.Place) (below : List EntryName) : Prop where
  isFile : place.tree.HasFile below
  kept : place.tree.IsKept ignored place.names below
  admitted : ∀ name, name ∈ below → name ∉ excludedNames
  hasExtension : ∃ name extension, below.getLast? = some name ∧ extension ∈ extensions ∧
    Path.EndsIn name extension

/-- The paths of all files that are to be found below a workspace, in their order. -/
structure AreEligible (ignored : List EntryName → Bool → Bool) (extensions : List (List UInt8))
    (place : FileTree.Place) (workspace : Path) (paths : List Path) : Prop where
  ordered : paths.Pairwise fun first second => first.compare second = .lt
  mem_iff : ∀ path, path ∈ paths ↔ ∃ below, IsEligible ignored extensions place below ∧
    path = workspace.join ⟨IgnoreFile.pathBytes below⟩

section Find

variable {ignored : List EntryName → Bool → Bool} {extensions : List (List UInt8)}
  {place : FileTree.Place} {workspace : Path} {below below' : List EntryName}

/-- The entries that are pruned are those that are ignored and those with excluded names. -/
theorem isKept_isPruned_iff (isFile : place.tree.HasFile below) :
    place.tree.IsKept (isPruned ignored) place.names below ↔
      place.tree.IsKept ignored place.names below ∧
        ∀ name, name ∈ below → name ∉ excludedNames := by
  have isPruned_eq (front : List EntryName) (notEmpty : front ≠ []) (isDirectory : Bool) :
      isPruned ignored (place.names ++ front) isDirectory =
        (ignored (place.names ++ front) isDirectory ||
          front.getLast?.any excludedNames.contains) := by
    rw [isPruned, List.getLast?_append_of_ne_nil _ notEmpty]
  constructor
  · intro kept
    refine ⟨fun front isFront notEmpty entry isEntry => ?_, fun name member isExcluded => ?_⟩
    · have notPruned := kept front isFront notEmpty entry isEntry
      rw [isPruned_eq front notEmpty, Bool.or_eq_false_iff] at notPruned
      exact notPruned.1
    · obtain ⟨front, rest, rfl⟩ := List.append_of_mem member
      obtain ⟨content, executable, isFile⟩ := isFile
      have isFront : front ++ [name] <+: front ++ name :: rest := ⟨rest, by simp⟩
      obtain ⟨entry, isEntry⟩ := FileTree.exists_below?_of_prefix isFile isFront
      have notPruned := kept (front ++ [name]) isFront (by simp) entry isEntry
      rw [isPruned_eq _ (by simp), Bool.or_eq_false_iff] at notPruned
      simp [isExcluded] at notPruned
  · rintro ⟨kept, admitted⟩ front isFront notEmpty entry isEntry
    rw [isPruned_eq front notEmpty, kept front isFront notEmpty entry isEntry, Bool.false_or]
    have isLast := List.getLast?_eq_some_getLast notEmpty
    have notExcluded := admitted _ (isFront.subset (List.getLast_mem notEmpty))
    simp [isLast, notExcluded]

theorem hasExtension_join_iff
    (somewhere : workspace.bytes ≠ []) (notEmpty : below ≠ [])
    (areNames : ∀ name, name ∈ below → Path.IsName name) :
    hasExtension extensions (workspace.join ⟨IgnoreFile.pathBytes below⟩) = true ↔
      ∃ name extension, below.getLast? = some name ∧ extension ∈ extensions ∧
        Path.EndsIn name extension := by
  have fileName : (workspace.join ⟨IgnoreFile.pathBytes below⟩).fileName? =
      some (below.getLast notEmpty) := by
    rw [Path.fileName?, Path.components_join_pathBytes somewhere notEmpty areNames,
      List.getLast?_append_of_ne_nil _ (by simpa using notEmpty), List.getLast?_map,
      List.getLast?_eq_some_getLast notEmpty]
    rfl
  rw [hasExtension, Path.extension?, fileName, Option.bind_some,
    List.getLast?_eq_some_getLast notEmpty]
  constructor
  · intro isOne
    cases isSplit : (Path.splitName (below.getLast notEmpty)).2 with
    | none => simp [isSplit] at isOne
    | some extension =>
        rw [isSplit, Option.any_some, List.contains_iff_mem] at isOne
        exact ⟨_, extension, rfl, isOne, Path.endsIn_of_splitName isSplit⟩
  · rintro ⟨name, extension, isLast, isOne, ends⟩
    obtain rfl := Option.some.inj isLast
    rw [Path.splitName_of_endsIn ends, Option.any_some, List.contains_iff_mem]
    exact isOne

theorem pathBelow_append (names : List EntryName) (notEmpty : below ≠ []) :
    pathBelow workspace names.length (names ++ below) =
      workspace.join ⟨IgnoreFile.pathBytes below⟩ := by
  obtain ⟨name, rest, rfl⟩ := List.exists_cons_of_ne_nil notEmpty
  simp only [pathBelow, List.drop_left]

/-- The paths of files below a workspace are in the order of their names. -/
theorem compare_join_pathBytes
    (somewhere : workspace.bytes ≠ []) (notEmpty : below ≠ []) (notEmpty' : below' ≠ [])
    (areNames : ∀ name, name ∈ below → Path.IsName name)
    (areNames' : ∀ name, name ∈ below' → Path.IsName name) :
    (workspace.join ⟨IgnoreFile.pathBytes below⟩).compare
        (workspace.join ⟨IgnoreFile.pathBytes below'⟩) =
      List.compareLex Path.compareBytes below below' := by
  rw [Path.compare, Path.components_join_pathBytes somewhere notEmpty areNames,
    Path.components_join_pathBytes somewhere notEmpty' areNames',
    Path.compareComponents_append_names]

theorem bytes_ne_nil_of_locate
    {tree : FileTree} {current : List EntryName}
    (located : tree.locate current workspace = .ok place) : workspace.bytes ≠ [] := by
  intro isEmpty
  simp [FileTree.locate, isEmpty] at located

/-- Names that lead from a directory to a file are names, and there are some. -/
theorem names_of_hasFile
    (proper : place.tree.IsProper) (isDirectory : place.tree.isDirectory = true)
    (isFile : place.tree.HasFile below) :
    below ≠ [] ∧ ∀ name, name ∈ below → Path.IsName name := by
  obtain ⟨content, executable, isFile⟩ := isFile
  refine ⟨?_, (proper.of_below? isFile).2⟩
  rintro rfl
  rw [Option.some.inj isFile] at isDirectory
  cases isDirectory

/-- The files that are found are the first ones, in the order of their paths, of all that
are to be found. -/
theorem firstFiles_eq_take
    {tree : FileTree} {current : List EntryName} (proper : tree.IsProper)
    (located : tree.locate current workspace = .ok place)
    (isDirectory : place.tree.isDirectory = true) :
    ∃ eligible, AreEligible ignored extensions place workspace eligible ∧
      ∀ limit, firstFiles ignored extensions limit tree current workspace =
        eligible.take limit := by
  have somewhere := bytes_ne_nil_of_locate located
  have properPlace : place.tree.IsProper :=
    (proper.of_below? (FileTree.isPlace_of_locate located).below?_names).1
  have named {below : List EntryName} (isFile : place.tree.HasFile below) :=
    names_of_hasFile properPlace isDirectory isFile
  refine ⟨((place.tree.walk (isPruned ignored) place.names).map
    (pathBelow workspace place.names.length)).filter (hasExtension extensions),
    ⟨?_, fun path => ?_⟩, fun limit => ?_⟩
  · apply List.Pairwise.filter
    rw [List.pairwise_map]
    refine (FileTree.pairwise_walk properPlace _ _).imp_of_mem
      fun {first second} member member' before => ?_
    obtain ⟨below, rfl, isFile, _⟩ := (FileTree.mem_walk_iff properPlace).mp member
    obtain ⟨below', rfl, isFile', _⟩ := (FileTree.mem_walk_iff properPlace).mp member'
    obtain ⟨notEmpty, areNames⟩ := named isFile
    obtain ⟨notEmpty', areNames'⟩ := named isFile'
    rw [pathBelow_append _ notEmpty, pathBelow_append _ notEmpty',
      compare_join_pathBytes somewhere notEmpty notEmpty' areNames areNames']
    exact (FileTree.isBefore_append_iff place.names).mp before
  · simp only [List.mem_filter, List.mem_map, FileTree.mem_walk_iff properPlace]
    constructor
    · rintro ⟨⟨_, ⟨below, rfl, isFile, kept⟩, rfl⟩, isOne⟩
      obtain ⟨notEmpty, areNames⟩ := named isFile
      rw [pathBelow_append _ notEmpty, hasExtension_join_iff somewhere notEmpty areNames] at isOne
      obtain ⟨kept, admitted⟩ := (isKept_isPruned_iff isFile).mp kept
      exact ⟨below, ⟨isFile, kept, admitted, isOne⟩, pathBelow_append _ notEmpty⟩
    · rintro ⟨below, ⟨isFile, kept, admitted, isOne⟩, rfl⟩
      obtain ⟨notEmpty, areNames⟩ := named isFile
      refine ⟨⟨_, ⟨below, rfl, isFile, ?_⟩, pathBelow_append _ notEmpty⟩, ?_⟩
      · exact (isKept_isPruned_iff isFile).mpr ⟨kept, admitted⟩
      · exact (hasExtension_join_iff somewhere notEmpty areNames).mpr isOne
  · simp only [firstFiles, located]

end Find

end SourceFiles

end LanguageClient
