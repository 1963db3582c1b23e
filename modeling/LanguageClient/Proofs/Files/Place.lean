import LanguageClient.Executable
import LanguageClient.Proofs.Files.Tree

/-!
# Files and their paths

Where a path leads depends on the directories of a tree alone.  So writing the file
at a path changes what is read at the paths of this file and nowhere else, and
files at different places may be written in either order.
-/

namespace LanguageClient.FileTree

/-! ## Places of a tree -/

/-- The places of a tree: its root, and the entries of the directories at its
places. -/
inductive IsPlace (root : FileTree) : Place → Prop
  | root : IsPlace root root.rootPlace
  | entry {parent entry : FileTree} {above : List (EntryName × FileTree)} {name : EntryName} :
      IsPlace root ⟨parent, above⟩ →
      parent.child? name = some entry →
      IsPlace root ⟨entry, (name, parent) :: above⟩

theorem Place.names_cons
    (entry parent : FileTree) (name : EntryName) (above : List (EntryName × FileTree)) :
    Place.names ⟨entry, (name, parent) :: above⟩ = Place.names ⟨parent, above⟩ ++ [name] := by
  simp [Place.names]

/-- The names of a place lead to what is there. -/
theorem IsPlace.below?_names
    {root : FileTree} {place : Place} (isPlace : IsPlace root place) :
    root.below? place.names = some place.tree := by
  induction isPlace with
  | root => rfl
  | entry _ found inductionHypothesis =>
      rw [Place.names_cons, below?_append, inductionHypothesis, Option.bind_some,
        below?_cons_of_entry found, below?]

theorem IsPlace.step
    {root : FileTree} {place next : Place} {piece : List UInt8} (isPlace : IsPlace root place)
    (stepped : place.step piece = .ok next) : IsPlace root next := by
  unfold Place.step at stepped
  split at stepped
  · split at stepped
    · injection stepped with same
      exact same ▸ isPlace
    · split at stepped
      · split at stepped
        · injection stepped with same
          exact same ▸ isPlace
        · rename_i name parent above isAbove
          injection stepped with same
          subst same
          cases isPlace with
          | root => cases isAbove
          | entry isParent found =>
              injection isAbove with sameHead sameTail
              injection sameHead with sameName sameParent
              subst sameParent sameTail
              exact isParent
      · split at stepped
        · cases stepped
        · split at stepped
          · rename_i entry found
            injection stepped with same
            exact same ▸ isPlace.entry found
          · cases stepped
  · cases stepped

theorem IsPlace.follow
    {root : FileTree} {place last : Place} {pieces : List (List UInt8)}
    (isPlace : IsPlace root place) (followed : place.follow pieces = .ok last) :
    IsPlace root last := by
  induction pieces generalizing place with
  | nil =>
      injection followed with same
      exact same ▸ isPlace
  | cons piece pieces inductionHypothesis =>
      simp only [Place.follow, List.foldlM_cons] at followed
      cases stepped : place.step piece with
      | error error =>
          rw [stepped] at followed
          cases followed
      | ok next =>
          rw [stepped] at followed
          exact inductionHypothesis (isPlace.step stepped) followed

theorem isPlace_of_locate
    {tree : FileTree} {current : List EntryName} {path : Path} {place : Place}
    (located : tree.locate current path = .ok place) : IsPlace tree place := by
  unfold locate at located
  split at located
  · cases located
  · split at located
    · cases located
    · split at located
      · cases located
      · split at located
        · exact IsPlace.root.follow located
        · cases started : tree.rootPlace.follow current with
          | error error =>
              rw [started] at located
              cases located
          | ok start =>
              rw [started] at located
              exact (IsPlace.root.follow started).follow located

/-! ## Trees of one shape -/

theorem Place.step_of_file
    {place : Place} (isFile : place.tree.isDirectory = false) (piece : List UInt8) :
    place.step piece = .error .notDirectory := by
  obtain ⟨tree, above⟩ := place
  cases tree with
  | directory entries => cases isFile
  | file content executable => rfl
  | program => rfl

/-- Whether a step fails, and what it adds to the names or takes from them, is a matter
of what there is at the names. -/
theorem Place.map_names_step
    {place : Place} (isDirectory : place.tree.isDirectory = true) (piece : List UInt8) :
    (place.step piece).map Place.names =
      if piece = [] || piece = [Path.dot] then .ok place.names
      else if piece = [Path.dot, Path.dot] then .ok place.names.dropLast
      else if greatestName < piece.length then .error .nameTooLong
      else if (place.tree.child? piece).isSome then .ok (place.names ++ [piece])
      else .error .notFound := by
  obtain ⟨tree, above⟩ := place
  cases tree with
  | file content executable => cases isDirectory
  | program => cases isDirectory
  | directory entries =>
      unfold Place.step
      by_cases stays : (piece = [] || piece = [Path.dot]) = true
      · simp only [if_pos stays]
        rfl
      · by_cases leaves : piece = [Path.dot, Path.dot]
        · simp only [if_neg stays, if_pos leaves]
          cases above with
          | nil => rfl
          | cons entry above =>
              obtain ⟨name, parent⟩ := entry
              rw [Place.names_cons, List.dropLast_concat]
              rfl
        · by_cases isLong : greatestName < piece.length
          · simp only [if_neg stays, if_neg leaves, if_pos isLong]
            rfl
          · simp only [if_neg stays, if_neg leaves, if_neg isLong]
            cases found : (directory entries).child? piece with
            | none => rfl
            | some entry => exact congrArg Except.ok (Place.names_cons entry _ piece above)

section Shape

variable {root root' : FileTree} {place place' : Place}

/-- In trees of one shape a step leads from the same names to the same names. -/
theorem Place.step_of_sameShape
    (shape : SameShape root root') (isPlace : IsPlace root place)
    (isPlace' : IsPlace root' place') (sameNames : place.names = place'.names)
    (piece : List UInt8) :
    (place.step piece).map Place.names = (place'.step piece).map Place.names := by
  have kind (rest : List EntryName) :
      (place.tree.below? rest).map isDirectory = (place'.tree.below? rest).map isDirectory := by
    have same := shape (place.names ++ rest)
    rw [below?_append, isPlace.below?_names, sameNames, below?_append, isPlace'.below?_names]
      at same
    exact same
  have sameKind : place.tree.isDirectory = place'.tree.isDirectory := Option.some.inj (kind [])
  cases isDirectory : place.tree.isDirectory with
  | false => rw [step_of_file isDirectory, step_of_file (sameKind.symm.trans isDirectory)]
  | true =>
      have sameEntry : (place.tree.child? piece).isSome = (place'.tree.child? piece).isSome := by
        rw [← below?_singleton, ← below?_singleton, ← Option.isSome_map, kind, Option.isSome_map]
      rw [map_names_step isDirectory, map_names_step (sameKind.symm.trans isDirectory), sameNames,
        sameEntry]

/-- Two ways that come to the same names, if they come anywhere, go on to the same
names. -/
theorem Place.map_names_bind
    {first first' : Except FileError Place} {next next' : Place → Except FileError Place}
    (sameFirst : first.map Place.names = first'.map Place.names)
    (sameNext : ∀ place place', first = .ok place → first' = .ok place' →
      place.names = place'.names → (next place).map Place.names = (next' place').map Place.names) :
    (first.bind next).map Place.names = (first'.bind next').map Place.names := by
  cases first with
  | error error =>
      cases first' with
      | error error' =>
          injection sameFirst with sameError
          exact congrArg Except.error sameError
      | ok place' => cases sameFirst
  | ok place =>
      cases first' with
      | error error' => cases sameFirst
      | ok place' =>
          injection sameFirst with sameNames
          exact sameNext place place' rfl rfl sameNames

theorem Place.follow_of_sameShape
    (shape : SameShape root root') (isPlace : IsPlace root place)
    (isPlace' : IsPlace root' place') (sameNames : place.names = place'.names)
    (pieces : List (List UInt8)) :
    (place.follow pieces).map Place.names = (place'.follow pieces).map Place.names := by
  induction pieces generalizing place place' with
  | nil => exact congrArg Except.ok sameNames
  | cons piece pieces inductionHypothesis =>
      have sameStep := step_of_sameShape shape isPlace isPlace' sameNames piece
      exact map_names_bind sameStep fun next next' stepped stepped' sameNext =>
        inductionHypothesis (isPlace.step stepped) (isPlace'.step stepped') sameNext

/-- In trees of one shape a path leads to the same names. -/
theorem map_names_locate_of_sameShape
    (shape : SameShape root root') (current : List EntryName) (path : Path) :
    (root.locate current path).map Place.names = (root'.locate current path).map Place.names := by
  have followed := Place.follow_of_sameShape shape .root .root rfl
  unfold locate
  split
  · rfl
  · split
    · rfl
    · split
      · rfl
      · split
        · exact followed _
        · exact Place.map_names_bind (followed current) fun start start' started started' sameNames =>
            Place.follow_of_sameShape shape (IsPlace.root.follow started)
              (IsPlace.root.follow started') sameNames path.pieces

end Shape

/-! ## Files at places -/

def names? (tree : FileTree) (current : List EntryName) (path : Path) : Option (List EntryName) :=
  (tree.locate current path).toOption.map Place.names

def HoldsFile (tree : FileTree) (current : List EntryName) (path : Path)
    (names : List EntryName) : Prop :=
  ∃ place, tree.locate current path = .ok place ∧ place.names = names ∧
    place.tree.isDirectory = false

theorem names?_of_sameShape
    {root root' : FileTree} (shape : SameShape root root') (current : List EntryName)
    (path : Path) : root.names? current path = root'.names? current path := by
  have toOption (tree : FileTree) : tree.names? current path =
      ((tree.locate current path).map Place.names).toOption := by
    unfold names?
    cases tree.locate current path <;> rfl
  rw [toOption, toOption, map_names_locate_of_sameShape shape]

section Files

variable {tree root' : FileTree} {current current' : List EntryName} {path path' : Path}
  {names names' : List EntryName}

theorem HoldsFile.names? (holds : tree.HoldsFile current path names) :
    tree.names? current path = some names := by
  obtain ⟨place, located, isNamed, _⟩ := holds
  simp only [FileTree.names?, located, Except.toOption, Option.map_some, isNamed]

theorem HoldsFile.below? (holds : tree.HoldsFile current path names) :
    ∃ leaf, tree.below? names = some leaf ∧ leaf.isDirectory = false := by
  obtain ⟨place, located, rfl, isFile⟩ := holds
  exact ⟨place.tree, (isPlace_of_locate located).below?_names, isFile⟩

theorem HoldsFile.of_sameShape
    (holds : tree.HoldsFile current path names) (shape : SameShape tree root') :
    root'.HoldsFile current path names := by
  obtain ⟨leaf, below, isFile⟩ := holds.below?
  obtain ⟨place, located, rfl, _⟩ := holds
  have sameNames := map_names_locate_of_sameShape shape current path
  rw [located] at sameNames
  cases located' : root'.locate current path with
  | error error =>
      rw [located'] at sameNames
      cases sameNames
  | ok place' =>
      rw [located'] at sameNames
      injection sameNames with sameNames
      refine ⟨place', located', sameNames.symm, ?_⟩
      have kind := shape place.names
      rw [below, sameNames, (isPlace_of_locate located').below?_names] at kind
      exact (Option.some.inj kind).symm.trans isFile

/-- Only what is at its names counts for a file that is read. -/
theorem HoldsFile.readText_congr
    (holds : tree.HoldsFile current path names) (holds' : root'.HoldsFile current path names)
    (same : root'.below? names = tree.below? names) :
    root'.readText current path = tree.readText current path := by
  obtain ⟨place, located, rfl, _⟩ := holds
  obtain ⟨place', located', sameNames, _⟩ := holds'
  have sameTree : place'.tree = place.tree := by
    rw [← sameNames, (isPlace_of_locate located').below?_names, sameNames,
      (isPlace_of_locate located).below?_names] at same
    exact Option.some.inj same
  simp only [readText, read, located, located', sameTree]

theorem holdsFile_of_readText
    {text : String} (read : tree.readText current path = .ok text) :
    ∃ names, tree.HoldsFile current path names := by
  cases located : tree.locate current path with
  | error error => simp only [readText, FileTree.read, located, reduceCtorEq] at read
  | ok place =>
      refine ⟨place.names, place, located, rfl, ?_⟩
      cases isDirectory : place.tree with
      | file content executable => rfl
      | program => rfl
      | directory entries =>
          simp only [readText, FileTree.read, located, isDirectory, reduceCtorEq] at read

/-! ## Writing -/

/-- What is put in the place of an entry to give it a text. -/
def withText (text : String) (entry : FileTree) : FileTree :=
  .file (Text.Utf8.encode text) entry.isExecutable

theorem replacement_eq
    (holds : tree.HoldsFile current path names) {leaf : FileTree}
    (below : tree.below? names = some leaf) :
    tree.replacement current path = .ok (names, leaf.isExecutable) := by
  obtain ⟨place, located, rfl, isFile⟩ := holds
  obtain rfl : place.tree = leaf :=
    Option.some.inj ((isPlace_of_locate located).below?_names.symm.trans below)
  unfold replacement
  rw [located]
  cases isLeaf : place.tree with
  | file content executable => simp only [isLeaf]; rfl
  | program => simp only [isLeaf]; rfl
  | directory entries =>
      rw [isLeaf] at isFile
      cases isFile

theorem replace_eq_insert
    (holds : tree.HoldsFile current path names) {leaf : FileTree}
    (below : tree.below? names = some leaf) (text : String) :
    tree.replace none current path text = .ok (tree.insert names (leaf.withText text)) := by
  unfold replace
  rw [replacement_eq holds below]
  rfl

/-- Replaces a file that is there, with all the room it needs. -/
def write (tree : FileTree) (current : List EntryName) (path : Path) (text : String) : FileTree :=
  (tree.replace none current path text).toOption.getD tree

theorem write_eq_insert
    (holds : tree.HoldsFile current path names) {leaf : FileTree}
    (below : tree.below? names = some leaf) (text : String) :
    tree.write current path text = tree.insert names (leaf.withText text) := by
  unfold write
  rw [replace_eq_insert holds below]
  rfl

/-- A file that is there can be replaced if there is room. -/
theorem HoldsFile.replace_eq_ok (holds : tree.HoldsFile current path names) (text : String) :
    tree.replace none current path text = .ok (tree.write current path text) := by
  obtain ⟨leaf, below, _⟩ := holds.below?
  rw [write_eq_insert holds below, replace_eq_insert holds below]

/-- The room counts for whether a file is replaced only. -/
theorem eq_write_of_replace
    {room : Option Nat} {after : FileTree} {text : String}
    (replaced : tree.replace room current path text = .ok after) :
    after = tree.write current path text := by
  unfold write
  unfold replace at replaced ⊢
  cases found : tree.replacement current path with
  | error error =>
      rw [found] at replaced
      cases replaced
  | ok replacement =>
      simp only [found] at replaced
      split at replaced
      · cases replaced
      · injection replaced with same
        exact same.symm

/-- Writing a file changes no directory. -/
theorem HoldsFile.sameShape_write
    (holds : tree.HoldsFile current path names) (text : String) :
    SameShape tree (tree.write current path text) := by
  obtain ⟨leaf, below, isFile⟩ := holds.below?
  rw [write_eq_insert holds below]
  exact sameShape_insert below isFile rfl

/-- What is at the names of a file is what is read. -/
theorem HoldsFile.read_of_below?
    (holds : tree.HoldsFile current path names) {content : List UInt8} {executable : Bool}
    (below : tree.below? names = some (.file content executable)) :
    tree.read current path = .ok content := by
  obtain ⟨place, located, rfl, _⟩ := holds
  rw [(isPlace_of_locate located).below?_names] at below
  simp only [read, located, Option.some.inj below]

/-- The text that is written is at the names of the file. -/
theorem HoldsFile.below?_write (holds : tree.HoldsFile current path names) (text : String) :
    ∃ executable, (tree.write current path text).below? names =
      some (.file (Text.Utf8.encode text) executable) := by
  obtain ⟨leaf, below, _⟩ := holds.below?
  rw [write_eq_insert holds below]
  exact ⟨leaf.isExecutable, below?_insert names tree _⟩

theorem HoldsFile.below?_write_of_ne
    (holds : tree.HoldsFile current path names) {leaf : FileTree}
    (found : tree.below? names' = some leaf) (isFile : leaf.isDirectory = false)
    (different : names' ≠ names) (text : String) :
    (tree.write current path text).below? names' = some leaf := by
  obtain ⟨written, below, isFile'⟩ := holds.below?
  rw [write_eq_insert holds below]
  exact below?_insert_of_ne _ below isFile' found isFile different

/-- Writing a file leaves the text of all others. -/
theorem HoldsFile.readText_write_of_ne
    (holds : tree.HoldsFile current path names) (holds' : tree.HoldsFile current' path' names')
    (different : names' ≠ names) (text : String) :
    (tree.write current path text).readText current' path' = tree.readText current' path' := by
  have afterwards := holds'.of_sameShape (holds.sameShape_write text)
  obtain ⟨leaf', below', isFile'⟩ := holds'.below?
  apply holds'.readText_congr afterwards
  rw [below', holds.below?_write_of_ne below' isFile' different]

/-- Different files may be written in either order. -/
theorem HoldsFile.write_comm
    (holds : tree.HoldsFile current path names) (holds' : tree.HoldsFile current' path' names')
    (different : names' ≠ names) (text text' : String) :
    (tree.write current path text).write current' path' text' =
      (tree.write current' path' text').write current path text := by
  have afterwards := holds.of_sameShape (holds'.sameShape_write text')
  have afterwards' := holds'.of_sameShape (holds.sameShape_write text)
  obtain ⟨leaf, below, isFile⟩ := holds.below?
  obtain ⟨leaf', below', isFile'⟩ := holds'.below?
  have kept := below?_insert_of_ne (leaf.withText text) below isFile below' isFile' different
  have kept' := below?_insert_of_ne (leaf'.withText text') below' isFile' below isFile
    (Ne.symm different)
  rw [write_eq_insert holds below] at afterwards' ⊢
  rw [write_eq_insert holds' below'] at afterwards ⊢
  rw [write_eq_insert afterwards' kept, write_eq_insert afterwards kept']
  exact insert_comm _ _ below isFile below' isFile' different

end Files

end LanguageClient.FileTree
