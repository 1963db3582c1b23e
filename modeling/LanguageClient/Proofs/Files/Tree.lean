import LanguageClient.FileTree

/-!
# Entries of trees

What putting a file in the place of another changes: the entry at its names, no
other file, and no directory.  Files with different names may be put in either
order.
-/

namespace LanguageClient.FileTree

/-! ## Lists of entries -/

theorem find?_putEntry
    (name other : EntryName) (new : FileTree) (entries : List (EntryName × FileTree)) :
    ((putEntry name new entries).find? fun entry => entry.1 = other).map Prod.snd =
      if other = name then some new
      else (entries.find? fun entry => entry.1 = other).map Prod.snd := by
  induction entries with
  | nil =>
      by_cases same : other = name
      · simp [putEntry, same]
      · simp [putEntry, same, Ne.symm same]
  | cons entry entries inductionHypothesis =>
      by_cases isNamed : entry.1 = name
      · by_cases same : other = name
        · simp [putEntry, isNamed, same]
        · simp [putEntry, isNamed, same, Ne.symm same]
      · by_cases isOther : entry.1 = other
        · have different : other ≠ name := isOther ▸ isNamed
          simp [putEntry, isOther, different]
        · simpa [putEntry, isNamed, isOther] using inductionHypothesis

theorem putEntry_putEntry
    (name : EntryName) (new new' : FileTree) (entries : List (EntryName × FileTree)) :
    putEntry name new (putEntry name new' entries) = putEntry name new entries := by
  induction entries with
  | nil => simp [putEntry]
  | cons entry entries inductionHypothesis =>
      by_cases isNamed : entry.1 = name
      · simp [putEntry, isNamed]
      · simp [putEntry, isNamed, inductionHypothesis]

theorem putEntry_comm
    {name other : EntryName} (different : other ≠ name) (new new' : FileTree)
    {entries : List (EntryName × FileTree)}
    (present : (entries.find? fun entry => entry.1 = name).isSome)
    (present' : (entries.find? fun entry => entry.1 = other).isSome) :
    putEntry other new' (putEntry name new entries) =
      putEntry name new (putEntry other new' entries) := by
  induction entries with
  | nil => simp at present
  | cons entry entries inductionHypothesis =>
      by_cases isNamed : entry.1 = name
      · simp [putEntry, isNamed, Ne.symm different]
      · by_cases isOther : entry.1 = other
        · simp [putEntry, isOther, different]
        · have inRest := inductionHypothesis
            (by simpa [isNamed] using present) (by simpa [isOther] using present')
          simp [putEntry, isNamed, isOther, inRest]

/-! ## Entries below names -/

theorem below?_append
    (first rest : List EntryName) (tree : FileTree) :
    tree.below? (first ++ rest) = (tree.below? first).bind (below? rest) := by
  induction first generalizing tree with
  | nil => rfl
  | cons name first inductionHypothesis =>
      simp only [List.cons_append, below?]
      cases tree.child? name with
      | none => rfl
      | some entry => exact inductionHypothesis entry

theorem below?_singleton (name : EntryName) (tree : FileTree) :
    tree.below? [name] = tree.child? name := by
  simp [below?]

theorem below?_cons_of_entry
    {tree entry : FileTree} {name : EntryName} (found : tree.child? name = some entry)
    (rest : List EntryName) : tree.below? (name :: rest) = entry.below? rest := by
  simp only [below?, found, Option.bind_some]

theorem child?_of_below?_cons
    {tree leaf : FileTree} {name : EntryName} {rest : List EntryName}
    (found : tree.below? (name :: rest) = some leaf) :
    ∃ entry, tree.child? name = some entry ∧ entry.below? rest = some leaf :=
  Option.bind_eq_some_iff.mp found

theorem isDirectory_of_child?
    {tree entry : FileTree} {name : EntryName} (found : tree.child? name = some entry) :
    tree.isDirectory = true := by
  cases tree with
  | directory entries => rfl
  | file content executable => simp [child?, entries] at found
  | program => simp [child?, entries] at found

theorem isSome_find?_of_child?
    {tree entry : FileTree} {name : EntryName} (found : tree.child? name = some entry) :
    (tree.entries.find? fun entry => entry.1 = name).isSome := by
  obtain ⟨_, isFound, _⟩ := Option.map_eq_some_iff.mp found
  exact isFound ▸ rfl

/-- Below a file there is nothing. -/
theorem eq_nil_of_below?
    {tree entry : FileTree} {names : List EntryName} (isFile : tree.isDirectory = false)
    (found : tree.below? names = some entry) : names = [] ∧ tree = entry := by
  cases names with
  | nil => exact ⟨rfl, Option.some.inj found⟩
  | cons name rest =>
      obtain ⟨child, isEntry, _⟩ := child?_of_below?_cons found
      rw [isDirectory_of_child? isEntry] at isFile
      cases isFile

/-! ## Insertion -/

theorem insert_cons
    (name : EntryName) (rest : List EntryName) (tree new : FileTree) :
    tree.insert (name :: rest) new =
      .directory
        (putEntry name (((tree.child? name).getD empty).insert rest new) tree.entries) :=
  rfl

theorem child?_insert
    (name other : EntryName) (rest : List EntryName) (tree new : FileTree) :
    (tree.insert (name :: rest) new).child? other =
      if other = name then some (((tree.child? name).getD empty).insert rest new)
      else tree.child? other :=
  find?_putEntry name other _ tree.entries

theorem below?_insert
    (names : List EntryName) (tree new : FileTree) :
    (tree.insert names new).below? names = some new := by
  induction names generalizing tree with
  | nil => rfl
  | cons name rest inductionHypothesis =>
      have found : (tree.insert (name :: rest) new).child? name =
          some (((tree.child? name).getD empty).insert rest new) := by
        rw [child?_insert, if_pos rfl]
      exact (below?_cons_of_entry found rest).trans (inductionHypothesis _)

/-- A file that is put in the place of another leaves all other files alone. -/
theorem below?_insert_of_ne
    {names other : List EntryName} {tree leaf leaf' : FileTree} (new : FileTree)
    (found : tree.below? names = some leaf) (isFile : leaf.isDirectory = false)
    (found' : tree.below? other = some leaf') (isFile' : leaf'.isDirectory = false)
    (different : other ≠ names) : (tree.insert names new).below? other = some leaf' := by
  induction names generalizing tree other with
  | nil =>
      injection found with same
      exact absurd (eq_nil_of_below? (same ▸ isFile) found').1 different
  | cons name rest inductionHypothesis =>
      cases other with
      | nil =>
          injection found' with same
          exact nomatch (eq_nil_of_below? (same ▸ isFile') found).1
      | cons name' rest' =>
          obtain ⟨child, isEntry, below⟩ := child?_of_below?_cons found
          obtain ⟨child', isEntry', below'⟩ := child?_of_below?_cons found'
          have inserted := child?_insert name name' rest tree new
          by_cases sameName : name' = name
          · subst sameName
            rw [if_pos rfl, isEntry, Option.getD_some] at inserted
            rw [below?_cons_of_entry inserted]
            obtain rfl : child = child' := Option.some.inj (isEntry.symm.trans isEntry')
            exact inductionHypothesis below below' fun sameRest => different (sameRest ▸ rfl)
          · rw [if_neg sameName, isEntry'] at inserted
            rw [below?_cons_of_entry inserted, below']

theorem insert_comm
    {names other : List EntryName} {tree leaf leaf' : FileTree} (new new' : FileTree)
    (found : tree.below? names = some leaf) (isFile : leaf.isDirectory = false)
    (found' : tree.below? other = some leaf') (isFile' : leaf'.isDirectory = false)
    (different : other ≠ names) :
    (tree.insert names new).insert other new' = (tree.insert other new').insert names new := by
  induction names generalizing tree other with
  | nil =>
      injection found with same
      exact absurd (eq_nil_of_below? (same ▸ isFile) found').1 different
  | cons name rest inductionHypothesis =>
      cases other with
      | nil =>
          injection found' with same
          exact nomatch (eq_nil_of_below? (same ▸ isFile') found).1
      | cons name' rest' =>
          obtain ⟨child, isEntry, below⟩ := child?_of_below?_cons found
          obtain ⟨child', isEntry', below'⟩ := child?_of_below?_cons found'
          rw [insert_cons name' rest', child?_insert, insert_cons name rest (tree.insert _ _),
            child?_insert]
          by_cases sameName : name' = name
          · subst sameName
            obtain rfl : child = child' := Option.some.inj (isEntry.symm.trans isEntry')
            have inChild := inductionHypothesis below below' fun sameRest =>
              different (sameRest ▸ rfl)
            simp only [if_pos, isEntry, Option.getD_some, inChild, insert_cons, entries,
              putEntry_putEntry]
          · rw [if_neg sameName, if_neg (Ne.symm sameName)]
            exact congrArg directory
              (putEntry_comm sameName _ _ (isSome_find?_of_child? isEntry)
                (isSome_find?_of_child? isEntry'))

/-! ## Trees of one shape -/

/-- Whether two trees have the same directories, with files of the same names in
them. -/
def SameShape (tree tree' : FileTree) : Prop :=
  ∀ names, (tree.below? names).map isDirectory = (tree'.below? names).map isDirectory

theorem SameShape.refl (tree : FileTree) : SameShape tree tree :=
  fun _ => rfl

theorem SameShape.trans
    {tree tree' tree'' : FileTree} (first : SameShape tree tree')
    (second : SameShape tree' tree'') : SameShape tree tree'' :=
  fun names => (first names).trans (second names)

theorem SameShape.symm {tree tree' : FileTree} (same : SameShape tree tree') :
    SameShape tree' tree :=
  fun names => (same names).symm

theorem sameShape_insert
    {names : List EntryName} {tree leaf new : FileTree} (found : tree.below? names = some leaf)
    (isFile : leaf.isDirectory = false) (isFile' : new.isDirectory = false) :
    SameShape tree (tree.insert names new) := by
  intro other
  induction names generalizing tree other with
  | nil =>
      injection found with same
      subst same
      cases other with
      | nil => exact congrArg some (isFile.trans isFile'.symm)
      | cons name rest =>
          have nothing {file : FileTree} (isFile : file.isDirectory = false) :
              file.below? (name :: rest) = none := by
            cases below : file.below? (name :: rest) with
            | none => rfl
            | some entry => exact nomatch (eq_nil_of_below? isFile below).1
          rw [nothing isFile, insert, nothing isFile']
  | cons name rest inductionHypothesis =>
      obtain ⟨child, isEntry, below⟩ := child?_of_below?_cons found
      cases other with
      | nil => exact congrArg some (isDirectory_of_child? isEntry)
      | cons name' rest' =>
          have inserted := child?_insert name name' rest tree new
          by_cases sameName : name' = name
          · subst sameName
            rw [if_pos rfl, isEntry, Option.getD_some] at inserted
            rw [below?_cons_of_entry inserted, below?_cons_of_entry isEntry]
            exact inductionHypothesis below rest'
          · rw [if_neg sameName] at inserted
            simp only [below?, inserted]

end LanguageClient.FileTree
