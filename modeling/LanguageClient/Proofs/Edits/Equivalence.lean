import LanguageClient.Proofs.Diagnostics.Form
import LanguageClient.Proofs.Edits.Outcome

/-!
# Two forms of one edit

The edits of documents are given by URI, or as a list of document changes in any order.  Both
come to the same edits of each file if the URIs name different files, so they have the same
outcome and leave the same files, whatever the file system does.
-/

namespace LanguageClient

/-! ## How edits are told -/

structure TextEdit.Tells (value : Json) (edit : TextEdit) : Prop where
  isRecord : value.IsRecord 2
  range : ∃ part, value.part? "range" 0 = some part ∧ Range.Tells part edit.range
  newText : value.part? "newText" 1 = some (.string edit.newText)

theorem TextEdit.decode_eq_ok_iff {value : Json} {edit : TextEdit} (ordered : value.isOrdered) :
    decode value = .ok edit ↔ Tells value edit := by
  simp only [decode, Json.decodeRecord2_eq_ok_iff ordered, Json.Field.name_required,
    Json.Field.holds_required_part_iff Range.decode_eq_ok_iff ordered,
    Json.Field.holds_required_string_iff]
  constructor
  · rintro ⟨isRecord, range, newText, isRange, isText, rfl⟩
    exact ⟨isRecord, isRange, isText⟩
  · rintro ⟨isRecord, isRange, isText⟩
    exact ⟨isRecord, _, _, isRange, isText, rfl⟩

namespace DocumentEdits

/-- A document is told by its URI; a version may stand beside it. -/
structure Names (value : Json) (uri : String) : Prop where
  isRecord : value.IsRecord 1
  uri : value.part? "uri" 0 = some (.string uri)

theorem decodeDocument_eq_ok_iff {value : Json} {uri : String} (ordered : value.isOrdered) :
    Json.decodeRecord1 "VersionedDocument" (.required "uri" Json.decodeString) id value =
        .ok uri ↔
      Names value uri := by
  simp only [Json.decodeRecord1_eq_ok_iff ordered, Json.Field.name_required,
    Json.Field.holds_required_string_iff, id, exists_eq_right]
  exact ⟨fun ⟨isRecord, isUri⟩ => ⟨isRecord, isUri⟩, fun ⟨isRecord, isUri⟩ => ⟨isRecord, isUri⟩⟩

structure Tells (value : Json) (document : DocumentEdits) : Prop where
  isRecord : value.IsRecord 2
  textDocument : ∃ part, value.part? "textDocument" 0 = some part ∧ Names part document.uri
  edits : ∃ items, value.part? "edits" 1 = some (.array items) ∧
    List.Forall₂ TextEdit.Tells items document.edits

theorem decode_eq_ok_iff
    {value : Json} {document : DocumentEdits} (ordered : value.isOrdered) :
    decode value = .ok document ↔ Tells value document := by
  simp only [decode, Json.decodeRecord2_eq_ok_iff ordered, Json.Field.name_required,
    Json.Field.holds_required_part_iff decodeDocument_eq_ok_iff ordered,
    Json.Field.holds_required_list_iff TextEdit.decode_eq_ok_iff ordered]
  constructor
  · rintro ⟨isRecord, uri, edits, isDocument, areEdits, rfl⟩
    exact ⟨isRecord, isDocument, areEdits⟩
  · rintro ⟨isRecord, isDocument, areEdits⟩
    exact ⟨isRecord, _, _, isDocument, areEdits, rfl⟩

end DocumentEdits

namespace WorkspaceEdit

/-! ## Lists of documents -/

/-- Whether a document change lists edits under a URI: it tells them, and has no kind, which
would make it an operation on a file. -/
structure Lists (change : Json) (entry : String × List TextEdit) : Prop where
  ordered : change.isOrdered
  noKind : (change.member? "kind").bind Json.string? = none
  tells : DocumentEdits.Tells change ⟨entry.1, entry.2⟩

/-- Whether document changes list the edits that are given by URI, in some order. -/
def IsListing (entries : List (String × List TextEdit)) (changes : List Json) : Prop :=
  ∃ order, order.Perm entries ∧ List.Forall₂ Lists changes order

theorem lists_iff {change : Json} {entry : String × List TextEdit} (ordered : change.isOrdered) :
    Lists change entry ↔ ofDocumentChange change = .ok ⟨entry.1, entry.2⟩ := by
  unfold ofDocumentChange
  constructor
  · rintro ⟨_, noKind, tells⟩
    rw [noKind]
    dsimp only
    rw [(DocumentEdits.decode_eq_ok_iff ordered).mpr tells]
  · intro read
    split at read
    · cases read
    · rename_i noKind
      split at read
      · rename_i document reads
        cases read
        exact ⟨ordered, noKind, (DocumentEdits.decode_eq_ok_iff ordered).mp reads⟩
      · cases read

theorem map_ofDocumentChange_of_lists
    {changes : List Json} {order : List (String × List TextEdit)}
    (lists : List.Forall₂ Lists changes order) :
    changes.map ofDocumentChange = order.map fun entry => .ok ⟨entry.1, entry.2⟩ := by
  induction lists with
  | nil => rfl
  | cons first _ inductionHypothesis =>
      rw [List.map_cons, List.map_cons, inductionHypothesis, (lists_iff first.ordered).mp first]

/-- The documents of a listing are those that are given by URI. -/
theorem IsListing.documents_perm
    {entries : List (String × List TextEdit)} {changes : List Json}
    (isListing : IsListing entries changes) (other : Option (List (String × List TextEdit))) :
    (documents ⟨other, some changes⟩).Perm (documents ⟨some entries, none⟩) := by
  obtain ⟨order, permuted, lists⟩ := isListing
  simp only [documents, map_ofDocumentChange_of_lists lists]
  exact permuted.map _

/-! ## Different files -/

def AreDistinct (files : List (Path × List TextEdit)) : Prop :=
  files.Pairwise fun file later => file.1.components ≠ later.1.components

theorem FileEdits.add_perm
    {files : FileEdits} {path : Path} (isNew : ∀ file, file ∈ files →
      path.components ≠ file.1.components) (edits : List TextEdit) :
    (files.add path edits).Perm ((path, edits) :: files) := by
  induction files with
  | nil => exact .refl _
  | cons first files inductionHypothesis =>
      obtain ⟨path', edits'⟩ := first
      obtain ⟨different, isNew⟩ := List.forall_mem_cons.mp isNew
      rw [add]
      cases compared : path.compare path' with
      | lt => exact .refl _
      | eq => exact absurd (Path.compare_eq_eq_iff.mp compared) different
      | gt => exact ((inductionHypothesis isNew).cons _).trans (.swap _ _ _)

/-- Files that are named once each are grouped by being put in order. -/
theorem grouped_perm {entries : List (Path × List TextEdit)} (distinct : AreDistinct entries) :
    (grouped entries).Perm entries := by
  induction entries using List.reverseRecOn with
  | nil => exact .refl _
  | append_singleton entries entry inductionHypothesis =>
      obtain ⟨distinct, _, different⟩ := List.pairwise_append.mp distinct
      have sameFiles := inductionHypothesis distinct
      rw [grouped_concat]
      refine (FileEdits.add_perm (fun file member => ?_) entry.2).trans ?_
      · exact Ne.symm (different file (sameFiles.mem_iff.mp member) entry
          (List.mem_singleton.mpr rfl))
      · exact (sameFiles.cons entry).trans (List.perm_append_singleton entry entries).symm

/-- The order in which different files are named plays no part. -/
theorem grouped_eq_of_perm
    {entries entries' : List (Path × List TextEdit)} (permuted : entries'.Perm entries)
    (distinct : AreDistinct entries) :
    grouped entries' = grouped entries := by
  have distinct' : AreDistinct entries' :=
    (permuted.pairwise_iff fun different => Ne.symm different).mpr distinct
  refine List.Perm.eq_of_pairwise (fun file file' _ _ less greater => ?_)
    (inOrder_grouped entries') (inOrder_grouped entries)
    ((grouped_perm distinct').trans (permuted.trans (grouped_perm distinct).symm))
  rw [Std.OrientedCmp.gt_iff_lt.mpr less] at greater
  cases greater

/-! ## Any file system -/

/-- What an edit needs of a file system, whose states and errors of reading and writing are of
some types.  A text that cannot be replaced may leave anything behind. -/
structure FileSystem (σ ε ω : Type) where
  readText : σ → Path → Except ε String
  replace : σ → Path → String → Except ω Unit × σ

/-- Why an edit is not applied in a file system. -/
inductive Failure (ε ω : Type) where
  | refused (error : EditError)
  | unreadable (path : Path) (error : ε)
  | unwritable (path : Path) (error : ω)

section AnySystem

variable {σ ε ω : Type}

def editFileIn (system : FileSystem σ ε ω) (state : σ) (file : Path × List TextEdit) :
    Except (Failure ε ω) (Path × String) :=
  match system.readText state file.1 with
  | .error error => .error (.unreadable file.1 error)
  | .ok text =>
      match Document.applyEdits text.toList file.2 with
      | some edited => .ok (file.1, String.ofList edited)
      | none => .error (.refused (.overlapping file.1))

/-- Replaces files of the system one after the other, up to the first that cannot be. -/
def replaceAll (system : FileSystem σ ε ω) :
    List (Path × String) → σ → Except (Failure ε ω) Unit × σ
  | [], state => (.ok (), state)
  | (path, text) :: files, state =>
      match system.replace state path text with
      | (.ok (), state) => replaceAll system files state
      | (.error error, state) => (.error (.unwritable path error), state)

/-- Applies an edit to the files of the system: the outcome and the state afterwards. -/
def applyIn (system : FileSystem σ ε ω) (edit : WorkspaceEdit) (state : σ) :
    Except (Failure ε ω) Nat × σ :=
  match edit.byFile with
  | .error error => (.error (.refused error), state)
  | .ok files =>
      match files.mapM (editFileIn system state) with
      | .error error => (.error error, state)
      | .ok edited =>
          let (outcome, state) := replaceAll system edited state
          (outcome.map fun _ => edited.length, state)

end AnySystem

def treeSystem : FileSystem FileTree FileError FileError where
  readText tree path := tree.readText [] path
  replace tree path text :=
    match tree.replace none [] path text with
    | .ok after => (.ok (), after)
    | .error error => (.error error, tree)

def Failure.toEditError : Failure FileError FileError → EditError
  | .refused error => error
  | .unreadable path error => .unreadable path error
  | .unwritable path error => .unwritable path error

theorem editFile_eq (tree : FileTree) (file : Path × List TextEdit) :
    editFile tree file.1 file.2 =
      (editFileIn treeSystem tree file).mapError Failure.toEditError := by
  have read : treeSystem.readText tree file.1 = tree.readText [] file.1 := rfl
  unfold editFileIn editFile
  rw [read]
  cases tree.readText [] file.1 with
  | error error => rfl
  | ok text =>
      dsimp only
      cases Document.applyEdits text.toList file.2 <;> rfl

theorem replaceFiles_eq (files : List (Path × String)) (tree : FileTree) :
    replaceFiles files tree =
      ((replaceAll treeSystem files tree).1.mapError Failure.toEditError,
        (replaceAll treeSystem files tree).2) := by
  induction files generalizing tree with
  | nil => rfl
  | cons file files inductionHypothesis =>
      simp only [replaceFiles, replaceAll, treeSystem]
      cases tree.replace none [] file.1 file.2 with
      | error error => rfl
      | ok after => exact inductionHypothesis after

/-- An edit is applied to a tree as it is in any file system. -/
theorem apply_eq_applyIn (edit : WorkspaceEdit) (tree : FileTree) :
    edit.apply tree =
      ((applyIn treeSystem edit tree).1.mapError Failure.toEditError,
        (applyIn treeSystem edit tree).2) := by
  unfold applyIn apply
  cases edit.byFile with
  | error error => rfl
  | ok files =>
      dsimp only
      rw [mapM_eq_mapError (editFile_eq tree)]
      cases files.mapM (editFileIn treeSystem tree) with
      | error error => rfl
      | ok edited =>
          simp only [Except.mapError, replaceFiles_eq]
          cases (replaceAll treeSystem edited tree).1 <;> rfl

/-! ## Both forms -/

structure NameDifferentFiles (entries : List (String × List TextEdit)) : Prop where
  named : ∀ entry, entry ∈ entries → ∃ path, FileUri.toPath? entry.1 = some path
  different : entries.Pairwise fun entry later =>
    ∀ path path', FileUri.toPath? entry.1 = some path → FileUri.toPath? later.1 = some path' →
      path.components ≠ path'.components

/-- Whether an edit is refused for a URI of the entries that names no file, whatever the files
are, and changes nothing. -/
def IsRefusedForUri (entries : List (String × List TextEdit)) (edit : WorkspaceEdit) : Prop :=
  ∃ entry, entry ∈ entries ∧ FileUri.toPath? entry.1 = none ∧
    (∀ tree, edit.apply tree = (.error (.invalidUri entry.1), tree)) ∧
    ∀ (σ ε ω : Type) (system : FileSystem σ ε ω) (state : σ),
      applyIn system edit state = (.error (.refused (.invalidUri entry.1)), state)

/-- Whether two edits have the same effect: the outcome and the files afterwards, whatever the
file system does, every step with other edits in between, and the answers to requests. -/
structure HaveSameEffect (edit edit' : WorkspaceEdit) : Prop where
  system : ∀ (σ ε ω : Type) (system : FileSystem σ ε ω) (state : σ),
    applyIn system edit state = applyIn system edit' state
  tree : ∀ tree, edit.apply tree = edit'.apply tree
  steps : Progress.start edit = .start edit'
  answers : ∀ params params', requested? params = some edit → requested? params' = some edit' →
    ∀ tree, answer params tree = answer params' tree

/-- How the edit that gives entries by URI compares with those that list them, which may also
give something by URI, since this does not count then. -/
structure FormsAgree (entries : List (String × List TextEdit)) : Prop where
  applied : NameDifferentFiles entries → ∀ changes other, IsListing entries changes →
    HaveSameEffect ⟨some entries, none⟩ ⟨other, some changes⟩
  refused : ∀ entry, entry ∈ entries → FileUri.toPath? entry.1 = none →
    IsRefusedForUri entries ⟨some entries, none⟩ ∧
      ∀ changes other, IsListing entries changes →
        IsRefusedForUri entries ⟨other, some changes⟩

theorem haveSameEffect_of_byFile_eq
    {edit edit' : WorkspaceEdit} (same : edit.byFile = edit'.byFile) :
    HaveSameEffect edit edit' := by
  have sameIn (σ ε ω : Type) (system : FileSystem σ ε ω) (state : σ) :
      applyIn system edit state = applyIn system edit' state := by
    simp only [applyIn, same]
  have sameTree (tree : FileTree) : edit.apply tree = edit'.apply tree := by
    rw [apply_eq_applyIn, apply_eq_applyIn, sameIn]
  exact {
    system := sameIn
    tree := sameTree
    steps := by simp only [Progress.start, same]
    answers := by
      intro params params' isRequested isRequested' tree
      rw [answer_of_requested isRequested, answer_of_requested isRequested', sameTree] }

section Forms

variable {entries : List (String × List TextEdit)} {changes : List Json}

theorem entryOf_given {entry : String × List TextEdit} {path : Path}
    (found : FileUri.toPath? entry.1 = some path) :
    entryOf (.ok ⟨entry.1, entry.2⟩) = .ok (path, entry.2) := by
  change (target entry.1).map _ = _
  simp only [target, found]
  rfl

theorem toOption_entryOf_given (entry : String × List TextEdit) :
    (entryOf (.ok ⟨entry.1, entry.2⟩)).toOption =
      (FileUri.toPath? entry.1).map fun path => (path, entry.2) := by
  cases found : FileUri.toPath? entry.1 with
  | some path => simp only [entryOf_given found, Except.toOption, Option.map_some]
  | none =>
      rw [(entryOf_ok_eq_error_iff ⟨entry.1, entry.2⟩).mpr ⟨found, rfl⟩]
      rfl

theorem byFile_of_forall_named
    {edit : WorkspaceEdit}
    (named : ∀ document, document ∈ edit.documents → ∃ entry, entryOf document = .ok entry) :
    edit.byFile = .ok (grouped edit.entries) := by
  rcases edit.byFile_cases with ⟨byFile, _⟩ | ⟨document, error, member, refused, _⟩
  · exact byFile
  · obtain ⟨entry, isNamed⟩ := named document member
    rw [isNamed] at refused
    cases refused

theorem byFile_eq_of_isListing
    (nameFiles : NameDifferentFiles entries) (isListing : IsListing entries changes)
    (other : Option (List (String × List TextEdit))) :
    byFile ⟨some entries, none⟩ = byFile ⟨other, some changes⟩ := by
  have permuted := isListing.documents_perm other
  have named : ∀ document, document ∈ documents ⟨some entries, none⟩ →
      ∃ entry, entryOf document = .ok entry := by
    intro document member
    obtain ⟨entry, isEntry, rfl⟩ := List.mem_map.mp member
    obtain ⟨path, found⟩ := nameFiles.named entry isEntry
    exact ⟨(path, entry.2), entryOf_given found⟩
  have named' : ∀ document, document ∈ documents ⟨other, some changes⟩ →
      ∃ entry, entryOf document = .ok entry :=
    fun document member => named document (permuted.mem_iff.mp member)
  rw [byFile_of_forall_named named, byFile_of_forall_named named']
  refine congrArg Except.ok (grouped_eq_of_perm (permuted.filterMap _) ?_).symm
  rw [AreDistinct, documents, List.filterMap_map, List.pairwise_filterMap]
  refine nameFiles.different.imp fun {entry later} different file isFile file' isFile' => ?_
  simp only [Function.comp_apply, toOption_entryOf_given] at isFile isFile'
  obtain ⟨path, found, rfl⟩ := Option.map_eq_some_iff.mp isFile
  obtain ⟨path', found', rfl⟩ := Option.map_eq_some_iff.mp isFile'
  exact different path path' found found'

theorem isRefusedForUri_of_documents
    {edit : WorkspaceEdit} (permuted : edit.documents.Perm (documents ⟨some entries, none⟩))
    {entry : String × List TextEdit} (member : entry ∈ entries)
    (noPath : FileUri.toPath? entry.1 = none) :
    IsRefusedForUri entries edit := by
  have areGiven (document) (isDocument : document ∈ edit.documents) :
      ∃ entry, entry ∈ entries ∧ document = .ok ⟨entry.1, entry.2⟩ := by
    obtain ⟨entry, isEntry, rfl⟩ := List.mem_map.mp (permuted.mem_iff.mp isDocument)
    exact ⟨entry, isEntry, rfl⟩
  rcases edit.byFile_cases with ⟨_, named⟩ | ⟨document, error, isDocument, refused, byFile⟩
  · have isDocument : .ok ⟨entry.1, entry.2⟩ ∈ edit.documents :=
      permuted.mem_iff.mpr (List.mem_map.mpr ⟨entry, member, rfl⟩)
    obtain ⟨_, isNamed⟩ := named _ isDocument
    rw [(entryOf_ok_eq_error_iff ⟨entry.1, entry.2⟩).mpr ⟨noPath, rfl⟩] at isNamed
    cases isNamed
  · obtain ⟨entry', isEntry, rfl⟩ := areGiven document isDocument
    obtain ⟨noPath', rfl⟩ := (entryOf_ok_eq_error_iff ⟨entry'.1, entry'.2⟩).mp refused
    have isRefused (σ ε ω : Type) (system : FileSystem σ ε ω) (state : σ) :
        applyIn system edit state = (.error (.refused (.invalidUri entry'.1)), state) := by
      simp only [applyIn, byFile]
    refine ⟨entry', isEntry, noPath', fun tree => ?_, isRefused⟩
    rw [apply_eq_applyIn, isRefused]
    rfl

end Forms

/-- By URI or in a list, the edits of documents mean the same. -/
theorem formsAgree (entries : List (String × List TextEdit)) : FormsAgree entries where
  applied := fun nameFiles changes other isListing =>
    haveSameEffect_of_byFile_eq (byFile_eq_of_isListing nameFiles isListing other)
  refused := by
    intro entry member noPath
    exact ⟨isRefusedForUri_of_documents (.refl _) member noPath, fun changes other isListing =>
      isRefusedForUri_of_documents (isListing.documents_perm other) member noPath⟩

/-! ## Other schemes -/

/-- The insertion of a text at the start of the document that a web URI names. -/
def webInsertion : String × List TextEdit :=
  ("http://localhost/a", [⟨⟨⟨0, 0⟩, ⟨0, 0⟩⟩, "1"⟩])

def webInsertionChange : Json :=
  .ofMembers
    [("textDocument", .ofMembers [("uri", .string "http://localhost/a")]),
      ("edits", .array [insertion 0 "1"])]

/-- How many files an edit is applied to, and the text of the file `a` then. -/
def appliedBeside (edit : WorkspaceEdit) : Option Nat × Option String :=
  let (outcome, files) := edit.apply besideDirectory
  (outcome.toOption, (files.readText [] (.ofString "/a")).toOption)

/-- A URI of another scheme is refused in neither form. -/
theorem applied_otherScheme :
    (FileUri.splitScheme? webInsertion.1.toList).map Prod.fst = some .web ∧
      IsListing [webInsertion] [webInsertionChange] ∧
      appliedBeside ⟨some [webInsertion], none⟩ = (some 1, some "1one") ∧
      appliedBeside ⟨none, some [webInsertionChange]⟩ = (some 1, some "1one") := by
  have ordered : webInsertionChange.isOrdered := by decide +kernel
  have isListed : Lists webInsertionChange webInsertion :=
    (lists_iff ordered).mpr (by decide +kernel)
  refine ⟨by decide +kernel, ⟨[webInsertion], .refl _, .cons isListed .nil⟩, ?_, ?_⟩
  · decide +kernel
  · decide +kernel

end WorkspaceEdit

end LanguageClient
