import LanguageClient.Proofs.Files.PathOrder
import LanguageClient.Proofs.Sequence
import LanguageClient.WorkspaceEdit
import Mathlib.Data.List.Induction

/-!
# Edits by file

A workspace edit is a list of document edits, each of which names a file.  The edits of a
file are those of all documents that name it, in the order of the documents, and the file
keeps the path that it was first named by.
-/

namespace LanguageClient.WorkspaceEdit

/-! ## Files in order -/

namespace FileEdits

def file? (files : FileEdits) (path : Path) : Option (Path × List TextEdit) :=
  files.find? fun file => file.1.components = path.components

/-- Whether each file comes before all files behind it. -/
def InOrder (files : FileEdits) : Prop :=
  files.Pairwise fun file later => file.1.compare later.1 = .lt

theorem components_ne_of_lt {path path' : Path} (less : path.compare path' = .lt) :
    path.components ≠ path'.components := by
  intro same
  rw [Path.compare_eq_eq_iff.mpr same] at less
  cases less

section Files

variable {files : FileEdits} {path : Path} {edits : List TextEdit}

theorem file?_congr {path' : Path} (same : path.components = path'.components) :
    files.file? path = files.file? path' := by
  simp only [file?, same]

theorem file?_eq_none_of_lt (less : ∀ file, file ∈ files → path.compare file.1 = .lt) :
    files.file? path = none := by
  refine List.find?_eq_none.mpr fun file member isFile => ?_
  exact components_ne_of_lt (less file member) (of_decide_eq_true isFile).symm

theorem InOrder.mem_iff (inOrder : InOrder files) (file : Path × List TextEdit) :
    file ∈ files ↔ files.file? file.1 = some file := by
  constructor
  · intro member
    obtain ⟨before, behind, rfl⟩ := List.append_of_mem member
    refine List.find?_eq_some_iff_append.mpr ⟨decide_eq_true rfl, before, behind, rfl, ?_⟩
    intro other isBefore
    have less := (List.pairwise_append.mp inOrder).2.2 other isBefore file List.mem_cons_self
    simpa using components_ne_of_lt less
  · exact List.mem_of_find?_eq_some

theorem fst_of_mem_add {file : Path × List TextEdit} (member : file ∈ files.add path edits) :
    file.1 = path ∨ ∃ old, old ∈ files ∧ old.1 = file.1 := by
  induction files with
  | nil => exact Or.inl (congrArg Prod.fst (List.mem_singleton.mp member))
  | cons first files inductionHypothesis =>
      obtain ⟨path', edits'⟩ := first
      rw [add] at member
      cases compared : path.compare path' with
      | lt =>
          rw [compared] at member
          rcases List.mem_cons.mp member with rfl | isOld
          · exact Or.inl rfl
          · exact Or.inr ⟨file, isOld, rfl⟩
      | eq =>
          rw [compared] at member
          rcases List.mem_cons.mp member with rfl | isOld
          · exact Or.inr ⟨(path', edits'), List.mem_cons_self, rfl⟩
          · exact Or.inr ⟨file, List.mem_cons_of_mem _ isOld, rfl⟩
      | gt =>
          rw [compared] at member
          rcases List.mem_cons.mp member with rfl | isLater
          · exact Or.inr ⟨(path', edits'), List.mem_cons_self, rfl⟩
          · rcases inductionHypothesis isLater with isNew | ⟨old, isOld, same⟩
            · exact Or.inl isNew
            · exact Or.inr ⟨old, List.mem_cons_of_mem _ isOld, same⟩

theorem InOrder.add (inOrder : InOrder files) (path : Path) (edits : List TextEdit) :
    InOrder (files.add path edits) := by
  induction files with
  | nil => exact List.pairwise_singleton _ _
  | cons first files inductionHypothesis =>
      obtain ⟨path', edits'⟩ := first
      obtain ⟨areBehind, inOrder'⟩ := List.pairwise_cons.mp inOrder
      rw [FileEdits.add]
      cases compared : path.compare path' with
      | lt =>
          refine List.pairwise_cons.mpr ⟨fun later member => ?_, inOrder⟩
          rcases List.mem_cons.mp member with rfl | isBehind
          · exact compared
          · exact Std.TransCmp.lt_trans compared (areBehind later isBehind)
      | eq => exact List.pairwise_cons.mpr ⟨areBehind, inOrder'⟩
      | gt =>
          refine List.pairwise_cons.mpr ⟨fun later member => ?_, inductionHypothesis inOrder'⟩
          rcases fst_of_mem_add member with isNew | ⟨old, isOld, same⟩
          · exact isNew ▸ Std.OrientedCmp.gt_iff_lt.mp compared
          · exact same ▸ areBehind old isOld

/-- Edits are added behind those of the file that they name, or to a new file. -/
theorem InOrder.file?_add
    (inOrder : InOrder files) (path : Path) (edits : List TextEdit) (other : Path) :
    (files.add path edits).file? other =
      if path.components = other.components then
        some (((files.file? path).map fun file => (file.1, file.2 ++ edits)).getD (path, edits))
      else files.file? other := by
  induction files with
  | nil =>
      by_cases same : path.components = other.components
      · simp [file?, FileEdits.add, same]
      · simp [file?, FileEdits.add, same]
  | cons first files inductionHypothesis =>
      obtain ⟨path', edits'⟩ := first
      obtain ⟨areBehind, inOrder'⟩ := List.pairwise_cons.mp inOrder
      rw [FileEdits.add]
      cases compared : path.compare path' with
      | lt =>
          have isNew : file? ((path', edits') :: files) path = none := by
            refine file?_eq_none_of_lt fun file member => ?_
            rcases List.mem_cons.mp member with rfl | isBehind
            · exact compared
            · exact Std.TransCmp.lt_trans compared (areBehind file isBehind)
          rw [isNew]
          by_cases same : path.components = other.components
          · simp [file?, same]
          · simp [file?, same]
      | eq =>
          have isFirst := Path.compare_eq_eq_iff.mp compared
          by_cases same : path.components = other.components
          · simp [file?, ← isFirst, same]
          · simp [file?, ← isFirst, same]
      | gt =>
          have notFirst : path'.components ≠ path.components :=
            components_ne_of_lt (Std.OrientedCmp.gt_iff_lt.mp compared)
          have inRest := inductionHypothesis inOrder'
          unfold file? at inRest ⊢
          by_cases isOther : path'.components = other.components
          · have different : path.components ≠ other.components := fun same =>
              notFirst (isOther.trans same.symm)
            simp [isOther, different]
          · simp [isOther, notFirst, inRest]

end Files

end FileEdits

/-! ## Documents and the files they name -/

/-- The edits of each file that is named, the entries being taken in their order. -/
def grouped (entries : List (Path × List TextEdit)) : FileEdits :=
  entries.foldl (fun files entry => files.add entry.1 entry.2) []

/-- The edits of all entries that name a file, in the order of the entries. -/
def editsOf (entries : List (Path × List TextEdit)) (path : Path) : List TextEdit :=
  (entries.filter fun entry => entry.1.components = path.components).flatMap Prod.snd

def firstName? (entries : List (Path × List TextEdit)) (path : Path) : Option Path :=
  (entries.find? fun entry => entry.1.components = path.components).map Prod.fst

theorem grouped_concat (entries : List (Path × List TextEdit)) (entry : Path × List TextEdit) :
    grouped (entries ++ [entry]) = (grouped entries).add entry.1 entry.2 := by
  rw [grouped, List.foldl_append, List.foldl_cons, List.foldl_nil, ← grouped]

theorem inOrder_grouped (entries : List (Path × List TextEdit)) :
    (grouped entries).InOrder := by
  induction entries using List.reverseRecOn with
  | nil => exact List.Pairwise.nil
  | append_singleton entries entry inductionHypothesis =>
      rw [grouped_concat]
      exact inductionHypothesis.add entry.1 entry.2

theorem file?_grouped (entries : List (Path × List TextEdit)) (path : Path) :
    (grouped entries).file? path =
      (firstName? entries path).map fun first => (first, editsOf entries path) := by
  induction entries using List.reverseRecOn generalizing path with
  | nil => rfl
  | append_singleton entries entry inductionHypothesis =>
      rw [grouped_concat, (inOrder_grouped entries).file?_add]
      unfold firstName? editsOf at inductionHypothesis ⊢
      by_cases same : entry.1.components = path.components
      · rw [if_pos same, FileEdits.file?_congr same, inductionHypothesis path]
        cases found : entries.find? fun entry => entry.1.components = path.components with
        | none =>
            have noOther : (entries.filter fun entry =>
                entry.1.components = path.components) = [] :=
              List.filter_eq_nil_iff.mpr (List.find?_eq_none.mp found)
            simp [found, same, noOther]
        | some first => simp [found, same]
      · rw [if_neg same, inductionHypothesis path]
        simp [same]

theorem mem_grouped_iff (entries : List (Path × List TextEdit)) (path : Path)
    (edits : List TextEdit) :
    (path, edits) ∈ grouped entries ↔
      firstName? entries path = some path ∧ edits = editsOf entries path := by
  rw [(inOrder_grouped entries).mem_iff, file?_grouped, Option.map_eq_some_iff]
  dsimp only
  constructor
  · rintro ⟨first, isFirst, same⟩
    obtain ⟨rfl, rfl⟩ := Prod.mk.inj same
    exact ⟨isFirst, rfl⟩
  · rintro ⟨isFirst, rfl⟩
    exact ⟨path, isFirst, rfl⟩

/-- The document edits of an edit; where it has document changes, nothing else counts. -/
def documents (edit : WorkspaceEdit) : List (Except EditError DocumentEdits) :=
  match edit.documentChanges, edit.changes with
  | some changes, _ => changes.map ofDocumentChange
  | none, some changes => changes.map fun change => .ok ⟨change.1, change.2⟩
  | none, none => []

def entryOf (document : Except EditError DocumentEdits) :
    Except EditError (Path × List TextEdit) :=
  document.bind fun document => (target document.uri).map fun path => (path, document.edits)

def entries (edit : WorkspaceEdit) : List (Path × List TextEdit) :=
  edit.documents.filterMap fun document => (entryOf document).toOption

theorem bind_addDocument (document : Except EditError DocumentEdits) (files : FileEdits) :
    (document.bind fun document => addDocument files document) =
      (entryOf document).map fun entry => files.add entry.1 entry.2 := by
  cases document with
  | error error => rfl
  | ok document =>
      change addDocument files document = ((target document.uri).map _).map _
      unfold addDocument
      cases target document.uri with
      | error error => rfl
      | ok path => rfl

theorem byFile_eq (edit : WorkspaceEdit) :
    edit.byFile = (edit.documents.mapM entryOf).map grouped := by
  obtain ⟨changes, documentChanges⟩ := edit
  cases documentChanges with
  | some documentChanges =>
      rw [documents, List.mapM_map]
      exact foldlM_eq_map_foldl
        (fun files change => bind_addDocument (ofDocumentChange change) files) []
  | none =>
      cases changes with
      | some changes =>
          rw [documents, List.mapM_map]
          exact foldlM_eq_map_foldl
            (fun files change => bind_addDocument (.ok ⟨change.1, change.2⟩) files) []
      | none => rfl

/-- Either the edits come to those of each file, or a document is refused. -/
theorem byFile_cases (edit : WorkspaceEdit) :
    (edit.byFile = .ok (grouped edit.entries) ∧
        ∀ document, document ∈ edit.documents → ∃ entry, entryOf document = .ok entry) ∨
      ∃ document error, document ∈ edit.documents ∧ entryOf document = .error error ∧
        edit.byFile = .error error := by
  rw [byFile_eq]
  cases computed : edit.documents.mapM entryOf with
  | error error =>
      obtain ⟨document, member, isRefused⟩ := exists_of_mapM_eq_error computed
      exact Or.inr ⟨document, error, member, isRefused, rfl⟩
  | ok results =>
      left
      have each := forall₂_of_mapM_eq_ok computed
      refine ⟨?_, fun document => exists_ok_of_forall₂ each⟩
      have isEntries : edit.entries = results := filterMap_toOption_of_forall₂ each
      rw [isEntries]
      rfl

end LanguageClient.WorkspaceEdit
