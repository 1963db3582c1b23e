import LanguageClient.Client.Basic
import LanguageClient.Proofs.Edits.Progress
import LanguageClient.Proofs.FileUri.RoundTrip
import LanguageClient.Proofs.Files.Spelling

/-!
# Documents and their files

An open document is known by the URI of its path, and a server names the file it edits by
this URI.  The path that is read from the URI has the components of the one that was opened.
It leads to the same file, unless the name of the file looks like a drive: then it has a
separator at its end, which no path to a file may have.
-/

namespace LanguageClient

/-! ## Entries of open documents -/

namespace Client

variable {path other : Path} {uri : String}

theorem isOpen_iff (client : Client) :
    client.isOpen path = true ↔
      ∃ uri, FileUri.ofPath? path = some uri ∧ uri ∈ client.documents.map Prod.fst := by
  unfold isOpen uriOf version?
  cases FileUri.ofPath? path with
  | none => simp
  | some uri => simp [List.find?_isSome]

theorem mem_setVersion_iff (client : Client) (version : Int) {uri' : String} :
    uri' ∈ (client.setVersion uri version).documents.map Prod.fst ↔
      uri' ∈ client.documents.map Prod.fst ∨ uri' = uri := by
  by_cases same : uri' = uri <;> simp [setVersion, same]

theorem mem_dropDocument_iff (client : Client) {uri' : String} :
    uri' ∈ (client.dropDocument uri).documents.map Prod.fst ↔
      uri' ∈ client.documents.map Prod.fst ∧ uri' ≠ uri := by
  by_cases same : uri' = uri <;> simp [dropDocument, same]

end Client

/-! ## Edits of open documents -/

namespace WorkspaceEdit

/-- What an edit of one file comes to, where its path is told as `back` if it is refused. -/
def editOpened (tree : FileTree) (current : List EntryName) (path back : Path)
    (edits : List TextEdit) : Except EditError Nat × FileTree :=
  match tree.readText current path with
  | .error error => (.error (.unreadable back error), tree)
  | .ok text =>
      match Document.applyEdits text.toList edits with
      | none => (.error (.overlapping back), tree)
      | some edited => (.ok 1, tree.write current path (String.ofList edited))

section Single

variable {edit : WorkspaceEdit} {back : Path} {edits : List TextEdit}

/-- An edit of a single file. -/
theorem apply_of_byFile_singleton (single : edit.byFile = .ok [(back, edits)]) (tree : FileTree) :
    edit.apply tree = editOpened tree [] back back edits := by
  have refused (error : EditError) (isError : editFile tree back edits = .error error) :
      edit.apply tree = (.error error, tree) := by
    simp only [apply, single, List.mapM_cons, isError]
    rfl
  cases read : tree.readText [] back with
  | error error =>
      rw [refused (.unreadable back error) (by simp only [editFile, read])]
      simp only [editOpened, read]
  | ok text =>
      cases edited : Document.applyEdits text.toList edits with
      | none =>
          rw [refused (.overlapping back) (by simp only [editFile, read, edited])]
          simp only [editOpened, read, edited]
      | some edited' =>
          have comes : EditsTo tree [(back, edits)] [(back, String.ofList edited')] :=
            .cons (by simp only [editFile, read, edited]) .nil
          rw [apply_of_editsTo single comes]
          simp only [editOpened, read, edited]
          rfl

end Single

end WorkspaceEdit

/-! ## Documents -/

namespace FileUri

open LanguageClient.Path (rooted separator)

/-- What the URI of a document tells of the path that was opened. -/
structure Identifies (path : Path) (uri : String) (back : Path) : Prop where
  isUri : ofPath? path = some uri
  isBack : toPath? uri = some back
  sameComponents : back.components = path.components
  /-- Just the paths with the same components have the same URI ... -/
  sharesUri : ∀ other, ofPath? other = some uri ↔ other.components = path.components
  /-- ... and the same entry among the open documents. -/
  sharesEntry : ∀ (client : Client) (version : Int) (other : Path),
    ((client.setVersion uri version).isOpen other = true ↔
      client.isOpen other = true ∨ other.components = path.components) ∧
    ((client.dropDocument uri).isOpen other = true ↔
      client.isOpen other = true ∧ other.components ≠ path.components)
  /-- Edits of the document are edits of the path that is read from its URI. -/
  isNamed : ∀ edits, WorkspaceEdit.byFile ⟨some [(uri, edits)], none⟩ = .ok [(back, edits)]
  /-- They edit the file that was opened, ... -/
  edits : path.steps.getLast?.any looksLikeDrive = false →
    ∀ (tree : FileTree) (current names : List EntryName), tree.HoldsFile current path names →
    ∀ (edit : WorkspaceEdit) (edits : List TextEdit), edit.byFile = .ok [(back, edits)] →
      edit.apply tree = WorkspaceEdit.editOpened tree current path back edits
  /-- ... but a file whose name looks like a drive is refused, whatever the edits. -/
  refuses : path.steps.getLast?.any looksLikeDrive = true →
    ∀ (tree : FileTree) (current names : List EntryName), tree.HoldsFile current path names →
    ∀ (edit : WorkspaceEdit) (edits : List TextEdit), edit.byFile = .ok [(back, edits)] →
      ∃ error, edit.apply tree = (.error (.unreadable back error), tree)

section Identity

variable {path : Path} {uri : String}

private theorem sharesEntry_of_ofPath?
    (isUri : ofPath? path = some uri) (client : Client) (version : Int) (other : Path) :
    ((client.setVersion uri version).isOpen other = true ↔
      client.isOpen other = true ∨ other.components = path.components) ∧
    ((client.dropDocument uri).isOpen other = true ↔
      client.isOpen other = true ∧ other.components ≠ path.components) := by
  have shares : ofPath? other = some uri ↔ other.components = path.components :=
    ofPath?_eq_iff isUri
  simp only [Client.isOpen_iff, ne_eq, ← shares]
  cases ofPath? other with
  | none => simp
  | some uri' =>
      simp only [Option.some.injEq, exists_eq_left', Client.mem_setVersion_iff,
        Client.mem_dropDocument_iff, ne_eq, and_self]

private theorem edits_pathBack
    (absolute : path.isAbsolute = true) (plain : path.steps.getLast?.any looksLikeDrive = false)
    {tree : FileTree} {current names : List EntryName} (holds : tree.HoldsFile current path names)
    {edit : WorkspaceEdit} {edits : List TextEdit}
    (single : edit.byFile = .ok [(pathBack path.steps, edits)]) :
    edit.apply tree = WorkspaceEdit.editOpened tree current path (pathBack path.steps) edits := by
  have isPlain : pathBack path.steps = ⟨rooted path.steps⟩ := by
    rw [pathBack, plain, if_neg Bool.false_ne_true,
      Path.ofNames_eq_rooted (holds.steps_ne_nil absolute)]
  have holds' : tree.HoldsFile [] (pathBack path.steps) names :=
    isPlain ▸ holds.of_steps absolute []
  rw [WorkspaceEdit.apply_of_byFile_singleton single]
  simp only [WorkspaceEdit.editOpened, holds.readText_eq holds', holds.write_eq holds']

private theorem refuses_pathBack
    (absolute : path.isAbsolute = true) (drive : path.steps.getLast?.any looksLikeDrive = true)
    {tree : FileTree} {current names : List EntryName} (holds : tree.HoldsFile current path names)
    {edit : WorkspaceEdit} {edits : List TextEdit}
    (single : edit.byFile = .ok [(pathBack path.steps, edits)]) :
    ∃ error, edit.apply tree = (.error (.unreadable (pathBack path.steps) error), tree) := by
  obtain ⟨error, nowhere⟩ := holds.not_located absolute []
  rw [← show pathBack path.steps = ⟨rooted path.steps ++ [separator]⟩ from if_pos drive] at nowhere
  refine ⟨error, ?_⟩
  rw [WorkspaceEdit.apply_of_byFile_singleton single]
  simp only [WorkspaceEdit.editOpened, FileTree.readText, FileTree.read, nowhere]

/-- Every path from the root that never leads up is identified by its URI. -/
theorem identifies (absolute : path.isAbsolute = true) (noParent : .parent ∉ path.components) :
    ∃ uri back, Identifies path uri back := by
  have isUri := ofPath?_of_isAbsolute absolute
  have isBack := toPath?_of_ofPath? noParent isUri
  refine ⟨_, pathBack path.steps, {
    isUri := isUri
    isBack := isBack
    sameComponents := components_pathBack_steps absolute noParent
    sharesUri := fun other => ofPath?_eq_iff isUri
    sharesEntry := sharesEntry_of_ofPath? isUri
    isNamed := ?_
    edits := fun plain _ _ _ holds _ _ => edits_pathBack absolute plain holds
    refuses := fun drive _ _ _ holds _ _ => refuses_pathBack absolute drive holds }⟩
  intro edits
  simp only [WorkspaceEdit.byFile, List.foldlM_cons, List.foldlM_nil, WorkspaceEdit.addDocument,
    WorkspaceEdit.target, isBack]
  rfl

end Identity

/-- A name with a space, a percent sign, a backslash and a byte that is no text. -/
def oddName : List UInt8 := [0x61, 0x20, 0x25, 0x5C, 0xFF]

/-- A file with an odd name beside the file `b:`, whose text is `one`. -/
def besideDriveLike : FileTree :=
  .directory [(oddName, .file [] false), ([0x62, 0x3A], .file (Text.Utf8.encode "one") false)]

/-- The file with the odd name is edited by its URI. -/
theorem identifies_oddName :
    Path.isAbsolute ⟨0x2F :: oddName⟩ = true ∧ .parent ∉ Path.components ⟨0x2F :: oddName⟩ ∧
      besideDriveLike.HoldsFile [] ⟨0x2F :: oddName⟩ [oddName] ∧
        ∃ uri back, Identifies ⟨0x2F :: oddName⟩ uri back := by
  have absolute : Path.isAbsolute ⟨0x2F :: oddName⟩ = true := by decide +kernel
  have noParent : .parent ∉ Path.components ⟨0x2F :: oddName⟩ := by decide +kernel
  exact ⟨absolute, noParent, ⟨_, rfl, rfl, rfl⟩, identifies absolute noParent⟩

/-- The document at `/b:` is there to be opened and to be edited, but a server that edits it
by its URI is told that it cannot be read. -/
theorem not_edits_driveLike :
    ofPath? (.ofString "/b:") = some "file:///b:" ∧
      toPath? "file:///b:" = some (.ofString "/b:/") ∧
      (WorkspaceEdit.editOpened besideDriveLike [] (.ofString "/b:") (.ofString "/b:") []).1 =
        .ok 1 ∧
      WorkspaceEdit.apply ⟨some [("file:///b:", [])], none⟩ besideDriveLike =
        (.error (.unreadable (.ofString "/b:/") .notDirectory), besideDriveLike) := by
  have byFile : WorkspaceEdit.byFile ⟨some [("file:///b:", [])], none⟩ =
      .ok [(.ofString "/b:/", [])] := by decide +kernel
  exact ⟨by decide +kernel, by decide +kernel, by decide +kernel,
    (WorkspaceEdit.apply_of_byFile_singleton byFile _).trans rfl⟩

end FileUri

end LanguageClient
