import LanguageClient.Proofs.Edits.Grouping
import LanguageClient.Proofs.Edits.Progress
import LanguageClient.Proofs.TextEdit.Replacement
import Mathlib

/-!
# All or nothing

A request to apply an edit is answered without a change of any file, or the whole edit is
applied: every file it names is edited as its text was before, and all others stay.
-/

namespace LanguageClient.WorkspaceEdit

/-! ## Faults -/

/-- Whether an edit names a file, first by this path, and has these edits for it. -/
def IsTarget (edit : WorkspaceEdit) (path : Path) (edits : List TextEdit) : Prop :=
  firstName? edit.entries path = some path ∧ edits = editsOf edit.entries path

/-- What is wrong with an edit: a change of documents that is an operation on a file or
cannot be read, a URI without a path, a file that is not there as a text, or two edits of
a file that overlap. -/
inductive Fault (edit : WorkspaceEdit) (tree : FileTree) : EditError → Prop
  | operation {changes : List Json} {change : Json} {kind : String} :
      edit.documentChanges = some changes →
      change ∈ changes →
      (change.member? "kind").bind Json.string? = some kind →
      Fault edit tree (.unsupportedOperation kind)
  | malformed {changes : List Json} {change : Json} {error : Json.DecodeError} :
      edit.documentChanges = some changes →
      change ∈ changes →
      (change.member? "kind").bind Json.string? = none →
      DocumentEdits.decode change = .error error →
      Fault edit tree (.malformed error)
  | noPath {document : DocumentEdits} :
      .ok document ∈ edit.documents →
      FileUri.toPath? document.uri = none →
      Fault edit tree (.invalidUri document.uri)
  | unreadable {path : Path} {edits : List TextEdit} {error : FileError} :
      edit.IsTarget path edits →
      tree.readText [] path = .error error →
      Fault edit tree (.unreadable path error)
  | overlapping {path : Path} {edits : List TextEdit} {text : String} :
      edit.IsTarget path edits →
      tree.readText [] path = .ok text →
      Document.HaveOverlap text.toList edits →
      Fault edit tree (.overlapping path)

section Faults

variable {edit : WorkspaceEdit} {tree : FileTree} {error : EditError}

theorem entryOf_ok_eq_error_iff (document : DocumentEdits) :
    entryOf (.ok document) = .error error ↔
      FileUri.toPath? document.uri = none ∧ error = .invalidUri document.uri := by
  change (target document.uri).map _ = _ ↔ _
  unfold target
  cases FileUri.toPath? document.uri with
  | some path => exact iff_of_false nofun (fun isNone => nomatch isNone.1)
  | none => exact ⟨fun refused => ⟨rfl, by injection refused with same; exact same.symm⟩,
      fun refused => refused.2 ▸ rfl⟩

/-- A document that is refused is one with a fault. -/
theorem fault_of_document
    {document : Except EditError DocumentEdits} (member : document ∈ edit.documents)
    (refused : entryOf document = .error error) : edit.Fault tree error := by
  cases document with
  | ok document =>
      obtain ⟨noPath, rfl⟩ := (entryOf_ok_eq_error_iff document).mp refused
      exact .noPath member noPath
  | error error' =>
      obtain rfl : error' = error := by injection refused
      obtain ⟨changes, documentChanges⟩ := edit
      cases documentChanges with
      | none =>
          cases changes with
          | none => cases member
          | some changes =>
              obtain ⟨_, _, same⟩ := List.mem_map.mp member
              cases same
      | some documentChanges =>
          obtain ⟨change, isChange, refused⟩ := List.mem_map.mp member
          unfold ofDocumentChange at refused
          split at refused
          · rename_i kind isKind
            obtain rfl : EditError.unsupportedOperation kind = error' := by injection refused
            exact .operation rfl isChange isKind
          · rename_i noKind
            split at refused
            · cases refused
            · rename_i fault undecoded
              obtain rfl : EditError.malformed fault = error' := by injection refused
              exact .malformed rfl isChange noKind undecoded

theorem editFile_of_editsTo
    {files : FileEdits} {edited : List (Path × String)} (comes : EditsTo tree files edited)
    {file : Path × List TextEdit} (member : file ∈ files) :
    ∃ result, editFile tree file.1 file.2 = .ok result :=
  exists_ok_of_forall₂ comes member

/-- An edit that comes to the texts of all files has no fault. -/
theorem not_fault_of_editsTo
    (named : ∀ document, document ∈ edit.documents → ∃ entry, entryOf document = .ok entry)
    {edited : List (Path × String)} (comes : EditsTo tree (grouped edit.entries) edited) :
    ¬ edit.Fault tree error := by
  have noChange {changes : List Json} {change : Json} (isForm : edit.documentChanges = some changes)
      (isChange : change ∈ changes) : ∃ document, ofDocumentChange change = .ok document := by
    have member : ofDocumentChange change ∈ edit.documents := by
      simp only [documents, isForm]
      exact List.mem_map_of_mem isChange
    obtain ⟨entry, isNamed⟩ := named _ member
    cases read : ofDocumentChange change with
    | ok document => exact ⟨document, rfl⟩
    | error error =>
        rw [read] at isNamed
        cases isNamed
  have isEdited {path : Path} {edits : List TextEdit} (isTarget : edit.IsTarget path edits) :
      ∃ result, editFile tree path edits = .ok result :=
    editFile_of_editsTo comes ((mem_grouped_iff edit.entries path edits).mpr isTarget)
  intro fault
  cases fault with
  | operation isForm isChange isKind =>
      obtain ⟨document, read⟩ := noChange isForm isChange
      simp only [ofDocumentChange, isKind, reduceCtorEq] at read
  | malformed isForm isChange noKind undecoded =>
      obtain ⟨document, read⟩ := noChange isForm isChange
      simp only [ofDocumentChange, noKind, undecoded, reduceCtorEq] at read
  | noPath member noPath =>
      obtain ⟨entry, isNamed⟩ := named _ member
      rw [(entryOf_ok_eq_error_iff _).mpr ⟨noPath, rfl⟩] at isNamed
      cases isNamed
  | unreadable isTarget unread =>
      obtain ⟨result, isEdited⟩ := isEdited isTarget
      simp only [editFile, unread, reduceCtorEq] at isEdited
  | overlapping isTarget read overlap =>
      obtain ⟨result, isEdited⟩ := isEdited isTarget
      have refused := (Document.applyEdits_eq_none_iff _ _).mpr overlap
      simp only [editFile, read, refused, reduceCtorEq] at isEdited

/-- A file that cannot be edited is one with a fault. -/
theorem fault_of_file
    {path : Path} {edits : List TextEdit} (isTarget : edit.IsTarget path edits)
    (refused : editFile tree path edits = .error error) : edit.Fault tree error := by
  unfold editFile at refused
  split at refused
  · rename_i fault unread
    obtain rfl : EditError.unreadable path fault = error := by injection refused
    exact .unreadable isTarget unread
  · rename_i text read
    split at refused
    · cases refused
    · rename_i overlapping
      obtain rfl : EditError.overlapping path = error := by injection refused
      exact .overlapping isTarget read ((Document.applyEdits_eq_none_iff _ _).mp overlapping)

/-- An edit with a fault is refused for one and changes nothing; any other comes to the
texts of all files, and these are written. -/
theorem apply_cases (edit : WorkspaceEdit) (tree : FileTree) :
    (∃ error, edit.Fault tree error ∧ edit.apply tree = (.error error, tree)) ∨
      (∀ error, ¬ edit.Fault tree error) ∧ ∃ edited,
        EditsTo tree (grouped edit.entries) edited ∧
          edit.apply tree = (.ok edited.length, writeAll edited tree) := by
  rcases edit.byFile_cases with ⟨byFile, named⟩ | ⟨document, error, member, refused, byFile⟩
  · cases read : (grouped edit.entries).mapM fun file => editFile tree file.1 file.2 with
    | error error =>
        obtain ⟨file, isFile, refused⟩ := exists_of_mapM_eq_error read
        refine Or.inl ⟨error, fault_of_file ((mem_grouped_iff _ _ _).mp isFile) refused, ?_⟩
        simp only [apply, byFile, read]
    | ok edited =>
        have comes : EditsTo tree (grouped edit.entries) edited := forall₂_of_mapM_eq_ok read
        exact Or.inr ⟨fun error => not_fault_of_editsTo named comes, edited, comes,
          apply_of_editsTo byFile comes⟩
  · refine Or.inl ⟨error, fault_of_document member refused, ?_⟩
    simp only [apply, byFile]

end Faults

/-! ## Files afterwards -/

section Files

variable {edit : WorkspaceEdit} {tree : FileTree} {files : List (Path × String)}

theorem sameShape_writeAll
    (areFiles : ∀ file, file ∈ files → ∃ names, tree.HoldsFile [] file.1 names) :
    FileTree.SameShape tree (writeAll files tree) := by
  induction files generalizing tree with
  | nil => exact .refl tree
  | cons file files inductionHypothesis =>
      obtain ⟨names, holds⟩ := areFiles file List.mem_cons_self
      have shape := holds.sameShape_write file.2
      refine shape.trans (inductionHypothesis fun later member => ?_)
      obtain ⟨names', holds'⟩ := areFiles later (List.mem_cons_of_mem _ member)
      exact ⟨names', holds'.of_sameShape shape⟩

theorem below?_writeAll
    {names : List EntryName} {leaf : FileTree} (avoids : Avoids tree names files)
    (found : tree.below? names = some leaf) (isFile : leaf.isDirectory = false) :
    (writeAll files tree).below? names = some leaf := by
  induction files generalizing tree with
  | nil => exact found
  | cons file files inductionHypothesis =>
      obtain ⟨names', holds, different⟩ := avoids file List.mem_cons_self
      have rest : Avoids tree names files := fun file member =>
        avoids file (List.mem_cons_of_mem _ member)
      exact inductionHypothesis (rest.of_sameShape (holds.sameShape_write file.2))
        (holds.below?_write_of_ne found isFile different.symm file.2)

/-- What an edit that is applied makes of a tree.  No file comes or goes.  Each file that
the edit names holds the text that the edits for it make of its text as it was; should
paths that differ in their components lead to one file, then this goes for the last of
them in the order of paths.  A file that no path leads to is as before. -/
structure Becomes (edit : WorkspaceEdit) (tree after : FileTree) : Prop where
  shape : FileTree.SameShape tree after
  found : ∀ path edits, edit.IsTarget path edits → ∃ names, tree.HoldsFile [] path names
  edited : ∀ path edits names, edit.IsTarget path edits → tree.HoldsFile [] path names →
    (∀ path' edits', edit.IsTarget path' edits' → tree.HoldsFile [] path' names →
      path'.compare path ≠ .gt) →
    ∃ text result, tree.readText [] path = .ok text ∧
      Document.applyEdits text.toList edits = some result ∧
        after.read [] path = .ok (Text.Utf8.encode (String.ofList result))
  others : ∀ names leaf, tree.below? names = some leaf → leaf.isDirectory = false →
    (∀ path edits, edit.IsTarget path edits → ¬ tree.HoldsFile [] path names) →
    after.below? names = some leaf

theorem EditsTo.split
    {front back : FileEdits} {file : Path × List TextEdit} {edited : List (Path × String)}
    (comes : EditsTo tree (front ++ file :: back) edited) :
    ∃ front' result back', edited = front' ++ result :: back' ∧ EditsTo tree front front' ∧
      editFile tree file.1 file.2 = .ok result ∧ EditsTo tree back back' := by
  induction front generalizing edited with
  | nil =>
      cases comes with
      | cons isEdited behind => exact ⟨[], _, _, rfl, .nil, isEdited, behind⟩
  | cons first front inductionHypothesis =>
      cases comes with
      | cons isEdited behind =>
          obtain ⟨front', result, back', rfl, before, isEdited', behind'⟩ :=
            inductionHypothesis behind
          exact ⟨_ :: front', result, back', rfl, .cons isEdited before, isEdited', behind'⟩

theorem EditsTo.exists_file
    {files : FileEdits} {edited : List (Path × String)} (comes : EditsTo tree files edited)
    {result : Path × String} (member : result ∈ edited) :
    ∃ file, file ∈ files ∧ file.1 = result.1 ∧ ∃ names, tree.HoldsFile [] result.1 names := by
  induction comes with
  | nil => cases member
  | @cons file first _ _ isEdited _ inductionHypothesis =>
      rcases List.mem_cons.mp member with rfl | isLater
      · have sameName := fst_of_editFile isEdited
        exact ⟨file, List.mem_cons_self, sameName.symm,
          sameName ▸ holdsFile_of_editFile isEdited⟩
      · obtain ⟨later, isFile, rest⟩ := inductionHypothesis isLater
        exact ⟨later, List.mem_cons_of_mem _ isFile, rest⟩

/-- The last of several texts that are written to a file is the one it holds. -/
theorem read_writeAll
    {front back : List (Path × String)} {path : Path} {names : List EntryName} {text : String}
    (holds : tree.HoldsFile [] path names)
    (areFiles : ∀ file, file ∈ front → ∃ names, tree.HoldsFile [] file.1 names)
    (avoids : Avoids tree names back) :
    (writeAll (front ++ (path, text) :: back) tree).read [] path =
      .ok (Text.Utf8.encode text) := by
  have shape := sameShape_writeAll areFiles
  have holds' := holds.of_sameShape shape
  have shape' := shape.trans (holds'.sameShape_write text)
  obtain ⟨executable, below⟩ := holds'.below?_write text
  rw [writeAll_append]
  change (writeAll back ((writeAll front tree).write [] path text)).read [] path = _
  have avoids' := avoids.of_sameShape shape'
  have shape'' := sameShape_writeAll fun file member =>
    let ⟨names', holds, _⟩ := avoids' file member
    ⟨names', holds⟩
  exact ((holds.of_sameShape shape').of_sameShape shape'').read_of_below?
    (below?_writeAll avoids' below rfl)

theorem becomes_writeAll
    {edited : List (Path × String)} (comes : EditsTo tree (grouped edit.entries) edited) :
    edit.Becomes tree (writeAll edited tree) where
  shape := sameShape_writeAll fun file member =>
    let ⟨_, _, _, holds⟩ := comes.exists_file member
    holds
  found := by
    intro path edits isTarget
    obtain ⟨result, isEdited⟩ := editFile_of_editsTo comes
      ((mem_grouped_iff edit.entries path edits).mpr isTarget)
    exact holdsFile_of_editFile isEdited
  edited := by
    intro path edits names isTarget holds isLast
    obtain ⟨front, back, split⟩ := List.append_of_mem
      ((mem_grouped_iff edit.entries path edits).mpr isTarget)
    have inOrder := inOrder_grouped edit.entries
    rw [split] at comes inOrder
    obtain ⟨front', result, back', rfl, before, isEdited, behind⟩ := comes.split
    obtain ⟨text, result', read, applied, rfl⟩ := editFile_eq_ok isEdited
    refine ⟨text, result', read, applied, read_writeAll holds (fun file member => ?_) ?_⟩
    · obtain ⟨_, _, _, holds⟩ := before.exists_file member
      exact holds
    · -- a file behind this one comes later in the order of paths, so it is another file
      intro file member
      obtain ⟨later, isLater, sameName, names', holds'⟩ := behind.exists_file member
      refine ⟨names', holds', ?_⟩
      rintro rfl
      have less : path.compare later.1 = .lt :=
        (List.pairwise_cons.mp (List.pairwise_append.mp inOrder).2.1).1 later isLater
      have isTarget' := (mem_grouped_iff edit.entries later.1 later.2).mp
        (split ▸ List.mem_append_right _ (List.mem_cons_of_mem _ isLater))
      exact isLast later.1 later.2 isTarget' (sameName ▸ holds')
        (Std.OrientedCmp.gt_iff_lt.mpr less)
  others := by
    intro names leaf found isFile noTarget
    refine below?_writeAll (fun file member => ?_) found isFile
    obtain ⟨target, isTarget, sameName, names', holds⟩ := comes.exists_file member
    refine ⟨names', holds, ?_⟩
    rintro rfl
    exact noTarget target.1 target.2 ((mem_grouped_iff edit.entries target.1 target.2).mp isTarget)
      (sameName ▸ holds)

end Files

/-! ## The answer -/

/-- The edit that the parameters of a request ask for, if they can be read. -/
def requested? (params : Option Json) : Option WorkspaceEdit :=
  params.bind fun params => (decodeParams params).toOption

/-- The answer to a request with these parameters, with the files afterwards, if nothing
else goes on beside it. -/
def answer (params : Option Json) (tree : FileTree) : Option Answer × FileTree :=
  (RequestHandler.applyEdit.start params).finish tree

theorem answer_of_requested
    {params : Option Json} {edit : WorkspaceEdit} (isRequested : requested? params = some edit)
    (tree : FileTree) :
    answer params tree = (some (.ok (resultOf (edit.apply tree).1)), (edit.apply tree).2) := by
  obtain ⟨value, rfl, read⟩ := Option.bind_eq_some_iff.mp isRequested
  unfold answer RequestHandler.start RequestHandler.startEdit
  cases decoded : decodeParams value with
  | error fault =>
      rw [decoded] at read
      cases read
  | ok edit' =>
      obtain rfl : edit' = edit := by
        rw [decoded] at read
        exact Option.some.inj read
      simp only [decoded]
      exact finish_editing_start edit' tree

theorem answer_of_undecoded
    {params : Option Json} (isUndecoded : requested? params = none) (tree : FileTree) :
    ∃ fault : ResponseError, fault.code = ResponseError.invalidParamsCode ∧
      answer params tree = (some (.error fault), tree) := by
  cases params with
  | none => exact ⟨.invalidParams "missing params", rfl, rfl⟩
  | some value =>
      unfold answer RequestHandler.start RequestHandler.startEdit
      cases decoded : decodeParams value with
      | error fault =>
          simp only [decoded]
          exact ⟨.invalidParams fault.message, rfl, rfl⟩
      | ok edit =>
          rw [requested?, Option.bind_some, decoded] at isUndecoded
          cases isUndecoded

/-- What is answered to a request to apply an edit, and what becomes of the files.
Parameters that cannot be read, and an edit with any fault, change nothing; every other
edit is applied as a whole. -/
structure AllOrNothing (params : Option Json) (tree : FileTree) : Prop where
  undecoded : requested? params = none →
    ∃ fault : ResponseError, fault.code = -32602 ∧
      answer params tree = (some (.error fault), tree)
  refused : ∀ edit, requested? params = some edit → (∃ error, edit.Fault tree error) →
    ∃ error, edit.Fault tree error ∧
      answer params tree =
        (some (.ok (.ofMembers
          [("applied", .bool false), ("failureReason", .string error.message)])), tree)
  applied : ∀ edit, requested? params = some edit → (¬ ∃ error, edit.Fault tree error) →
    ∃ after, edit.Becomes tree after ∧
      answer params tree = (some (.ok (.ofMembers [("applied", .bool true)])), after)
  precedence : ∀ edit changes, requested? params = some edit →
    edit.documentChanges = some changes →
      edit.documents = changes.map ofDocumentChange ∧
        ∀ other, WorkspaceEdit.apply ⟨other, some changes⟩ tree = edit.apply tree

/-- Whatever is asked, a request to apply an edit is all or nothing. -/
theorem allOrNothing (params : Option Json) (tree : FileTree) : AllOrNothing params tree where
  undecoded := fun isUndecoded => answer_of_undecoded isUndecoded tree
  refused := by
    rintro edit isRequested ⟨fault, isFault⟩
    rcases edit.apply_cases tree with ⟨error, isFault', applied⟩ | ⟨noFault, _⟩
    · refine ⟨error, isFault', ?_⟩
      rw [answer_of_requested isRequested, applied]
      rfl
    · exact absurd isFault (noFault fault)
  applied := by
    intro edit isRequested noFault
    rcases edit.apply_cases tree with ⟨error, isFault, _⟩ | ⟨_, edited, comes, applied⟩
    · exact absurd ⟨error, isFault⟩ noFault
    · refine ⟨writeAll edited tree, becomes_writeAll comes, ?_⟩
      rw [answer_of_requested isRequested, applied]
      rfl
  precedence := by
    rintro ⟨changes, _⟩ documentChanges _ rfl
    exact ⟨rfl, fun _ => rfl⟩

/-! ## Other schemes and other paths -/

/-- The insertion of a text in the first line of a document. -/
def insertion (character : Int) (text : String) : Json :=
  let position := .ofMembers [("line", .int 0), ("character", .int character)]
  .ofMembers
    [("range", .ofMembers [("start", position), ("end", position)]), ("newText", .string text)]

/-- The parameters of a request to insert one text each in documents. -/
def insertions (documents : List (String × Int × String)) : Json :=
  let change := fun document : String × Int × String =>
    .ofMembers
      [("textDocument", .ofMembers [("uri", .string document.1)]),
        ("edits", .array [insertion document.2.1 document.2.2])]
  .ofMembers [("edit", .ofMembers [("documentChanges", .array (documents.map change))])]

/-- The file `a`, whose text is `one`, beside an empty directory `d`. -/
def besideDirectory : FileTree :=
  .directory [([0x61], .file (Text.Utf8.encode "one") false), ([0x64], .directory [])]

/-- What is answered to a request to insert texts, and the text of the file `a` then. -/
def inserted (documents : List (String × Int × String)) : Option Answer × Option String :=
  let (answer, files) := answer (some (insertions documents)) besideDirectory
  (answer, (files.readText [] (.ofString "/a")).toOption)

/-- A URI of another scheme is not refused, and of the edits under two paths to one file
only those under the later path are in the file. -/
theorem inserted_otherScheme_otherPath :
    inserted [("http://localhost/a", 0, "1")] =
        (some (.ok (.ofMembers [("applied", .bool true)])), some "1one") ∧
      inserted [("file:///a", 0, "1"), ("file:///d%2F..%2Fa", 3, "2")] =
        (some (.ok (.ofMembers [("applied", .bool true)])), some "one2") ∧
      Document.applyEdits "one".toList [⟨⟨⟨0, 0⟩, ⟨0, 0⟩⟩, "1"⟩, ⟨⟨⟨0, 3⟩, ⟨0, 3⟩⟩, "2"⟩] =
        some "1one2".toList := by
  refine ⟨by decide +kernel, by decide +kernel, by cbv⟩

end LanguageClient.WorkspaceEdit
