import LanguageClient.Handler.Request
import LanguageClient.Proofs.Files.Place
import LanguageClient.Proofs.Sequence

/-!
# Edits one at a time

What an edit does if nothing else goes on beside it, and what replacing its files
changes for those that other edits have read or are still to replace.
-/

namespace LanguageClient.WorkspaceEdit

/-! ## Reading -/

/-- Whether files, read in a tree and edited, come to these texts. -/
def EditsTo (tree : FileTree) : FileEdits → List (Path × String) → Prop :=
  List.Forall₂ fun file edited => editFile tree file.1 file.2 = .ok edited

section Reading

variable {tree tree' : FileTree} {path : Path} {edits : List TextEdit} {edited : Path × String}

theorem editFile_eq_ok (isEdited : editFile tree path edits = .ok edited) :
    ∃ text result, tree.readText [] path = .ok text ∧
      Document.applyEdits text.toList edits = some result ∧
        edited = (path, String.ofList result) := by
  unfold editFile at isEdited
  split at isEdited
  · cases isEdited
  · rename_i text read
    split at isEdited
    · rename_i result applied
      injection isEdited with same
      exact ⟨text, result, read, applied, same.symm⟩
    · cases isEdited

theorem fst_of_editFile (isEdited : editFile tree path edits = .ok edited) : edited.1 = path := by
  obtain ⟨_, _, _, _, rfl⟩ := editFile_eq_ok isEdited
  rfl

theorem holdsFile_of_editFile (isEdited : editFile tree path edits = .ok edited) :
    ∃ names, tree.HoldsFile [] path names := by
  obtain ⟨_, _, read, _⟩ := editFile_eq_ok isEdited
  exact FileTree.holdsFile_of_readText read

theorem editFile_congr
    (same : tree'.readText [] path = tree.readText [] path) (edits : List TextEdit) :
    editFile tree' path edits = editFile tree path edits := by
  unfold editFile
  rw [same]

theorem EditsTo.mapM_editFile
    {files : FileEdits} {edited : List (Path × String)} (comes : EditsTo tree files edited) :
    (files.mapM fun file => editFile tree file.1 file.2) = .ok edited :=
  mapM_eq_ok_iff.mpr comes

end Reading

/-! ## Writing -/

/-- Replaces files one after the other. -/
def writeAll (files : List (Path × String)) (tree : FileTree) : FileTree :=
  files.foldl (fun tree file => tree.write [] file.1 file.2) tree

theorem writeAll_append
    (first second : List (Path × String)) (tree : FileTree) :
    writeAll (first ++ second) tree = writeAll second (writeAll first tree) :=
  List.foldl_append

def Avoids (tree : FileTree) (names : List EntryName) (files : List (Path × String)) : Prop :=
  ∀ file, file ∈ files → ∃ names', tree.HoldsFile [] file.1 names' ∧ names' ≠ names

section Writing

variable {tree tree' : FileTree} {path : Path} {names : List EntryName}
  {files : List (Path × String)}

theorem Avoids.of_sameShape
    (avoids : Avoids tree names files) (shape : FileTree.SameShape tree tree') :
    Avoids tree' names files := by
  intro file member
  obtain ⟨names', holds, different⟩ := avoids file member
  exact ⟨names', holds.of_sameShape shape, different⟩

/-- A file may be replaced before others or behind them. -/
theorem writeAll_write
    (holds : tree.HoldsFile [] path names) (avoids : Avoids tree names files) (text : String) :
    (writeAll files tree).write [] path text = writeAll files (tree.write [] path text) := by
  induction files generalizing tree with
  | nil => rfl
  | cons file files inductionHypothesis =>
      obtain ⟨names', holds', different⟩ := avoids file (List.mem_cons_self ..)
      have rest : Avoids tree names files := fun file member =>
        avoids file (List.mem_cons_of_mem _ member)
      have shape := holds'.sameShape_write file.2
      have behind := inductionHypothesis (holds.of_sameShape shape) (rest.of_sameShape shape)
      simp only [writeAll, List.foldl_cons] at behind ⊢
      rw [behind, holds'.write_comm holds (Ne.symm different)]

/-- Replacing other files leaves what a file is edited to. -/
theorem editFile_writeAll
    (holds : tree.HoldsFile [] path names) (avoids : Avoids tree names files)
    (edits : List TextEdit) :
    editFile (writeAll files tree) path edits = editFile tree path edits := by
  induction files generalizing tree with
  | nil => rfl
  | cons file files inductionHypothesis =>
      obtain ⟨names', holds', different⟩ := avoids file (List.mem_cons_self ..)
      have rest : Avoids tree names files := fun file member =>
        avoids file (List.mem_cons_of_mem _ member)
      have shape := holds'.sameShape_write file.2
      have first := holds'.readText_write_of_ne holds (Ne.symm different) file.2
      have behind := inductionHypothesis (holds.of_sameShape shape) (rest.of_sameShape shape)
      exact behind.trans (editFile_congr first edits)

end Writing

/-! ## Without a pause -/

/-- Files that are there can all be replaced. -/
theorem replaceFiles_of_holdsFile
    {files : List (Path × String)} {tree : FileTree}
    (there : ∀ file, file ∈ files → ∃ names, tree.HoldsFile [] file.1 names) :
    replaceFiles files tree = (.ok (), writeAll files tree) := by
  induction files generalizing tree with
  | nil => rfl
  | cons file files inductionHypothesis =>
      obtain ⟨names, holds⟩ := there file (List.mem_cons_self ..)
      unfold replaceFiles
      rw [holds.replace_eq_ok]
      apply inductionHypothesis
      intro other member
      obtain ⟨names', holds'⟩ := there other (List.mem_cons_of_mem _ member)
      exact ⟨names', holds'.of_sameShape (holds.sameShape_write file.2)⟩

theorem EditsTo.holdsFile
    {tree : FileTree} {files : FileEdits} {edited : List (Path × String)}
    (comes : EditsTo tree files edited) {file : Path × String} (member : file ∈ edited) :
    ∃ names, tree.HoldsFile [] file.1 names := by
  induction comes with
  | nil => cases member
  | cons isEdited _ inductionHypothesis =>
      rcases List.mem_cons.mp member with rfl | member
      · rw [fst_of_editFile isEdited]
        exact holdsFile_of_editFile isEdited
      · exact inductionHypothesis member

theorem apply_of_editsTo
    {edit : WorkspaceEdit} {files : FileEdits} {edited : List (Path × String)} {tree : FileTree}
    (byFile : edit.byFile = .ok files) (comes : EditsTo tree files edited) :
    edit.apply tree = (.ok edited.length, writeAll edited tree) := by
  have read := comes.mapM_editFile
  unfold apply
  rw [byFile]
  simp only [read, replaceFiles_of_holdsFile fun _ => comes.holdsFile]
  rfl

namespace Progress

/-- A step that has not come to the outcome yet leaves less to do. -/
theorem remaining_step_lt
    {progress : Progress} (underWay : progress.outcome? = none) (room : Option Nat)
    (tree : FileTree) : (progress.step room tree).1.remaining < progress.remaining := by
  cases progress with
  | finished outcome => cases underWay
  | writing left written =>
      cases left with
      | nil => simp [step, remaining]
      | cons file left =>
          simp only [step]
          split <;> simp [remaining]
  | reading left edited =>
      cases left with
      | nil =>
          simp only [step, remaining, List.length_nil]
          omega
      | cons file left =>
          simp only [step]
          split
          · simp only [remaining, List.length_append, List.length_cons, List.length_nil]
            omega
          · simp [remaining]

theorem run_succ (fuel : Nat) (tree : FileTree) (progress : Progress) :
    run (fuel + 1) tree progress =
      run fuel (progress.step none tree).2 (progress.step none tree).1 :=
  rfl

theorem run_finished
    (fuel : Nat) (tree : FileTree) (outcome : Except EditError Nat) :
    run fuel tree (.finished outcome) = (.finished outcome, tree) := by
  induction fuel with
  | zero => rfl
  | succ fuel inductionHypothesis => exact inductionHypothesis

theorem run_writing
    (left : List (Path × String)) (written : Nat) (tree : FileTree) :
    run (left.length + 1) tree (.writing left written) =
      (.finished ((replaceFiles left tree).1.map fun () => written + left.length),
        (replaceFiles left tree).2) := by
  induction left generalizing written tree with
  | nil => rfl
  | cons file left inductionHypothesis =>
      rw [List.length_cons, run_succ]
      cases replaced : tree.replace none [] file.1 file.2 with
      | error error =>
          simp only [step, replaceFiles, replaced]
          exact run_finished _ tree _
      | ok after =>
          have behind := inductionHypothesis (written + 1) after
          rw [Nat.add_right_comm, Nat.add_assoc] at behind
          simp only [step, replaceFiles, replaced]
          exact behind

theorem run_reading
    (left : FileEdits) (edited : List (Path × String)) (tree : FileTree) :
    run (2 * left.length + edited.length + 2) tree (.reading left edited) =
      match left.mapM fun file => editFile tree file.1 file.2 with
      | .error error => (.finished (.error error), tree)
      | .ok more =>
          (.finished ((replaceFiles (edited ++ more) tree).1.map fun () => (edited ++ more).length),
            (replaceFiles (edited ++ more) tree).2) := by
  induction left generalizing edited with
  | nil =>
      have behind := run_writing edited 0 tree
      rw [Nat.zero_add] at behind
      rw [List.length_nil, Nat.mul_zero, Nat.zero_add, run_succ, List.mapM_nil]
      simp only [step, behind, pure, Except.pure, List.append_nil]
  | cons file left inductionHypothesis =>
      have fuelEq : 2 * (file :: left).length + edited.length + 2 =
          (2 * left.length + edited.length + 3) + 1 := by
        simp only [List.length_cons]
        omega
      rw [fuelEq, List.mapM_cons, run_succ]
      cases isEdited : editFile tree file.1 file.2 with
      | error error =>
          simp only [step, isEdited]
          exact run_finished _ tree (.error error)
      | ok first =>
          have behind := inductionHypothesis (edited ++ [first])
          rw [List.length_append, List.length_singleton,
            show 2 * left.length + (edited.length + 1) + 2 = 2 * left.length + edited.length + 3 by
              omega] at behind
          simp only [step, isEdited, behind]
          cases left.mapM fun file => editFile tree file.1 file.2 with
          | error error => rfl
          | ok more =>
              simp only [List.append_assoc]
              rfl

end Progress

/-- The steps of an edit that nothing comes between apply it. -/
theorem finish_editing_start
    (edit : WorkspaceEdit) (tree : FileTree) :
    (RequestWork.editing (.start edit)).finish tree =
      (some (.ok (resultOf (edit.apply tree).1)), (edit.apply tree).2) := by
  unfold RequestWork.finish Progress.start apply
  cases byFile : edit.byFile with
  | error error => rfl
  | ok files =>
      have ran := Progress.run_reading files [] tree
      simp only [Progress.remaining, ran]
      cases files.mapM fun file => editFile tree file.1 file.2 with
      | error error => rfl
      | ok edited => rfl

end LanguageClient.WorkspaceEdit
