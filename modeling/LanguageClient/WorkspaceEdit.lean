import LanguageClient.FileTree
import LanguageClient.FileUri.Basic
import LanguageClient.TextEdit

/-!
# Workspace edits

An edit of several files.  Every file is read and edited before the first is
replaced, so that an edit that cannot be applied changes nothing; but if a file cannot be
replaced, those before it have been.  The reads and the replacements are steps of their
own, since those of several edits may alternate.
-/

namespace LanguageClient

/-- An edit of several files, in one of two forms.  The members of the first form
are in the order of their URIs. -/
structure WorkspaceEdit where
  changes : Option (List (String × List TextEdit))
  documentChanges : Option (List Json)
deriving DecidableEq

/-- Why a workspace edit is refused, or is given up when some of its files have been
replaced. -/
inductive EditError where
  | unsupportedOperation (kind : String)
  | invalidUri (uri : String)
  | malformed (error : Json.DecodeError)
  | overlapping (path : Path)
  | unreadable (path : Path) (error : FileError)
  | unwritable (path : Path) (error : FileError)
deriving DecidableEq

def EditError.message : EditError → String
  | .unsupportedOperation kind => s!"resource operation `{kind}` is not supported"
  | .invalidUri uri => s!"not a file URI: {uri}"
  | .malformed error => s!"malformed document change: {error.message}"
  | .overlapping path => s!"overlapping edits in {path.display}"
  | .unreadable path error => s!"failed to read {path.display}: {error.message}"
  | .unwritable path error => s!"failed to write {path.display}: {error.message}"

structure DocumentEdits where
  uri : String
  edits : List TextEdit
deriving DecidableEq

def DocumentEdits.decode : Json.Decoder DocumentEdits :=
  Json.decodeRecord2 "TextDocumentEdit"
    (.required "textDocument"
      (Json.decodeRecord1 "VersionedDocument" (.required "uri" Json.decodeString) id))
    (.required "edits" (Json.decodeList TextEdit.decode)) .mk

namespace WorkspaceEdit

def decode : Json.Decoder WorkspaceEdit :=
  Json.decodeRecord2 "WorkspaceEdit"
    (.optional "changes" (Json.decodeMap (Json.decodeList TextEdit.decode)))
    (.optional "documentChanges" (Json.decodeList Json.decodeAny)) .mk

/-- Reads the edit from the parameters of a request to apply it. -/
def decodeParams : Json.Decoder WorkspaceEdit :=
  Json.decodeRecord2 "ApplyWorkspaceEditParams" (.optional "label" Json.decodeString)
    (.required "edit" decode) fun _ edit => edit

/-! ## Edits by file -/

/-- The edits of each file, in the order of the paths. -/
abbrev FileEdits := List (Path × List TextEdit)

/-- Adds edits of a file behind those it has.  A file keeps the path it was first
named by. -/
def FileEdits.add (path : Path) (edits : List TextEdit) : FileEdits → FileEdits
  | [] => [(path, edits)]
  | (path', edits') :: rest =>
      match path.compare path' with
      | .lt => (path, edits) :: (path', edits') :: rest
      | .eq => (path', edits' ++ edits) :: rest
      | .gt => (path', edits') :: add path edits rest

def target (uri : String) : Except EditError Path :=
  match FileUri.toPath? uri with
  | some path => .ok path
  | none => .error (.invalidUri uri)

/-- The edits of one document change.  A change with a kind is an operation on a
file as a whole, which is refused. -/
def ofDocumentChange (change : Json) : Except EditError DocumentEdits :=
  match (change.member? "kind").bind Json.string? with
  | some kind => .error (.unsupportedOperation kind)
  | none =>
      match DocumentEdits.decode change with
      | .ok edits => .ok edits
      | .error error => .error (.malformed error)

def addDocument (files : FileEdits) (document : DocumentEdits) : Except EditError FileEdits := do
  let path ← target document.uri
  return files.add path document.edits

/-- The edits of each file.  Where both forms are given, the document changes
count. -/
def byFile (edit : WorkspaceEdit) : Except EditError FileEdits :=
  match edit.documentChanges, edit.changes with
  | some changes, _ =>
      changes.foldlM (fun files change => do addDocument files (← ofDocumentChange change)) []
  | none, some changes =>
      changes.foldlM (fun files (uri, edits) => addDocument files ⟨uri, edits⟩) []
  | none, none => .ok []

/-! ## Application -/

def editFile (tree : FileTree) (path : Path) (edits : List TextEdit) :
    Except EditError (Path × String) :=
  match tree.readText [] path with
  | .error error => .error (.unreadable path error)
  | .ok text =>
      match Document.applyEdits text.toList edits with
      | some edited => .ok (path, String.ofList edited)
      | none => .error (.overlapping path)

/-- An edit on its way: the files still to be read with those that were edited, the files
still to be replaced with the number of those that were, or the outcome, which is the
number of files. -/
inductive Progress where
  | reading (left : FileEdits) (edited : List (Path × String))
  | writing (left : List (Path × String)) (written : Nat)
  | finished (outcome : Except EditError Nat)

namespace Progress

def start (edit : WorkspaceEdit) : Progress :=
  match edit.byFile with
  | .ok files => .reading files []
  | .error error => .finished (.error error)

/-- One step: a file is read or replaced, or a stage ends.  A file can be replaced if there
is room for its text. -/
def step (room : Option Nat) (tree : FileTree) : Progress → Progress × FileTree
  | .reading [] edited => (.writing edited 0, tree)
  | .reading ((path, edits) :: left) edited =>
      match editFile tree path edits with
      | .ok file => (.reading left (edited ++ [file]), tree)
      | .error error => (.finished (.error error), tree)
  | .writing [] written => (.finished (.ok written), tree)
  | .writing ((path, text) :: left) written =>
      match tree.replace room [] path text with
      | .ok tree => (.writing left (written + 1), tree)
      | .error error => (.finished (.error (.unwritable path error)), tree)
  | .finished outcome => (.finished outcome, tree)

def outcome? : Progress → Option (Except EditError Nat)
  | .finished outcome => some outcome
  | _ => none

end Progress

/-- Replaces files one after the other, up to the first that cannot be replaced. -/
def replaceFiles : List (Path × String) → FileTree → Except EditError Unit × FileTree
  | [], tree => (.ok (), tree)
  | (path, text) :: files, tree =>
      match tree.replace none [] path text with
      | .ok tree => replaceFiles files tree
      | .error error => (.error (.unwritable path error), tree)

/-- Applies an edit without a pause, with room for all files: the outcome and the files
afterwards. -/
def apply (edit : WorkspaceEdit) (tree : FileTree) : Except EditError Nat × FileTree :=
  match edit.byFile with
  | .error error => (.error error, tree)
  | .ok files =>
      match files.mapM fun (path, edits) => editFile tree path edits with
      | .error error => (.error error, tree)
      | .ok edited =>
          let (outcome, tree) := replaceFiles edited tree
          (outcome.map fun () => edited.length, tree)

def resultOf : Except EditError Nat → Json
  | .ok _ => .ofMembers [("applied", .bool true)]
  | .error error =>
      .ofMembers [("applied", .bool false), ("failureReason", .string error.message)]

end WorkspaceEdit

end LanguageClient
