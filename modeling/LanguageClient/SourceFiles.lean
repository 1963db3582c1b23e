import LanguageClient.IgnoreFile

/-!
# Source files of a workspace

The files that are opened to make a server load a project: the first of the files
below a directory in the order of their paths, without those in directories of
dependencies and those that are ignored.
-/

namespace LanguageClient

namespace FileTree

mutual

/-- The names of the regular files below a tree, directory by directory in the
order of names.  An entry that is pruned is left out with all that is below it. -/
def walk (prune : List EntryName → Bool → Bool) (names : List EntryName) :
    FileTree → List (List EntryName)
  | .file _ _ => [names]
  | .program => []
  | .directory entries =>
      let found := walkEntries prune names entries
      (found.mergeSort fun a b => Path.compareBytes a.1 b.1 != .gt).flatMap Prod.snd

def walkEntries (prune : List EntryName → Bool → Bool) (names : List EntryName) :
    List (EntryName × FileTree) → List (EntryName × List (List EntryName))
  | [] => []
  | (name, entry) :: rest =>
      let below :=
        if prune (names ++ [name]) entry.isDirectory then []
        else walk prune (names ++ [name]) entry
      (name, below) :: walkEntries prune names rest

end

end FileTree

namespace SourceFiles

def excludedNames : List EntryName :=
  [".git", "node_modules", "dist", "build"].map Text.Utf8.encode

def extensions : List (List UInt8) :=
  ["ts", "tsx", "js", "jsx"].map Text.Utf8.encode

/-- The number of files that are opened at most. -/
def limit : Nat := 10

/-- Whether an entry is left out, by the rules for those that are ignored or by its name. -/
def isPruned (ignored : List EntryName → Bool → Bool) (names : List EntryName)
    (isDirectory : Bool) : Bool :=
  ignored names isDirectory || names.getLast?.any excludedNames.contains

def hasExtension (extensions : List (List UInt8)) (path : Path) : Bool :=
  path.extension?.any extensions.contains

/-- The path of names below the path of a workspace, whose own names are the first ones. -/
def pathBelow (workspace : Path) (depth : Nat) (names : List EntryName) : Path :=
  match names.drop depth with
  | [] => workspace
  | below => workspace.join ⟨IgnoreFile.pathBytes below⟩

def firstFiles (ignored : List EntryName → Bool → Bool) (extensions : List (List UInt8))
    (limit : Nat) (tree : FileTree) (current : List EntryName) (workspace : Path) : List Path :=
  match tree.locate current workspace with
  | .error _ => []
  | .ok place =>
      let found := place.tree.walk (isPruned ignored) place.names
      let paths := found.map (pathBelow workspace place.names.length)
      (paths.filter (hasExtension extensions)).take limit

def find (tree : FileTree) (current : List EntryName) (workspace : Path) : List Path :=
  firstFiles (IgnoreFile.isIgnored tree current) extensions limit tree current workspace

end SourceFiles

end LanguageClient
