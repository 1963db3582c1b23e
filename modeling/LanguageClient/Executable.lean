import LanguageClient.FileTree

/-!
# Executables

Where the executable of a command is found: a command that is a path of several
components names a file, any other is looked for in the directories of the search
path.
-/

namespace LanguageClient

/-- What a program finds around it. -/
structure Surroundings where
  files : FileTree
  /-- The directory it works in. -/
  directory : List EntryName
  /-- The directories in which executables are looked for. -/
  searchPath : List Path

namespace FileTree

def isExecutable : FileTree → Bool
  | .file _ executable => executable
  | .program => true
  | .directory _ => false

end FileTree

namespace Surroundings

def currentPath (surroundings : Surroundings) : Path :=
  .ofNames surroundings.directory

/-- The path of a file seen from the root.  A relative path loses what its
components do not count. -/
def absolute (surroundings : Surroundings) (path : Path) : Path :=
  if path.isAbsolute then path
  else
    (path.components.dropWhile (· = .current)).foldl
      (fun above component => above.join ⟨component.bytes⟩) surroundings.currentPath

def candidates (surroundings : Surroundings) (command : String) : List Path :=
  let path := Path.ofString command
  if 1 < path.components.length then [surroundings.absolute path]
  else surroundings.searchPath.map (·.join path)

def isExecutable (surroundings : Surroundings) (path : Path) : Bool :=
  match surroundings.files.locate surroundings.directory path with
  | .ok place => place.tree.isExecutable
  | .error _ => false

/-- The executable of a command: the first of its candidates that may be
executed. -/
def executable? (surroundings : Surroundings) (command : String) : Option Path :=
  (surroundings.candidates command).find? surroundings.isExecutable

end Surroundings

end LanguageClient
