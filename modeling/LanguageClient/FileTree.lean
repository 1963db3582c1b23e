import LanguageClient.Path

/-!
# File trees

Directories and files as values, with the operations of a file system that the
client needs and the errors they end in.
-/

namespace LanguageClient

abbrev EntryName := List UInt8

/-- A file, a link to a program outside the tree, or a directory with its entries
in the order in which they are listed. -/
inductive FileTree where
  | file (content : List UInt8) (executable : Bool)
  | program
  | directory (entries : List (EntryName × FileTree))
deriving Inhabited

inductive FileError where
  | notFound
  | execFormat
  | notDirectory
  | isDirectory
  | noSpace
  | nameTooLong
  | nulByte
  /-- The same in the arguments of a command. -/
  | nulByteInArgument
  | notUtf8
deriving DecidableEq, Repr

def FileError.message : FileError → String
  | .notFound => "No such file or directory (os error 2)"
  | .execFormat => "Exec format error (os error 8)"
  | .notDirectory => "Not a directory (os error 20)"
  | .isDirectory => "Is a directory (os error 21)"
  | .noSpace => "No space left on device (os error 28)"
  | .nameTooLong => "File name too long (os error 36)"
  | .nulByte => "file name contained an unexpected NUL byte"
  | .nulByteInArgument => "nul byte found in provided data"
  | .notUtf8 => "stream did not contain valid UTF-8"

namespace FileTree

def greatestName : Nat := 255

def greatestPath : Nat := 4095

/-- The tree without entries. -/
def empty : FileTree := .directory []

def isDirectory : FileTree → Bool
  | .directory _ => true
  | _ => false

/-- The entries of a directory; nothing else has any. -/
def entries : FileTree → List (EntryName × FileTree)
  | .directory entries => entries
  | _ => []

def child? (name : EntryName) (tree : FileTree) : Option FileTree :=
  (tree.entries.find? fun entry => entry.1 = name).map Prod.snd

def below? : List EntryName → FileTree → Option FileTree
  | [], tree => some tree
  | name :: rest, tree => (tree.child? name).bind (below? rest)

/-! ## Resolving paths -/

/-- A place in a tree: the names that lead to it, the nearest first, with the
directories they were found in. -/
structure Place where
  tree : FileTree
  above : List (EntryName × FileTree)

def Place.names (place : Place) : List EntryName :=
  (place.above.map Prod.fst).reverse

/-- The place one step on.  Every step starts from a directory; the directory
above the root is the root. -/
def Place.step (place : Place) (piece : List UInt8) : Except FileError Place :=
  match place.tree with
  | .directory _ =>
      if piece = [] || piece = [Path.dot] then .ok place
      else if piece = [Path.dot, Path.dot] then
        match place.above with
        | [] => .ok place
        | (_, parent) :: above => .ok ⟨parent, above⟩
      else if greatestName < piece.length then .error .nameTooLong
      else
        match place.tree.child? piece with
        | some entry => .ok ⟨entry, (piece, place.tree) :: place.above⟩
        | none => .error .notFound
  | _ => .error .notDirectory

/-- The place that some names lead to, one after the other. -/
def Place.follow (place : Place) (pieces : List (List UInt8)) : Except FileError Place :=
  pieces.foldlM Place.step place

def rootPlace (tree : FileTree) : Place := ⟨tree, []⟩

/-- The place of a path, which is taken from the given directory if it does not
start at the root. -/
def locate (tree : FileTree) (current : List EntryName) (path : Path) :
    Except FileError Place :=
  if path.bytes.contains 0 then .error .nulByte
  else if path.bytes.isEmpty then .error .notFound
  else if greatestPath < path.bytes.length then .error .nameTooLong
  else if path.isAbsolute then tree.rootPlace.follow (path.pieces.drop 1)
  else do
    let start ← tree.rootPlace.follow current
    start.follow path.pieces

/-! ## Reading -/

def read (tree : FileTree) (current : List EntryName) (path : Path) :
    Except FileError (List UInt8) :=
  match tree.locate current path with
  | .error error => .error error
  | .ok place =>
      match place.tree with
      | .file content _ => .ok content
      | .program => .ok []
      | .directory _ => .error .isDirectory

def readText (tree : FileTree) (current : List EntryName) (path : Path) :
    Except FileError String :=
  match tree.read current path with
  | .error error => .error error
  | .ok bytes =>
      match Text.Utf8.decode? bytes with
      | some text => .ok text
      | none => .error .notUtf8

/-! ## Writing -/

def putEntry (name : EntryName) (new : FileTree) :
    List (EntryName × FileTree) → List (EntryName × FileTree)
  | [] => [(name, new)]
  | (other, entry) :: entries =>
      if other = name then (other, new) :: entries
      else (other, entry) :: putEntry name new entries

/-- Puts an entry below a sequence of names; directories on the way that are not
there are made. -/
def insert : List EntryName → FileTree → FileTree → FileTree
  | [], _, new => new
  | name :: rest, tree, new =>
      .directory (putEntry name (insert rest ((tree.child? name).getD empty) new) tree.entries)

/-- Takes away the entry below a sequence of names. -/
def erase : List EntryName → FileTree → FileTree
  | [name], .directory entries => .directory (entries.filter fun entry => entry.1 ≠ name)
  | name :: rest, .directory entries =>
      .directory (entries.map fun entry =>
        if entry.1 = name then (entry.1, erase rest entry.2) else entry)
  | _, tree => tree

/-- The names of a file that is to come to be at a path: the path ends in its name,
and its directory is there. -/
def newFileNames (tree : FileTree) (current : List EntryName) (path : Path) :
    Except FileError (List EntryName) :=
  match path.pieces.getLast? with
  | none | some [] => .error .isDirectory
  | some name =>
      if name = [Path.dot] || name = [Path.dot, Path.dot] then .error .notFound
      else do
        let above := path.bytes.take (path.bytes.length - name.length)
        let place ← tree.locate current ⟨above ++ [Path.dot]⟩
        return place.names ++ [name]

/-- The names of the file at a path that is to be replaced, and whether the new one may be
executed: a file that is there passes its permissions on, one that is not comes to be if its
directory is there. -/
def replacement (tree : FileTree) (current : List EntryName) (path : Path) :
    Except FileError (List EntryName × Bool) :=
  match tree.locate current path with
  | .ok place =>
      match place.tree with
      | .file _ executable => .ok (place.names, executable)
      | .program => .ok (place.names, true)
      | .directory _ => .error .isDirectory
  | .error .notFound => (tree.newFileNames current path).map fun names => (names, false)
  | .error error => .error error

/-- Puts a text in the place of the file at a path.  A new file is written first, which needs
room for more than the bytes of the text, since it has an entry of its own; without a bound
there always is enough.  If something fails the old file stays. -/
def replace (tree : FileTree) (room : Option Nat) (current : List EntryName) (path : Path)
    (text : String) : Except FileError FileTree :=
  let content := Text.Utf8.encode text
  match tree.replacement current path with
  | .error error => .error error
  | .ok (names, executable) =>
      if room.any (· ≤ content.length) then .error .noSpace
      else .ok (tree.insert names (.file content executable))

/-- Opens the file at a path to add to it; one that is not there comes to be. -/
def openForAppending (tree : FileTree) (current : List EntryName) (path : Path) :
    Except FileError FileTree :=
  match tree.locate current path with
  | .ok place => if place.tree.isDirectory then .error .isDirectory else .ok tree
  | .error .notFound =>
      (tree.newFileNames current path).map fun names => tree.insert names (.file [] false)
  | .error error => .error error

/-- Takes the file at a path away; tells whether there was one. -/
def remove (tree : FileTree) (current : List EntryName) (path : Path) : Bool × FileTree :=
  match tree.locate current path with
  | .ok place =>
      match place.tree with
      | .directory _ => (false, tree)
      | _ => (true, tree.erase place.names)
  | .error _ => (false, tree)

/-! ## Listing -/

mutual

def files (names : List EntryName) : FileTree → List (List EntryName × List UInt8)
  | .file content _ => [(names, content)]
  | .program => []
  | .directory entries => filesOfEntries names entries

def filesOfEntries (names : List EntryName) :
    List (EntryName × FileTree) → List (List EntryName × List UInt8)
  | [] => []
  | (name, entry) :: rest => files (names ++ [name]) entry ++ filesOfEntries names rest

end

end FileTree

end LanguageClient
