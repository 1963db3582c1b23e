import LanguageClient.Text.Utf8

/-!
# Paths

A path is any sequence of bytes.  Two paths name the same place when their
components agree: repeated separators, a separator at the end and `.` behind the
first place play no part.
-/

namespace LanguageClient

structure Path where
  bytes : List UInt8
deriving DecidableEq, Repr

inductive Path.Component where
  | root
  | current
  | parent
  | name (bytes : List UInt8)
deriving DecidableEq, Repr

namespace Path

def separator : UInt8 := 0x2F

def dot : UInt8 := 0x2E

def ofString (text : String) : Path := ⟨Text.Utf8.encode text⟩

def display (path : Path) : String := Text.Utf8.decodeLossy path.bytes

def isAbsolute (path : Path) : Bool := path.bytes.head? = some separator

def pieces (path : Path) : List (List UInt8) :=
  path.bytes.splitOn separator

/-- The component of a piece that is neither empty nor a dot. -/
def Component.ofPiece (piece : List UInt8) : Component :=
  if piece = [dot, dot] then .parent else .name piece

def components (path : Path) : List Component :=
  let steps := (path.pieces.filter fun piece => piece ≠ [] && piece ≠ [dot]).map .ofPiece
  if path.isAbsolute then .root :: steps
  else if path.pieces.head? = some [dot] then .current :: steps
  else steps

def Component.bytes : Component → List UInt8
  | .root => [separator]
  | .current => [dot]
  | .parent => [dot, dot]
  | .name bytes => bytes

def ofNames (names : List (List UInt8)) : Path :=
  if names.isEmpty then ⟨[separator]⟩
  else ⟨names.flatMap fun name => separator :: name⟩

/-! ## Order -/

def compareBytes : List UInt8 → List UInt8 → Ordering
  | [], [] => .eq
  | [], _ :: _ => .lt
  | _ :: _, [] => .gt
  | x :: xs, y :: ys => if x < y then .lt else if y < x then .gt else compareBytes xs ys

/-- The root comes first, then `.`, then `..`, then names in dictionary order. -/
def Component.compare : Component → Component → Ordering
  | .root, .root | .current, .current | .parent, .parent => .eq
  | .root, _ => .lt
  | _, .root => .gt
  | .current, _ => .lt
  | _, .current => .gt
  | .parent, _ => .lt
  | _, .parent => .gt
  | .name x, .name y => compareBytes x y

/-- Component sequences in dictionary order. -/
def compareComponents : List Component → List Component → Ordering
  | [], [] => .eq
  | [], _ :: _ => .lt
  | _ :: _, [] => .gt
  | x :: xs, y :: ys => (x.compare y).then (compareComponents xs ys)

def compare (x y : Path) : Ordering :=
  compareComponents x.components y.components

/-! ## Names -/

def fileName? (path : Path) : Option (List UInt8) :=
  match path.components.getLast? with
  | some (.name bytes) => some bytes
  | _ => none

/-- A name split at its last dot, unless that is its first byte. -/
def splitName (name : List UInt8) : List UInt8 × Option (List UInt8) :=
  let after := (name.reverse.takeWhile (· != dot)).reverse
  let before := (name.reverse.dropWhile (· != dot)).tail.reverse
  if after.length = name.length || before.isEmpty then (name, none)
  else (before, some after)

/-- The name at the end without its extension. -/
def fileStem? (path : Path) : Option (List UInt8) :=
  path.fileName?.map fun name => (splitName name).1

/-- The extension of the name at the end, without the dot. -/
def extension? (path : Path) : Option (List UInt8) :=
  path.fileName?.bind fun name => (splitName name).2

/-- A path below this one; an absolute path stays as it is. -/
def join (path : Path) (below : Path) : Path :=
  if below.isAbsolute then below
  else if path.bytes.isEmpty || path.bytes.getLast? = some separator then
    ⟨path.bytes ++ below.bytes⟩
  else ⟨path.bytes ++ separator :: below.bytes⟩

end Path

end LanguageClient
