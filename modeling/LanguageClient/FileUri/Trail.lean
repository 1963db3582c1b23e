import LanguageClient.FileUri.Percent
import LanguageClient.FileUri.Scheme
import LanguageClient.Path

/-!
# The segments of a URI

The path of a URI is read segment by segment.  Dots are resolved on the way, and in the
URI of a file a drive letter takes a place of its own: nothing leads out of it, and at
the front of the path it stands for the host.
-/

namespace LanguageClient.FileUri

/-! ## Kinds of segments -/

/-- A drive letter: one ASCII letter and a colon or a bar. -/
def isDriveLetter : List Char → Bool
  | [letter, mark] => letter.isAlpha && (mark == ':' || mark == '|')
  | _ => false

private def dots : List (List Char) :=
  [".", "%2e", "%2E"].map String.toList

/-- A segment that stands for the directory itself. -/
def isHere (segment : List Char) : Bool :=
  dots.contains segment

def isAbove (segment : List Char) : Bool :=
  dots.any fun first => dots.any fun second => first ++ second == segment

def colonDrive (segment : List Char) : List Char :=
  segment.take 1 ++ [':']

/-- A drive letter with a colon and a break at the front of a piece, and what stands
behind them, if anything does. -/
def splitDrive? (piece : List Char) : Option (List Char × List Char) :=
  match piece.dropWhile isBreak with
  | letter :: rest =>
      match rest.dropWhile isBreak with
      | ':' :: mark :: behind =>
          let behind := dropBreaks behind
          if letter.isAlpha && isBreak mark && !behind.isEmpty then some ([letter, ':'], behind)
          else none
      | _ => none
  | [] => none

/-! ## Trails -/

/-- How far a path has been read: the segments before the last separator, the nearest
first, and whether a drive letter stands for the host. -/
structure Trail where
  segments : List (List Char)
  hasDrive : Bool
deriving DecidableEq, Repr

/-- The segments of the directory above; a drive letter is never left. -/
def parentSegments : List (List Char) → List (List Char)
  | [] => []
  | last :: before => if isDriveLetter last then last :: before else before

def Trail.add (scheme : Scheme) (trail : Trail) (segment : List Char) : Trail :=
  if isHere segment then trail
  else if isAbove segment then { trail with segments := parentSegments trail.segments }
  else if scheme == .file && trail.segments.isEmpty && isDriveLetter segment then
    ⟨[colonDrive segment], true⟩
  else { trail with segments := segment :: trail.segments }

/-- The trail behind one more piece between separators.  Breaks in it play no part, but
for one behind a drive letter at the front of a file's path: it ends a segment, and the
rest of the piece is one with no further meaning. -/
def Trail.push (scheme : Scheme) (trail : Trail) (piece : List Char) : Trail :=
  match (if scheme == .file && trail.segments.isEmpty then splitDrive? piece else none) with
  | some (drive, rest) => { trail with segments := [rest, drive] }
  | none => trail.add scheme (dropBreaks piece)

/-- The trail behind the piece at the end of a path; dots leave an empty segment. -/
def Trail.finish (scheme : Scheme) (trail : Trail) (piece : List Char) : Trail :=
  let trail := trail.push scheme piece
  let segment := dropBreaks piece
  if isHere segment || isAbove segment then { trail with segments := [] :: trail.segments }
  else trail

def Trail.ofPath (scheme : Scheme) (start : List (List Char)) (text : List Char) : Trail :=
  let pieces := text.splitOnP scheme.isSeparator
  (pieces.dropLast.foldl (Trail.push scheme) ⟨start, false⟩).finish scheme (pieces.getLastD [])

/-! ## Paths -/

/-- The segments of a file without the empty ones at their front; one is left if there
is no other. -/
def dropEmptyFront : List (List Char) → List (List Char)
  | [] :: next :: rest => dropEmptyFront (next :: rest)
  | segments => segments

/-- The bytes of a path with the given segments.  A path that ends in a letter
and a colon or a bar gets a separator at its end. -/
def pathOfSegments (segments : List (List Char)) : Path :=
  let bytes := segments.flatMap fun segment => Path.separator :: decodeText segment
  match bytes.reverse with
  | mark :: letter :: _ :: _ =>
      if (mark == 0x3A || mark == 0x7C) && (Char.ofNat letter.toNat).isAlpha
          && letter < 0x80 then
        ⟨bytes ++ [Path.separator]⟩
      else ⟨bytes⟩
  | _ => ⟨bytes⟩

def Trail.path (scheme : Scheme) (trail : Trail) : Path :=
  let segments := trail.segments.reverse
  pathOfSegments (if scheme == .file then dropEmptyFront segments else segments)

end LanguageClient.FileUri
