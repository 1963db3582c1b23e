/-!
# Globs

Patterns of paths below a directory.  A path is a sequence of bytes, and a single
star or question mark does not match the separator.
-/

namespace LanguageClient

inductive GlobToken where
  | literal (value : UInt8)
  /-- One byte other than the separator. -/
  | anyByte
  /-- Bytes other than the separator. -/
  | star
  /-- One byte in one of the ranges, or in none of them. -/
  | byteClass (negated : Bool) (ranges : List (UInt8 × UInt8))
  /-- Any directories in front of the rest, or none. -/
  | leadingDirectories
  /-- A separator, or two of them with anything in between. -/
  | innerDirectories
  /-- A separator and anything behind it. -/
  | everythingBelow
  /-- One of several sequences; nothing at all if there is none. -/
  | alternatives (branches : List (List GlobToken))
deriving Repr, Inhabited

namespace GlobToken

def separator : UInt8 := 0x2F

def matchStar (rest : List UInt8 → Bool) : List UInt8 → Bool
  | [] => rest []
  | byte :: bytes => rest (byte :: bytes) || (byte ≠ separator && matchStar rest bytes)

def matchBehindSeparator (rest : List UInt8 → Bool) : List UInt8 → Bool
  | [] => false
  | byte :: bytes => (byte = separator && rest bytes) || matchBehindSeparator rest bytes

def matchAnywhere (rest : List UInt8 → Bool) : List UInt8 → Bool
  | [] => rest []
  | byte :: bytes => rest (byte :: bytes) || matchAnywhere rest bytes

mutual

def matchToken (rest : List UInt8 → Bool) : GlobToken → List UInt8 → Bool
  | .literal value, bytes =>
      match bytes with
      | first :: bytes => first = value && rest bytes
      | [] => false
  | .anyByte, bytes =>
      match bytes with
      | first :: bytes => first ≠ separator && rest bytes
      | [] => false
  | .star, bytes => matchStar rest bytes
  | .byteClass negated ranges, bytes =>
      match bytes with
      | first :: bytes =>
          (ranges.any fun (least, greatest) => least ≤ first && first ≤ greatest) ≠ negated
            && rest bytes
      | [] => false
  | .leadingDirectories, bytes => rest bytes || matchBehindSeparator rest bytes
  | .innerDirectories, bytes =>
      match bytes with
      | first :: bytes => first = separator && (rest bytes || matchBehindSeparator rest bytes)
      | [] => false
  | .everythingBelow, bytes =>
      match bytes with
      | first :: bytes => first = separator && matchAnywhere rest bytes
      | [] => false
  | .alternatives branches, bytes =>
      if branches.isEmpty then rest bytes else matchBranches rest branches bytes

/-- Whether the tokens, one after the other, match in front of the rest. -/
def matchTokens (rest : List UInt8 → Bool) : List GlobToken → List UInt8 → Bool
  | [], bytes => rest bytes
  | token :: tokens, bytes => matchToken (matchTokens rest tokens) token bytes

def matchBranches (rest : List UInt8 → Bool) : List (List GlobToken) → List UInt8 → Bool
  | [], _ => false
  | branch :: branches, bytes => matchTokens rest branch bytes || matchBranches rest branches bytes

end

/-! ## Nesting -/

def partCount : GlobToken → Nat
  | .everythingBelow => 2
  | .alternatives [] => 0
  | _ => 1

def hasParts (tokens : List GlobToken) : Bool :=
  tokens.any fun token => token.partCount ≠ 0

/-- The level that several parts make together; a single one makes none. -/
def levelOfSeveral (count : Nat) : Nat :=
  if count ≤ 1 then 0 else 1

mutual

/-- The levels of a token.  A class, a repetition, a group, a choice between
several branches and a sequence of several parts are one level each, and so are
several ranges in one class.  Any directories in front of the rest are a repetition
in a sequence in a choice in a group. -/
def levels : GlobToken → Nat
  | .literal _ => 0
  | .anyByte => 1
  | .star => 2
  | .byteClass _ ranges => 1 + levelOfSeveral ranges.length
  | .leadingDirectories | .innerDirectories => 4
  | .everythingBelow => 1
  | .alternatives [] => 0
  | .alternatives (branch :: branches) =>
      1 + levelOfSeveral (branches.length + 1) + levelsOfBranches (branch :: branches)

def levelsOfTokens : List GlobToken → Nat
  | [] => 0
  | token :: tokens => max token.levels (levelsOfTokens tokens)

/-- The levels of the deepest of several sequences. -/
def levelsOfBranches : List (List GlobToken) → Nat
  | [] => 0
  | branch :: branches =>
      let count := branch.foldl (fun count token => count + token.partCount) 0
      max (levelOfSeveral count + levelsOfTokens branch) (levelsOfBranches branches)

end

end GlobToken

/-- A glob: its tokens, one after the other. -/
structure Glob where
  tokens : List GlobToken
deriving Repr

namespace Glob

/-- Whether a glob matches the whole of a path.  Two stars alone match every
path. -/
def isMatch (glob : Glob) (path : List UInt8) : Bool :=
  match glob.tokens with
  | [.leadingDirectories] => true
  | tokens => GlobToken.matchTokens List.isEmpty tokens path

/-- The levels of a glob that can be matched at most. -/
def greatestLevels : Nat := 250

/-- Whether a glob is nested too deep to be matched.  The whole glob is a level of
its own. -/
def isTooDeep (glob : Glob) : Bool :=
  greatestLevels < 1 + GlobToken.levelsOfTokens glob.tokens

end Glob

end LanguageClient
