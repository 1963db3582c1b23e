import LanguageClient.Glob.Basic
import LanguageClient.Text.Utf8

/-!
# Reading globs

The text of a glob.  A backslash takes the meaning of the character behind it
away, brackets hold a class, braces hold alternatives with commas between them.
A bracket that is never closed stands for itself, and alternatives without any part
do not count.
-/

namespace LanguageClient.Glob

/-! ## Classes -/

inductive ClassRead where
  | closed (ranges : List (Char × Char)) (rest : List Char)
  | unclosed
  /-- A range whose end lies before its start. -/
  | invalid

/-- Reads the characters of a class up to its closing bracket.  The ranges are kept
in reverse; `inRange` tells that a hyphen has started a range. -/
def readClass (ranges : List (Char × Char)) (isFirst inRange : Bool) : List Char → ClassRead
  | [] => .unclosed
  | c :: rest =>
      if c = ']' && !isFirst then
        .closed (if inRange then ('-', '-') :: ranges else ranges) rest
      else if c = '-' && !isFirst && !inRange then readClass ranges false true rest
      else if inRange then
        match ranges with
        | (least, _) :: ranges =>
            if c < least then .invalid else readClass ((least, c) :: ranges) false false rest
        | [] => .invalid
      else readClass ((c, c) :: ranges) false false rest

/-- The byte ranges of a range of characters.  A character of several bytes stands
for each of them, and the range runs between the bytes at its hyphen. -/
def byteRanges : Char × Char → List (UInt8 × UInt8)
  | (least, greatest) =>
      let single (bytes : List UInt8) := bytes.map fun byte => (byte, byte)
      let front := String.utf8EncodeChar least
      let back := String.utf8EncodeChar greatest
      if least = greatest then single front
      else
        match front.getLast?, back with
        | some first, last :: back => single front.dropLast ++ [(first, last)] ++ single back
        | _, _ => []

/-! ## Tokens -/

def literal (c : Char) : List GlobToken :=
  (String.utf8EncodeChar c).map .literal

/-- A group of alternatives that is not closed yet: the tokens in front of it and
the branches before the current one, both in reverse. -/
structure OpenGroup where
  before : List GlobToken
  branches : List (List GlobToken)

/-- What stands in front of a place in a glob: the character before it, the open
groups, the tokens of the current branch in reverse, and whether brackets still
start classes. -/
structure Reading where
  previous : Option Char
  groups : List OpenGroup
  tokens : List GlobToken
  classes : Bool

def Reading.push (reading : Reading) (last : Char) (tokens : List GlobToken) : Reading :=
  { reading with previous := some last, tokens := tokens.reverse ++ reading.tokens }

/-- The reading with the last byte, a separator, changed into directories; those
that are already there swallow it. -/
def Reading.replaceSeparator (reading : Reading) (last : Char) (token : GlobToken) : Reading :=
  match reading.tokens with
  | .leadingDirectories :: _ | .everythingBelow :: _ => { reading with previous := some last }
  | _ :: tokens => { reading with previous := some last, tokens := token :: tokens }
  | [] => { reading with previous := some last, tokens := [token] }

/-- Reads what two stars mean at a place, from the characters behind them.  They
stand for directories only where they fill a place between separators. -/
def readTwoStars (reading : Reading) (rest : List Char) : Reading × List Char :=
  let inGroup := !reading.groups.isEmpty
  let plain := (reading.push '*' [.star, .star], rest)
  if reading.tokens.isEmpty then
    match rest with
    | [] => (reading.push '*' [.leadingDirectories], [])
    | '/' :: rest => (reading.push '/' [.leadingDirectories], rest)
    | _ => plain
  else if reading.previous ≠ some '/' &&
      !(inGroup && (reading.previous = some ',' || reading.previous = some '\x7b')) then plain
  else
    match rest with
    | [] => (reading.replaceSeparator '*' .everythingBelow, [])
    | '/' :: rest => (reading.replaceSeparator '/' .innerDirectories, rest)
    | c :: _ =>
        if inGroup && (c = ',' || c = '\x7d') then
          (reading.replaceSeparator '*' .everythingBelow, rest)
        else plain

/-- Reads tokens to the end of a glob; `none` for an escape without character, a
brace without partner, or a range the wrong way round. -/
def readTokens : (fuel : Nat) → Reading → List Char → Option (List GlobToken)
  | _, reading, [] => if reading.groups.isEmpty then some reading.tokens.reverse else none
  | 0, _, _ => none
  | fuel + 1, reading, c :: rest =>
      let step := readTokens fuel
      match c, rest with
      | '?', _ => step (reading.push c [.anyByte]) rest
      | '*', '*' :: rest =>
          let (reading, rest) := readTwoStars reading rest
          step reading rest
      | '*', _ => step (reading.push c [.star]) rest
      | '\\', escaped :: rest => step (reading.push escaped (literal escaped)) rest
      | '\\', [] => none
      | '\x7b', _ =>
          let groups := ⟨reading.tokens, []⟩ :: reading.groups
          step { reading with previous := some c, groups, tokens := [] } rest
      | '\x7d', _ =>
          match reading.groups with
          | [] => none
          | group :: groups =>
              let branches := (reading.tokens.reverse :: group.branches).reverse
              let branches := branches.filter GlobToken.hasParts
              step { reading with
                previous := some c, groups, tokens := .alternatives branches :: group.before } rest
      | ',', _ =>
          match reading.groups with
          | [] => step (reading.push c (literal c)) rest
          | group :: groups =>
              let branches := reading.tokens.reverse :: group.branches
              let groups := ⟨group.before, branches⟩ :: groups
              step { reading with previous := some c, groups, tokens := [] } rest
      | '[', _ =>
          if !reading.classes then step (reading.push c (literal c)) rest
          else
            let (negated, body) :=
              match rest with
              | '!' :: body | '^' :: body => (true, body)
              | body => (false, body)
            match readClass [] true false body with
            | .unclosed => step { reading.push c (literal c) with classes := false } rest
            | .invalid => none
            | .closed ranges rest =>
                step (reading.push ']' [.byteClass negated (ranges.flatMap byteRanges)]) rest
      | _, _ => step (reading.push c (literal c)) rest

def parse? (text : List Char) : Option Glob :=
  (readTokens (text.length + 1) ⟨none, [], [], true⟩ text).map .mk

end LanguageClient.Glob
