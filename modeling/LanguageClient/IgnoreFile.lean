import LanguageClient.FileTree
import LanguageClient.Glob.Parser
import LanguageClient.Text.Basic

/-!
# Ignore files

Files that say which entries of their directory, and of those below it, are to be
passed over.  Each line is a rule; of the rules that match the last one counts.
-/

namespace LanguageClient

/-!
## Repositories

A directory may hold the data of a repository in its entry `.git`.  When that is a
file instead, its first line names the data of one work tree, where the file
`commondir` names the data that all work trees share.
-/

namespace Repository

def dataName : EntryName := Text.Utf8.encode ".git"

/-- The file in the shared data that says what is passed over. -/
def excludePath : Path := .ofString "info/exclude"

def firstLine? (tree : FileTree) (current : List EntryName) (path : Path) :
    Option (List UInt8) :=
  match tree.read current path with
  | .error _ => none
  | .ok content =>
      (Text.lines content).head?.filter fun line => (Text.Utf8.decode? line).isSome

/-- What stands in front of the path of a work tree's data. -/
def pointerMark : List UInt8 := Text.Utf8.encode "gitdir: "

/-- The shared data that the file `.git` at a path leads to.  A name that starts with
a dot is taken from the data of the work tree. -/
def sharedData? (tree : FileTree) (current : List EntryName) (pointer : Path) : Option Path := do
  let line ← firstLine? tree current pointer
  let workTree ← if pointerMark.isPrefixOf line then some (Path.mk (line.drop pointerMark.length))
    else none
  let shared ← firstLine? tree current (workTree.join (.ofString "commondir"))
  return if shared.head? = some Path.dot then workTree.join ⟨shared⟩ else ⟨shared⟩

/-- The file that says what is passed over in a directory, given by its names. -/
def exclude? (tree : FileTree) (current : List EntryName) (directory : List EntryName) :
    Option Path :=
  let data := Path.ofNames (directory ++ [dataName])
  match tree.below? (directory ++ [dataName]) with
  | some (.file _ _) | some .program =>
      (sharedData? tree current data).map (·.join excludePath)
  | _ => some (data.join excludePath)

end Repository

/-! ## Rules -/

/-- What rules say about an entry. -/
inductive IgnoreVerdict where
  | ignored
  | kept
deriving DecidableEq, Repr

structure IgnoreRule where
  glob : Glob
  verdict : IgnoreVerdict
  onlyDirectories : Bool

namespace IgnoreRule

def endsWith (text tail : List Char) : Bool :=
  tail.reverse.isPrefixOf text.reverse

/-- The line without blanks at its end, unless the last of them is escaped. -/
def trimLine (line : List Char) : List Char :=
  if endsWith line ['\\', ' '] then line
  else (line.reverse.dropWhile Text.isBlank).reverse

/-- A glob without its separator at the end, and whether there was one.  A
backslash before the separator goes too. -/
def splitDirectoryMark (text : List Char) : List Char × Bool :=
  match text.reverse with
  | '/' :: '\\' :: rest => (rest.reverse, true)
  | '/' :: rest => (rest.reverse, true)
  | _ => (text, false)

/-- The text of the glob of a rule.  One without separator matches at any depth,
and one for all that is below a directory does not match the directory. -/
def completeGlob (text : List Char) (isAnchored : Bool) : List Char :=
  let anywhere : List Char := ['*', '*', '/']
  let text :=
    if isAnchored || text.contains '/' || text = ['*', '*'] then text else anywhere ++ text
  if endsWith text ['/', '*', '*'] then text ++ ['/', '*'] else text

/-- The rule of a line; `none` for an empty line, a comment and a glob that cannot
be read. -/
def ofLine? (line : List Char) : Option IgnoreRule :=
  if line.head? = some '#' then none
  else
    let line := trimLine line
    if line.isEmpty then none
    else
      let (verdict, body) : IgnoreVerdict × List Char :=
        match line with
        | '\\' :: '!' :: rest => (.ignored, '!' :: rest)
        | '\\' :: '#' :: rest => (.ignored, '#' :: rest)
        | '!' :: rest => (.kept, rest)
        | line => (.ignored, line)
      let (isAnchored, body) :=
        match body with
        | '/' :: rest => (true, rest)
        | body => (false, body)
      let (body, onlyDirectories) := splitDirectoryMark body
      (Glob.parse? (completeGlob body isAnchored)).map fun glob =>
        { glob, verdict, onlyDirectories }

/-- What the last rule that matches says about a path below the directory of the
rules. -/
def verdict? (rules : List IgnoreRule) (path : List UInt8) (isDirectory : Bool) :
    Option IgnoreVerdict :=
  (rules.reverse.find? fun rule =>
    (isDirectory || !rule.onlyDirectories) && rule.glob.isMatch path).map IgnoreRule.verdict

end IgnoreRule

namespace IgnoreFile

def byteOrderMark : Char := '\ufeff'

/-- The lines of a file up to the first that is no text. -/
def lines (content : List UInt8) : List (List Char) :=
  let texts := (Text.lines content).map fun line => (Text.Utf8.decode? line).map String.toList
  (texts.takeWhile Option.isSome).filterMap id

/-- The rules of a file.  One that is nested too deep leaves the file without any. -/
def rules (content : List UInt8) : List IgnoreRule :=
  match lines content with
  | [] => []
  | first :: rest =>
      let rules := (first.dropWhile (· = byteOrderMark) :: rest).filterMap IgnoreRule.ofLine?
      if rules.any (·.glob.isTooDeep) then [] else rules

/-- The places of ignore files: beside the entries, or in the data of a repository. -/
inductive Place where
  | beside (name : EntryName)
  | repository
deriving DecidableEq, Repr

/-- The places of ignore files, those that count most first. -/
def places : List Place :=
  [.beside (Text.Utf8.encode ".ignore"), .beside (Text.Utf8.encode ".gitignore"), .repository]

def pathAt? (tree : FileTree) (current : List EntryName) (directory : List EntryName) :
    Place → Option Path
  | .beside name => some (.ofNames (directory ++ [name]))
  | .repository => Repository.exclude? tree current directory

def rulesAt (tree : FileTree) (current : List EntryName) (directory : List EntryName)
    (place : Place) : List IgnoreRule :=
  match pathAt? tree current directory place with
  | none => []
  | some path =>
      match tree.read current path with
      | .ok content => rules content
      | .error _ => []

def pathBytes (names : List EntryName) : List UInt8 :=
  (names.intersperse [Path.separator]).flatten

/-- What the rules in a place say about an entry below a directory; those nearest
to the entry count. -/
def verdictAt? (rulesOf : List EntryName → List IgnoreRule) (isDirectory : Bool)
    (directory : List EntryName) : List EntryName → Option IgnoreVerdict
  | [] => none
  | name :: rest =>
      (verdictAt? rulesOf isDirectory (directory ++ [name]) rest).or <|
        IgnoreRule.verdict? (rulesOf directory) (pathBytes (name :: rest)) isDirectory

/-- What all rules of a tree say about an entry, given by its names. -/
def verdict? (tree : FileTree) (current : List EntryName) (names : List EntryName)
    (isDirectory : Bool) : Option IgnoreVerdict :=
  places.findSome? fun place =>
    verdictAt? (rulesAt tree current · place) isDirectory [] names

/-- Whether an entry is passed over: the rules say so, or its name starts with a dot
and no rule keeps it. -/
def isIgnored (tree : FileTree) (current : List EntryName) (names : List EntryName)
    (isDirectory : Bool) : Bool :=
  match verdict? tree current names isDirectory with
  | some .ignored => true
  | some .kept => false
  | none => (names.getLast?.bind List.head?) = some Path.dot

end IgnoreFile

end LanguageClient
