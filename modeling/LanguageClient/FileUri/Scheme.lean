/-!
# Schemes

The scheme in front of a URI, and what separates and ends the parts behind it.
-/

namespace LanguageClient.FileUri

/-- The kinds of schemes.  A backslash separates like a slash in all but the
plain ones. -/
inductive Scheme where
  | file
  | web
  | plain
deriving DecidableEq, Repr

/-- The kind of a scheme given in lower case. -/
def Scheme.ofName (name : String) : Scheme :=
  if name = "file" then .file
  else if ["http", "https", "ws", "wss", "ftp"].contains name then .web
  else .plain

def Scheme.isSeparator (scheme : Scheme) (c : Char) : Bool :=
  c == '/' || (c == '\\' && scheme != .plain)

def endsPath (c : Char) : Bool :=
  c == '?' || c == '#'

def beforeQuery (text : List Char) : List Char :=
  text.takeWhile (!endsPath ·)

/-- A tab or the end of a line. -/
def isBreak (c : Char) : Bool :=
  c == '\t' || c == '\n' || c == '\r'

/-- A text without the tabs and line ends in it. -/
def dropBreaks (text : List Char) : List Char :=
  text.filter (!isBreak ·)

/-- The text of a URI without the blanks and controls around it. -/
def trimOuter (text : List Char) : List Char :=
  let isOuter := fun (c : Char) => c.toNat ≤ 0x20
  ((text.dropWhile isOuter).reverse.dropWhile isOuter).reverse

private def isSchemeChar (c : Char) : Bool :=
  c.isAlphanum || c == '+' || c == '-' || c == '.'

/-- The scheme in front of a text, in which breaks play no part, and what stands behind
its colon. -/
def splitScheme? (text : List Char) : Option (Scheme × List Char) :=
  match text.span fun c => isSchemeChar c || isBreak c with
  | (name, ':' :: rest) =>
      let name := dropBreaks name
      if name.head?.any Char.isAlpha then
        some (.ofName (String.ofList (name.map Char.toLower)), rest)
      else none
  | _ => none

/-- Behind the separator at the front of a text, if there is one; breaks before it play
no part. -/
def takeSeparator? (scheme : Scheme) (text : List Char) : Option (List Char) :=
  match text.dropWhile isBreak with
  | c :: rest => if scheme.isSeparator c then some rest else none
  | [] => none

/-- A text without the separator at its front, if there is one. -/
def dropSeparator (scheme : Scheme) (text : List Char) : List Char :=
  (takeSeparator? scheme text).getD text

end LanguageClient.FileUri
