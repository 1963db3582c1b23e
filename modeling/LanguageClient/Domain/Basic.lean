import LanguageClient.Domain.Address
import LanguageClient.Domain.Composition
import LanguageClient.Domain.Joining
import LanguageClient.Domain.PlainText
import LanguageClient.Domain.Punycode
import LanguageClient.Domain.Refused
import LanguageClient.Domain.Replaced

/-!
# Domains

The names of hosts.  Every character of a name is mapped first, so that a name has many
spellings; then its labels, the parts between points, are looked at one by one.  A label
that starts with `xn--` holds a text beyond ASCII in letters of ASCII.
-/

namespace LanguageClient.Domain

def isPlain (text : List Char) : Bool :=
  text.all (·.toNat < 0x80)

/-- What a character of a name stands for; `none` for one that is refused.  One that
stands for a text beyond ASCII is kept, since only its being beyond ASCII counts. -/
def mapChar? (c : Char) : Option (List Char) :=
  if isRefused c then none
  else if isIgnored c then some []
  else some ((plainText? c).getD [c.toLower])

def mapName? (name : List Char) : Option (List Char) :=
  (name.mapM mapChar?).map List.flatten

/-! ## Labels -/

/-- What a label in letters of ASCII starts with. -/
def encodedMark : List Char := ['x', 'n', '-', '-']

def isSettled (c : Char) : Bool :=
  !isRefused c && !isIgnored c && !isReplaced c && plainText? c == none && !c.isUpper

/-- Whether the marks and joiners of a label stand where they may. -/
def isWellFormed (label : List Char) : Bool :=
  !label.head?.any isMark && joinersFit [] label

/-- The text of a label, if there is nothing wrong with it.  What is held in letters of
ASCII has to be composed; any other text is put together. -/
def labelText? (label : List Char) : Option (List Char) :=
  if encodedMark.isPrefixOf label then
    if !isPlain label then none
    else
      (Punycode.decode? (label.drop encodedMark.length)).filter fun text =>
        !isPlain text && !encodedMark.isPrefixOf text && text.all isSettled && isComposed text
          && isWellFormed text
  else if isPlain label then some label
  else
    let text := compose label
    if isWellFormed text then some text else none

def labels (name : List Char) : List (List Char) :=
  name.splitOn '.'

/-- Whether a mapped name has nothing wrong with it. -/
def isName (name : List Char) : Bool :=
  match (labels name).mapM labelText? with
  | none => false
  | some texts =>
      !(texts.any fun text => text.any fun c => (Direction.ofChar c).goesRight)
        || texts.all directionsAgree

/-! ## Places -/

inductive Place where
  | here
  | elsewhere
deriving DecidableEq, Repr

def localName : List Char := "localhost".toList

/-- The place of the host with a name; `none` for a text that is no name, or that ends in
a number and is no address. -/
def place? (name : List Char) : Option Place := do
  let name ← mapName? name
  if name.isEmpty || !isName name then none
  else if endsInNumber name then
    if isFourByteAddress name then some .elsewhere else none
  else some (if name = localName then .here else .elsewhere)

end LanguageClient.Domain
