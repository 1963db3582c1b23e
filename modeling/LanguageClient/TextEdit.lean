import LanguageClient.Position

/-!
# Text edits

Replacements of ranges of a document.  All ranges are resolved against the
document as it is before the first replacement.  Offsets count the bytes of
UTF-8, columns the units of UTF-16.
-/

namespace LanguageClient

structure TextEdit where
  range : Range
  newText : String
deriving DecidableEq, Repr

def TextEdit.decode : Json.Decoder TextEdit :=
  Json.decodeRecord2 "TextEdit" (.required "range" Range.decode)
    (.required "newText" Json.decodeString) .mk

namespace Document

/-! ## Offsets -/

def size (text : List Char) : Nat :=
  text.foldr (fun c size => c.utf8Size + size) 0

def units (c : Char) : Nat :=
  if c.toNat < 0x10000 then 1 else 2

/-- The lines of a text without their line feeds; a line feed at the end starts
a last, empty line. -/
def lines (text : List Char) : List (List Char) :=
  text.splitOn '\n'

/-- A line without one carriage return at its end. -/
def content (line : List Char) : List Char :=
  if line.getLast? = some '\r' then line.dropLast else line

/-- The offset in a line of the first character with at least the given number
of units before it, or of the end. -/
def columnOffset : List Char → Nat → Nat
  | [], _ => 0
  | _ :: _, 0 => 0
  | c :: rest, column => c.utf8Size + columnOffset rest (column - units c)

def lineOffset (text : List Char) (line : Nat) : Nat :=
  ((lines text).take line).foldr (fun before offset => size before + 1 + offset) 0

/-- The offset of a position.  A column beyond its line stands for the end of the
line, a line beyond the document for the end of the document. -/
def offset (text : List Char) (position : Position) : Nat :=
  match (lines text)[position.line]? with
  | none => size text
  | some line => lineOffset text position.line + columnOffset (content line) position.character

/-! ## Replacements -/

/-- A resolved edit: the bytes between two offsets give way to a text. -/
structure Span where
  start : Nat
  stop : Nat
  newText : List Char
deriving DecidableEq, Repr

/-- The span of an edit.  A range that ends before it starts is empty. -/
def span (text : List Char) (edit : TextEdit) : Span :=
  let start := offset text edit.range.start
  ⟨start, max start (offset text edit.range.end), edit.newText.toList⟩

/-- Spans in the order of their starts, and of their ends if those agree. -/
def Span.le (a b : Span) : Bool :=
  a.start < b.start || (a.start = b.start && a.stop ≤ b.stop)

/-- Whether one of the spans reaches beyond the start of the next. -/
def overlaps : List Span → Bool
  | a :: b :: rest => b.start < a.stop || overlaps (b :: rest)
  | _ => false

def takeBytes : List Char → Nat → List Char
  | [], _ => []
  | c :: rest, count =>
      if count < c.utf8Size then [] else c :: takeBytes rest (count - c.utf8Size)

def dropBytes : List Char → Nat → List Char
  | [], _ => []
  | text, 0 => text
  | c :: rest, count => dropBytes rest (count - c.utf8Size)

def replace (text : List Char) (span : Span) : List Char :=
  takeBytes text span.start ++ span.newText ++ dropBytes text span.stop

/-- Applies edits; `none` if two of them overlap.  The last span is replaced
first, so that the offsets of those before it stay right. -/
def applyEdits (text : List Char) (edits : List TextEdit) : Option (List Char) :=
  let spans := (edits.map (span text)).mergeSort Span.le
  if overlaps spans then none
  else some (spans.foldr (fun span text => replace text span) text)

end Document

end LanguageClient
