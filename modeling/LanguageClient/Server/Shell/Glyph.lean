/-!
# Glyphs

The characters that come out of a word, with what is to be known to split them into
fields and to match them as a pattern.
-/

namespace LanguageClient.Shell

inductive Glyph where
  /-- Quoted ones mean themselves; given ones may separate fields. -/
  | character (value : Char) (isQuoted isGiven : Bool)
  /-- A quotation, which may be empty. -/
  | quotation
  /-- What lies between two arguments. -/
  | gap
deriving DecidableEq, Repr

namespace Glyph

def quoted (characters : List Char) : List Glyph :=
  .quotation :: characters.map fun c => .character c true false

/-- Characters that were put in the place of something else. -/
def given (characters : List Char) (isQuoted : Bool) : List Glyph :=
  if isQuoted then quoted characters else characters.map fun c => .character c false true

/-- The characters themselves; a gap is a blank. -/
def characters (glyphs : List Glyph) : List Char :=
  glyphs.flatMap fun glyph =>
    match glyph with
    | .character value .. => [value]
    | .quotation => []
    | .gap => [' ']

/-- A glyph outside quotes that may separate fields. -/
def asGiven : Glyph → Glyph
  | .character value false _ => .character value false true
  | glyph => glyph

/-! ## Fields -/

/-- Splits glyphs into fields, behind one that has begun or not.  Blank separators make
no empty fields, others do. -/
def splitFields (separators : List Char) : Option (List Char) → List Glyph → List (List Char)
  | none, [] => []
  | some field, [] => [field.reverse]
  | field, .quotation :: rest => splitFields separators (some (field.getD [])) rest
  | field, .gap :: rest => (field.map List.reverse).toList ++ splitFields separators none rest
  | field, .character value isQuoted isGiven :: rest =>
      if isGiven && !isQuoted && separators.contains value then
        let ended :=
          if value.isWhitespace then (field.map List.reverse).toList
          else [(field.getD []).reverse]
        ended ++ splitFields separators none rest
      else splitFields separators (some (value :: field.getD [])) rest

end Glyph

/-! ## Patterns -/

inductive PatternStep where
  | many
  | one
  | character (value : Char)
  | among (isNegated : Bool) (ranges : List (Char × Char))
deriving DecidableEq, Repr

namespace PatternStep

def rangesOf : List Char → List (Char × Char)
  | first :: '-' :: last :: rest => (first, last) :: rangesOf rest
  | c :: rest => (c, c) :: rangesOf rest
  | [] => []

/-- Reads a set behind its bracket; `none` if it has no end. -/
def readSet (characters : List (Char × Bool)) : Option (PatternStep × List (Char × Bool)) :=
  let (isNegated, rest) :=
    match characters with
    | ('!', false) :: rest => (true, rest)
    | rest => (false, rest)
  let (first, rest) := (rest.take 1, rest.drop 1)
  let (others, behind) := rest.span (· ≠ (']', false))
  if behind.isEmpty then none
  else some (.among isNegated (rangesOf ((first ++ others).map Prod.fst)), behind.drop 1)

/-- Reads a pattern; quoted characters mean themselves. -/
def readSteps : (fuel : Nat) → List (Char × Bool) → List PatternStep
  | 0, _ => []
  | _ + 1, [] => []
  | fuel + 1, (c, isQuoted) :: rest =>
      if isQuoted then .character c :: readSteps fuel rest
      else if c = '*' then .many :: readSteps fuel rest
      else if c = '?' then .one :: readSteps fuel rest
      else if c = '[' then
        match readSet rest with
        | some (step, rest) => step :: readSteps fuel rest
        | none => .character c :: readSteps fuel rest
      else .character c :: readSteps fuel rest

def ofGlyphs (glyphs : List Glyph) : List PatternStep :=
  let characters := glyphs.filterMap fun glyph =>
    match glyph with
    | .character value isQuoted _ => some (value, isQuoted)
    | _ => none
  readSteps (characters.length + 1) characters

def accepts : List PatternStep → List Char → Bool
  | [], text => text.isEmpty
  | .many :: steps, text =>
      (List.range (text.length + 1)).any fun place => accepts steps (text.drop place)
  | .one :: steps, _ :: text => accepts steps text
  | .character value :: steps, c :: text => c = value && accepts steps text
  | .among isNegated ranges :: steps, c :: text =>
      (ranges.any (fun range => range.1 ≤ c && c ≤ range.2)) ≠ isNegated && accepts steps text
  | _ :: _, [] => false

/-- What is left of a text when what a pattern matches at an end is taken away. -/
def trim (isAtEnd isLongest : Bool) (steps : List PatternStep) (text : List Char) : List Char :=
  let places := List.range (text.length + 1)
  if isAtEnd then
    let places := if isLongest then places else places.reverse
    match places.find? fun place => accepts steps (text.drop place) with
    | some place => text.take place
    | none => text
  else
    let places := if isLongest then places.reverse else places
    match places.find? fun place => accepts steps (text.take place) with
    | some place => text.drop place
    | none => text

end PatternStep

end LanguageClient.Shell
