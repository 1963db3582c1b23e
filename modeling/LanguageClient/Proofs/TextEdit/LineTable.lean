import LanguageClient.Proofs.TextEdit.Offset

/-!
# A table of lines

The offset of a position is found with a table of the offsets at which the lines of a text
start, by cutting the line out of the text and counting its UTF-16 units in 32 bits.  A cut
between the bytes of one character fails, and so does a count that needs more bits.  In a text
whose lines are not too long nothing fails, and what is found is the offset.
-/

namespace LanguageClient.Document

/-! ## Units -/

def unitCount (text : List Char) : Nat :=
  text.foldr (fun c count => units c + count) 0

@[simp]
theorem unitCount_nil : unitCount [] = 0 := rfl

@[simp]
theorem unitCount_cons (c : Char) (text : List Char) :
    unitCount (c :: text) = units c + unitCount text :=
  rfl

@[simp]
theorem unitCount_append (front back : List Char) :
    unitCount (front ++ back) = unitCount front + unitCount back :=
  foldr_weight_append units front back

theorem units_pos (c : Char) : 0 < units c := by
  unfold units
  split <;> decide

theorem columnOffset_zero (line : List Char) : columnOffset line 0 = 0 := by
  cases line <;> rfl

theorem columnOffset_cons {c : Char} {line : List Char} {column : Nat} (positive : 0 < column) :
    columnOffset (c :: line) column = c.utf8Size + columnOffset line (column - units c) := by
  cases column with
  | zero => cases positive
  | succ column => rfl

/-- Looks for the first place in a line with a number of units in front of it.  The units
counted so far and the offset come along; `none` if the count does not fit into 32 bits. -/
def locateColumn? (column : Nat) : Nat → Nat → List Char → Option Nat
  | _, offset, [] => some offset
  | counted, offset, c :: rest =>
      if column ≤ counted then some offset
      else if counted + units c < UInt32.size then
        locateColumn? column (counted + units c) (offset + c.utf8Size) rest
      else none

theorem locateColumn?_eq
    {line : List Char} {counted : Nat} (fits : counted + unitCount line < UInt32.size)
    (column offset : Nat) :
    locateColumn? column counted offset line =
      some (offset + columnOffset line (column - counted)) := by
  induction line generalizing counted offset with
  | nil => rfl
  | cons c line inductionHypothesis =>
      rw [unitCount_cons, ← Nat.add_assoc] at fits
      rw [locateColumn?]
      by_cases reached : column ≤ counted
      · rw [if_pos reached, Nat.sub_eq_zero_of_le reached, columnOffset_zero, Nat.add_zero]
      · have fitsHere : counted + units c < UInt32.size :=
          Nat.lt_of_le_of_lt (Nat.le_add_right ..) fits
        rw [if_neg reached, if_pos fitsHere, inductionHypothesis fits, columnOffset_cons (by omega),
          Nat.sub_sub, Nat.add_assoc]

/-! ## Slices -/

theorem exists_takeBytes_append (text : List Char) (count : Nat) :
    ∃ back, text = takeBytes text count ++ back := by
  induction text generalizing count with
  | nil => exact ⟨[], rfl⟩
  | cons c text inductionHypothesis =>
      rw [takeBytes]
      split
      · exact ⟨c :: text, rfl⟩
      · obtain ⟨back, isText⟩ := inductionHypothesis (count - c.utf8Size)
        exact ⟨back, congrArg (c :: ·) isText⟩

/-- An offset is a boundary if the characters in front of it fill all its bytes. -/
theorem isBoundary_iff (text : List Char) (offset : Nat) :
    IsBoundary text offset ↔ size (takeBytes text offset) = offset := by
  constructor
  · rintro ⟨front, back, rfl, rfl⟩
    rw [takeBytes_append]
  · intro isSize
    obtain ⟨back, isText⟩ := exists_takeBytes_append text offset
    exact ⟨takeBytes text offset, back, isText, isSize⟩

instance (text : List Char) (offset : Nat) : Decidable (IsBoundary text offset) :=
  decidable_of_iff _ (isBoundary_iff text offset).symm

/-- The part of a text between two offsets; `none` unless they are boundaries and in order. -/
def slice? (text : List Char) (start stop : Nat) : Option (List Char) :=
  if start ≤ stop ∧ IsBoundary text start ∧ IsBoundary text stop then
    some (takeBytes (dropBytes text start) (stop - start))
  else none

theorem slice?_append (before line behind : List Char) :
    slice? (before ++ (line ++ behind)) (size before) (size before + size line) = some line := by
  have stop : IsBoundary (before ++ (line ++ behind)) (size before + size line) :=
    (isBoundary_size line behind).append_left before
  rw [slice?, if_pos ⟨Nat.le_add_right .., isBoundary_size before (line ++ behind), stop⟩,
    dropBytes_append, Nat.add_sub_cancel_left, takeBytes_append]

example : slice? "añb".toList 1 2 = none ∧ slice? "añb".toList 1 3 = some ['ñ'] := by decide

/-! ## Starts of lines -/

/-- The offsets of the line feeds of a text that starts at an offset. -/
def feedOffsets : Nat → List Char → List Nat
  | _, [] => []
  | offset, c :: rest =>
      if c = '\n' then offset :: feedOffsets (offset + c.utf8Size) rest
      else feedOffsets (offset + c.utf8Size) rest

def lineStarts (text : List Char) : List Nat :=
  0 :: (feedOffsets 0 text).map (· + 1)

theorem length_feedOffsets (offset : Nat) (text : List Char) :
    (feedOffsets offset text).length = text.count '\n' := by
  induction text generalizing offset with
  | nil => rfl
  | cons c text inductionHypothesis =>
      rw [feedOffsets, List.count_cons]
      split
      · rename_i isFeed
        simp [isFeed, inductionHypothesis]
      · rename_i other
        simp [other, inductionHypothesis]

theorem feedOffsets_append (offset : Nat) (front back : List Char) :
    feedOffsets offset (front ++ back) =
      feedOffsets offset front ++ feedOffsets (offset + size front) back := by
  induction front generalizing offset with
  | nil => rfl
  | cons c front inductionHypothesis =>
      rw [List.cons_append, feedOffsets, feedOffsets, inductionHypothesis, size_cons,
        ← Nat.add_assoc]
      split <;> rfl

theorem getElem?_lineStarts_succ (front back : List Char) :
    (lineStarts (front ++ '\n' :: back))[front.count '\n' + 1]? = some (size front + 1) := by
  rw [lineStarts, List.getElem?_cons_succ, List.getElem?_map, feedOffsets_append,
    List.getElem?_append_right (Nat.le_of_eq (length_feedOffsets 0 front)), length_feedOffsets,
    Nat.sub_self, feedOffsets, if_pos rfl, Nat.zero_add]
  rfl

theorem getElem?_lineStarts_of_lt
    {text : List Char} {line : Nat} (beyond : text.count '\n' < line) :
    (lineStarts text)[line]? = none := by
  rw [List.getElem?_eq_none_iff, lineStarts, List.length_cons, List.length_map,
    length_feedOffsets]
  exact beyond

/-- The end of a line, without its line feed, by the start of the line behind it; `none` if
that start has nothing in front of it. -/
def lineStop? (text : List Char) (starts : List Nat) (line : Nat) : Option Nat :=
  match starts[line + 1]? with
  | none => some (size text)
  | some 0 => none
  | some (next + 1) => some next

section Line

variable {text before line behind : List Char} {index : Nat}

theorem IsLine.getElem?_lineStarts (isLine : IsLine text index before line behind) :
    (lineStarts text)[index]? = some (size before) := by
  have count := isLine.count
  rw [isLine.parts]
  rcases isLine.opens with rfl | ⟨front, rfl⟩
  · rw [← count]
    rfl
  · rw [List.count_append, List.count_singleton_self] at count
    rw [← count, List.append_assoc, List.singleton_append, getElem?_lineStarts_succ, size_append]
    rfl

theorem IsLine.lineStop?_eq (isLine : IsLine text index before line behind) :
    lineStop? text (lineStarts text) index = some (size before + size line) := by
  have count : (before ++ line).count '\n' = index := by
    rw [List.count_append, List.count_eq_zero_of_not_mem isLine.undivided, isLine.count,
      Nat.add_zero]
  rcases isLine.closes with isLast | ⟨back, isBehind⟩
  · have isText : text = before ++ line := by
      rw [isLine.parts, isLast, List.append_nil]
    have noNext : text.count '\n' < index + 1 := by
      rw [isText, count]
      exact Nat.lt_succ_self index
    rw [lineStop?, getElem?_lineStarts_of_lt noNext, isText, size_append]
  · have next : (lineStarts text)[index + 1]? = some (size before + size line + 1) := by
      rw [isLine.parts, isBehind, ← List.append_assoc, ← count, getElem?_lineStarts_succ,
        size_append]
    rw [lineStop?, next]

end Line

/-! ## Positions -/

/-- Finds the offset of a position with a table of the starts of the lines. -/
def locate? (text : List Char) (starts : List Nat) (position : Position) : Option Nat :=
  match starts[position.line]? with
  | none => some (size text)
  | some start => do
      let stop ← lineStop? text starts position.line
      let line ← slice? text start stop
      locateColumn? position.character 0 start (content line)

theorem unitCount_content_le (line : List Char) : unitCount (content line) ≤ unitCount line := by
  obtain ⟨ending, isLine⟩ := exists_content_append line
  calc unitCount (content line) ≤ unitCount (content line) + unitCount ending := Nat.le_add_right ..
    _ = unitCount (content line ++ ending) := (unitCount_append ..).symm
    _ = unitCount line := by rw [← isLine]

/-- What is found is the offset, if the units of every line can be counted. -/
theorem locate?_eq
    {text : List Char} (short : ∀ line, line ∈ lines text → unitCount line < UInt32.size)
    (position : Position) :
    locate? text (lineStarts text) position = some (offset text position) := by
  by_cases beyond : text.count '\n' < position.line
  · rw [locate?, getElem?_lineStarts_of_lt beyond, offset_of_lt beyond]
  · obtain ⟨before, line, behind, isLine⟩ :=
      (exists_isLine_iff text position.line).mpr (Nat.le_of_not_lt beyond)
    have isSlice : slice? text (size before) (size before + size line) = some line := by
      rw [isLine.parts, slice?_append]
    have fits : 0 + unitCount (content line) < UInt32.size := by
      rw [Nat.zero_add]
      exact Nat.lt_of_le_of_lt (unitCount_content_le line)
        (short line (List.mem_of_getElem? isLine.getElem?_lines))
    rw [locate?, isLine.getElem?_lineStarts, isLine.offset_eq position.character]
    simp only [isLine.lineStop?_eq, isSlice, locateColumn?_eq fits, Option.bind_eq_bind,
      Option.bind_some, Nat.sub_zero]

end LanguageClient.Document
