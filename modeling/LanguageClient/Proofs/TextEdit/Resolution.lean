import LanguageClient.Proofs.TextEdit.LineTable
import LanguageClient.Proofs.TextEdit.Replacement
import Mathlib.Data.List.DropRight
import Mathlib.Order.Bounds.Basic

/-!
# Resolution of positions

The offset of a position is the least boundary of the content of its line that has enough
UTF-16 units in front of it, or the end of the content.  Later positions never have smaller
offsets, and every boundary is the offset of its own position, but for those behind a carriage
return that is no content.
-/

namespace LanguageClient.Document

theorem IsBoundary.le_size {text : List Char} {offset : Nat} (boundary : IsBoundary text offset) :
    offset ≤ size text := by
  obtain ⟨front, back, rfl, rfl⟩ := boundary
  rw [size_append]
  exact Nat.le_add_right ..

/-! ## Columns -/

section Column

variable {line front : List Char} {column : Nat}

theorem columnOffset_append_le (back : List Char) (enough : column ≤ unitCount front) :
    columnOffset (front ++ back) column ≤ size front := by
  induction front generalizing column with
  | nil =>
      rw [Nat.le_zero.mp enough, columnOffset_zero]
      exact Nat.zero_le _
  | cons c front inductionHypothesis =>
      rcases Nat.eq_zero_or_pos column with rfl | positive
      · rw [columnOffset_zero]
        exact Nat.zero_le _
      · rw [unitCount_cons] at enough
        rw [List.cons_append, columnOffset_cons positive, size_cons]
        exact Nat.add_le_add_left (inductionHypothesis (by omega)) _

theorem columnOffset_append (front back : List Char) :
    columnOffset (front ++ back) (unitCount front) = size front := by
  induction front with
  | nil => exact columnOffset_zero back
  | cons c front inductionHypothesis =>
      have positive : 0 < unitCount (c :: front) := Nat.add_pos_left (units_pos c) _
      rw [List.cons_append, columnOffset_cons positive, unitCount_cons, Nat.add_sub_cancel_left,
        inductionHypothesis, size_cons]

theorem exists_size_eq_columnOffset (enough : column ≤ unitCount line) :
    ∃ front back, line = front ++ back ∧ column ≤ unitCount front ∧
      size front = columnOffset line column := by
  induction line generalizing column with
  | nil => exact ⟨[], [], rfl, enough, rfl⟩
  | cons c line inductionHypothesis =>
      rcases Nat.eq_zero_or_pos column with rfl | positive
      · exact ⟨[], c :: line, rfl, Nat.zero_le _, rfl⟩
      · rw [unitCount_cons] at enough
        have enoughBehind : column - units c ≤ unitCount line := by omega
        obtain ⟨front, back, rfl, enough', isSize⟩ := inductionHypothesis enoughBehind
        refine ⟨c :: front, back, rfl, ?_, ?_⟩
        · rw [unitCount_cons]
          omega
        · rw [columnOffset_cons positive, size_cons, isSize]

theorem columnOffset_of_le (isShort : unitCount line ≤ column) :
    columnOffset line column = size line := by
  induction line generalizing column with
  | nil => rfl
  | cons c line inductionHypothesis =>
      have positive := units_pos c
      rw [unitCount_cons] at isShort
      rw [columnOffset_cons (by omega), size_cons, inductionHypothesis (by omega)]

theorem columnOffset_mono (line : List Char) {column column' : Nat} (le : column ≤ column') :
    columnOffset line column ≤ columnOffset line column' := by
  -- The least boundary that reaches one column also reaches every column before it.
  rcases Nat.le_total column' (unitCount line) with enough | isShort
  · obtain ⟨front, back, rfl, enough', isSize⟩ := exists_size_eq_columnOffset enough
    rw [← isSize]
    exact columnOffset_append_le back (Nat.le_trans le enough')
  · rw [columnOffset_of_le isShort]
    exact (isBoundary_columnOffset line column).le_size

/-- The boundaries of a piece of a text with at least a number of units of the piece in front
of them, as offsets of the text. -/
def reaching (before piece : List Char) (column : Nat) : Set Nat :=
  {offset | ∃ front back, piece = front ++ back ∧ column ≤ unitCount front ∧
    offset = size before + size front}

theorem isLeast_columnOffset (before : List Char) (enough : column ≤ unitCount line) :
    IsLeast (reaching before line column) (size before + columnOffset line column) := by
  constructor
  · obtain ⟨front, back, isLine, enough', isSize⟩ := exists_size_eq_columnOffset enough
    exact ⟨front, back, isLine, enough', by rw [isSize]⟩
  · rintro _ ⟨front, back, rfl, enough', rfl⟩
    exact Nat.add_le_add_left (columnOffset_append_le back enough') _

theorem reaching_eq_empty (before : List Char) (isShort : unitCount line < column) :
    reaching before line column = ∅ := by
  refine Set.eq_empty_iff_forall_notMem.mpr ?_
  rintro _ ⟨front, back, rfl, enough, _⟩
  rw [unitCount_append] at isShort
  omega

end Column

/-! ## The order of positions -/

section Order

variable {text : List Char}

/-- A line ends in front of all lines with a higher index. -/
theorem IsLine.size_le
    {before line behind before' line' behind' : List Char} {index index' : Nat}
    (isLine : IsLine text index before line behind)
    (isLater : IsLine text index' before' line' behind') (lt : index < index') :
    size before + size line ≤ size before' := by
  have isFront : before ++ line <+: text := ⟨behind, by rw [isLine.parts, List.append_assoc]⟩
  have isFront' : before' <+: text := ⟨line' ++ behind', isLater.parts.symm⟩
  rcases List.prefix_or_prefix_of_prefix isFront isFront' with ⟨rest, isRest⟩ | ⟨rest, isRest⟩
  · rw [← isRest, size_append, size_append]
    exact Nat.le_add_right ..
  · -- the front of the later line has more line feeds than the other line leaves
    have feeds : before'.count '\n' ≤ (before ++ line).count '\n' := by
      rw [← isRest, List.count_append]
      exact Nat.le_add_right ..
    rw [isLater.count, List.count_append, isLine.count,
      List.count_eq_zero_of_not_mem isLine.undivided] at feeds
    omega

theorem size_content_le (line : List Char) : size (content line) ≤ size line := by
  obtain ⟨ending, isLine⟩ := exists_content_append line
  have sizes := congrArg size isLine
  rw [size_append] at sizes
  omega

theorem IsLine.offset_le {before line behind : List Char} {index : Nat}
    (isLine : IsLine text index before line behind) (column : Nat) :
    offset text ⟨index, column⟩ ≤ size before + size line := by
  rw [isLine.offset_eq]
  have inContent := (isBoundary_columnOffset (content line) column).le_size
  exact Nat.add_le_add_left (Nat.le_trans inContent (size_content_le line)) _

theorem offset_mono {position later : Position}
    (inOrder : position.line < later.line ∨
      position.line = later.line ∧ position.character ≤ later.character) :
    offset text position ≤ offset text later := by
  by_cases beyond : text.count '\n' < later.line
  · rw [offset_of_lt beyond]
    exact (isBoundary_offset text position).le_size
  · obtain ⟨before, line, behind, isLater⟩ :=
      (exists_isLine_iff text later.line).mpr (Nat.le_of_not_lt beyond)
    rcases inOrder with lt | ⟨sameLine, le⟩
    · obtain ⟨before', line', behind', isLine⟩ :=
        (exists_isLine_iff text position.line).mpr (by omega)
      calc offset text position ≤ size before' + size line' := isLine.offset_le position.character
        _ ≤ size before := isLine.size_le isLater lt
        _ ≤ offset text later := by
          rw [isLater.offset_eq later.character]
          exact Nat.le_add_right ..
    · have isLine : IsLine text position.line before line behind := sameLine ▸ isLater
      rw [isLine.offset_eq position.character, isLater.offset_eq later.character]
      exact Nat.add_le_add_left (columnOffset_mono (content line) le) _

end Order

/-! ## The position of a boundary -/

/-- The position of an offset: the line feeds in front of it, and the units between the last
of them and the offset. -/
def positionAt (text : List Char) (offset : Nat) : Position :=
  let front := takeBytes text offset
  ⟨front.count '\n', unitCount (front.rtakeWhile (· ≠ '\n'))⟩

/-- Whether an offset lies directly behind a carriage return that stands at the end of a
line. -/
def IsBehindReturn (text : List Char) (offset : Nat) : Prop :=
  ∃ front back, text = front ++ '\r' :: back ∧ size front + 1 = offset ∧
    (back = [] ∨ ∃ later, back = '\n' :: later)

theorem rtakeWhile_append {before first : List Char}
    (opens : before = [] ∨ ∃ front, before = front ++ ['\n']) (undivided : '\n' ∉ first) :
    (before ++ first).rtakeWhile (· ≠ '\n') = first := by
  have others : ∀ c, c ∈ first.reverse → decide (c ≠ '\n') = true := by
    intro c member
    rw [decide_eq_true_eq]
    rintro rfl
    exact undivided (List.mem_reverse.mp member)
  rw [List.rtakeWhile, List.reverse_append, List.takeWhile_append_of_pos others]
  rcases opens with rfl | ⟨front, rfl⟩
  · simp
  · simp

theorem positionAt_append {before first : List Char}
    (opens : before = [] ∨ ∃ front, before = front ++ ['\n']) (undivided : '\n' ∉ first)
    (back : List Char) :
    positionAt (before ++ first ++ back) (size (before ++ first)) =
      ⟨(before ++ first).count '\n', unitCount first⟩ := by
  rw [positionAt, takeBytes_append, rtakeWhile_append opens undivided]

theorem content_append {first rest : List Char}
    (kept : rest = [] → first.getLast? ≠ some '\r') :
    ∃ rest', content (first ++ rest) = first ++ rest' := by
  unfold content
  split
  · rename_i isReturn
    cases rest with
    | nil =>
        rw [List.append_nil] at isReturn
        exact absurd isReturn (kept rfl)
    | cons c rest =>
        exact ⟨(c :: rest).dropLast, List.dropLast_append_of_ne_nil (List.cons_ne_nil c rest)⟩
  · exact ⟨rest, rfl⟩

theorem content_concat_return (line : List Char) : content (line ++ ['\r']) = line := by
  rw [content, if_pos List.getLast?_concat, List.dropLast_concat]

/-- The position of a boundary is its line and the units in front of it there. -/
theorem exists_isLine_positionAt {text : List Char} {boundary : Nat}
    (isBoundary : IsBoundary text boundary) :
    ∃ index before first rest behind, IsLine text index before (first ++ rest) behind ∧
      boundary = size before + size first ∧
      positionAt text boundary = ⟨index, unitCount first⟩ := by
  obtain ⟨front, back, rfl, rfl⟩ := isBoundary
  obtain ⟨before, first, rest, behind, rfl, rfl, isLine⟩ := exists_isLine_append front back
  have undivided : '\n' ∉ first := fun member =>
    isLine.undivided (List.mem_append_left rest member)
  exact ⟨_, before, first, rest, behind, isLine, size_append before first,
    positionAt_append isLine.opens undivided _⟩

theorem offset_positionAt
    {text : List Char} {boundary : Nat} (isBoundary : IsBoundary text boundary)
    (kept : ¬ IsBehindReturn text boundary) :
    offset text (positionAt text boundary) = boundary := by
  obtain ⟨index, before, first, rest, behind, isLine, isSize, isPosition⟩ :=
    exists_isLine_positionAt isBoundary
  -- Otherwise the boundary would stand behind the carriage return that the content is without.
  have keptLast : rest = [] → first.getLast? ≠ some '\r' := by
    rintro rfl isReturn
    obtain ⟨start, rfl⟩ := List.getLast?_eq_some_iff.mp isReturn
    refine kept ⟨before ++ start, behind, ?_, ?_, isLine.closes⟩
    · simpa only [List.append_nil, List.append_assoc, List.singleton_append] using isLine.parts
    · simp only [isSize, size_append, Nat.add_assoc]
      rfl
  obtain ⟨rest', isContent⟩ := content_append keptLast
  rw [isPosition, isLine.offset_eq, isContent, columnOffset_append, isSize]

/-- The position behind a carriage return that is no content stands for the place in front of
it. -/
theorem offset_positionAt_of_isBehindReturn {text : List Char} {boundary : Nat}
    (isBehind : IsBehindReturn text boundary) :
    offset text (positionAt text boundary) + 1 = boundary := by
  obtain ⟨front, back, rfl, rfl, closes⟩ := isBehind
  obtain ⟨before, line, rfl, undivided, opens⟩ := exists_last_line front
  have undivided' : '\n' ∉ line ++ ['\r'] := by
    rw [List.mem_append, not_or]
    exact ⟨undivided, by decide⟩
  have isText : before ++ line ++ '\r' :: back = before ++ (line ++ ['\r']) ++ back := by
    simp only [List.append_assoc, List.singleton_append]
  have isSize : size (before ++ line) + 1 = size (before ++ (line ++ ['\r'])) := by
    simp only [size_append, Nat.add_assoc]
    rfl
  have count : before.count '\n' = (before ++ (line ++ ['\r'])).count '\n' := by
    rw [List.count_append, List.count_eq_zero_of_not_mem undivided', Nat.add_zero]
  have isLine : IsLine (before ++ (line ++ ['\r']) ++ back)
      ((before ++ (line ++ ['\r'])).count '\n') before (line ++ ['\r']) back :=
    ⟨List.append_assoc .., count, opens, undivided', closes⟩
  have isShort : unitCount line ≤ unitCount (line ++ ['\r']) := by
    rw [unitCount_append]
    exact Nat.le_add_right ..
  rw [isText, isSize, positionAt_append opens undivided', isLine.offset_eq, content_concat_return,
    columnOffset_of_le isShort, ← size_append, isSize]

/-! ## Resolution -/

structure ResolvesPositions (text : List Char) : Prop where
  /-- Nothing fails on the way to an offset: no slice is cut through a character, and no count
  of units outgrows its 32 bits. -/
  locates : ∀ position, locate? text (lineStarts text) position = some (offset text position)
  /-- The lines are counted from zero, and there is one more of them than there are line
  feeds. -/
  hasLine : ∀ index,
    (∃ before line behind, IsLine text index before line behind) ↔ index ≤ text.count '\n'
  /-- A line that does not exist stands for the end of the text. -/
  beyond : ∀ position, (¬ ∃ before line behind, IsLine text position.line before line behind) →
    offset text position = size text
  /-- In a line, the offset is the least boundary of the content with the units of the column
  in front of it, or the end of the content if there is none. -/
  least : ∀ position before line behind, IsLine text position.line before line behind →
    IsLeast (reaching before (content line) position.character) (offset text position) ∨
      reaching before (content line) position.character = ∅ ∧
        offset text position = size before + size (content line)
  boundary : ∀ position, IsBoundary text (offset text position)
  /-- The spans of edits can be replaced. -/
  fits : ∀ edit, (span text edit).Fits text
  /-- Positions are ordered by their lines, and in a line by their columns. -/
  monotone : ∀ position later : Position,
    position.line < later.line ∨
      position.line = later.line ∧ position.character ≤ later.character →
    offset text position ≤ offset text later
  inverse : ∀ boundary, IsBoundary text boundary → ¬ IsBehindReturn text boundary →
    offset text (positionAt text boundary) = boundary
  stripped : ∀ boundary, IsBehindReturn text boundary →
    offset text (positionAt text boundary) + 1 = boundary
  /-- The column of a boundary fits into 32 bits. -/
  column : ∀ boundary, IsBoundary text boundary →
    (positionAt text boundary).character < UInt32.size

/-- Positions are resolved in every text whose lines have fewer than `2 ^ 32 - 1` units. -/
theorem resolvesPositions
    (text : List Char) (short : ∀ line, line ∈ lines text → unitCount line < UInt32.size - 1) :
    ResolvesPositions text where
  locates := locate?_eq fun line member => Nat.lt_of_lt_pred (short line member)
  hasLine := exists_isLine_iff text
  beyond := by
    intro position missing
    rw [exists_isLine_iff, Nat.not_le] at missing
    exact offset_of_lt missing
  least := by
    intro position before line behind isLine
    rw [isLine.offset_eq position.character]
    rcases Nat.lt_or_ge (unitCount (content line)) position.character with isShort | enough
    · refine Or.inr ⟨reaching_eq_empty before isShort, ?_⟩
      rw [columnOffset_of_le (Nat.le_of_lt isShort)]
    · exact Or.inl (isLeast_columnOffset before enough)
  boundary := isBoundary_offset text
  fits := fits_span text
  monotone := fun _ _ => offset_mono
  inverse := fun _ => offset_positionAt
  stripped := fun _ => offset_positionAt_of_isBehindReturn
  column := by
    intro boundary isBoundary
    obtain ⟨index, before, first, rest, behind, isLine, _, isPosition⟩ :=
      exists_isLine_positionAt isBoundary
    have bound := short (first ++ rest) (List.mem_of_getElem? isLine.getElem?_lines)
    rw [unitCount_append] at bound
    rw [isPosition]
    exact Nat.lt_of_le_of_lt (Nat.le_add_right ..) (Nat.lt_of_lt_pred bound)

/-- Lines that end in both ways, one of them with a character of two units, and a carriage
return at the end. -/
def mixedLines : List Char :=
  "a😀\r\n\nñb\r".toList

theorem resolvesPositions_mixedLines :
    (∀ line, line ∈ lines mixedLines → unitCount line < UInt32.size - 1) ∧
      ResolvesPositions mixedLines ∧ offset mixedLines ⟨0, 2⟩ = 5 ∧
      offset mixedLines ⟨0, 9⟩ = 5 ∧ offset mixedLines ⟨3, 0⟩ = 12 ∧
      positionAt mixedLines 10 = ⟨2, 1⟩ ∧ IsBehindReturn mixedLines 12 := by
  have short : ∀ line, line ∈ lines mixedLines → unitCount line < UInt32.size - 1 := by decide
  exact ⟨short, resolvesPositions mixedLines short, by decide, by decide, by decide, by decide,
    ⟨"a😀\r\n\nñb".toList, [], by decide, by decide, Or.inl rfl⟩⟩

end LanguageClient.Document
