import LanguageClient.TextEdit

/-!
# Offsets of a text

How many bytes the parts of a text have, where its characters end, and how its lines cut it
into pieces.  The offset of every position lies between two characters.
-/

namespace LanguageClient.Document

/-! ## Sizes -/

/-- What the characters of a text weigh together is a sum over its parts. -/
theorem foldr_weight_append (weight : Char → Nat) (front back : List Char) :
    (front ++ back).foldr (fun c total => weight c + total) 0 =
      front.foldr (fun c total => weight c + total) 0 +
        back.foldr (fun c total => weight c + total) 0 := by
  induction front with
  | nil => exact (Nat.zero_add _).symm
  | cons c front inductionHypothesis =>
      rw [List.cons_append, List.foldr_cons, List.foldr_cons, inductionHypothesis, Nat.add_assoc]

@[simp]
theorem size_nil : size [] = 0 := rfl

@[simp]
theorem size_cons (c : Char) (text : List Char) : size (c :: text) = c.utf8Size + size text :=
  rfl

@[simp]
theorem size_append (front back : List Char) : size (front ++ back) = size front + size back :=
  foldr_weight_append Char.utf8Size front back

/-! ## Bytes at the front -/

theorem takeBytes_append (front back : List Char) :
    takeBytes (front ++ back) (size front) = front := by
  induction front with
  | nil =>
      cases back with
      | nil => rfl
      | cons c back => exact if_pos c.utf8Size_pos
  | cons c front inductionHypothesis =>
      have fits : ¬ size (c :: front) < c.utf8Size := by
        rw [size_cons]
        omega
      rw [List.cons_append, takeBytes, if_neg fits, size_cons, Nat.add_sub_cancel_left,
        inductionHypothesis]

theorem dropBytes_zero (text : List Char) : dropBytes text 0 = text := by
  cases text <;> rfl

theorem dropBytes_cons {c : Char} {text : List Char} {count : Nat} (positive : 0 < count) :
    dropBytes (c :: text) count = dropBytes text (count - c.utf8Size) := by
  cases count with
  | zero => cases positive
  | succ count => rfl

theorem dropBytes_append (front back : List Char) :
    dropBytes (front ++ back) (size front) = back := by
  induction front with
  | nil => exact dropBytes_zero back
  | cons c front inductionHypothesis =>
      have positive : 0 < size (c :: front) := Nat.add_pos_left c.utf8Size_pos _
      rw [List.cons_append, dropBytes_cons positive, size_cons, Nat.add_sub_cancel_left,
        inductionHypothesis]

/-! ## Boundaries -/

/-- Whether no character of a text stands on both sides of an offset, which is one of the
text. -/
def IsBoundary (text : List Char) (offset : Nat) : Prop :=
  ∃ front back, text = front ++ back ∧ size front = offset

theorem isBoundary_size (front back : List Char) : IsBoundary (front ++ back) (size front) :=
  ⟨front, back, rfl, rfl⟩

theorem isBoundary_zero (text : List Char) : IsBoundary text 0 :=
  isBoundary_size [] text

theorem IsBoundary.append_left
    {text : List Char} {offset : Nat} (boundary : IsBoundary text offset) (front : List Char) :
    IsBoundary (front ++ text) (size front + offset) := by
  obtain ⟨first, rest, rfl, rfl⟩ := boundary
  exact ⟨front ++ first, rest, (List.append_assoc ..).symm, size_append front first⟩

theorem IsBoundary.append_right
    {text : List Char} {offset : Nat} (boundary : IsBoundary text offset) (back : List Char) :
    IsBoundary (text ++ back) offset := by
  obtain ⟨first, rest, rfl, rfl⟩ := boundary
  exact ⟨first, rest ++ back, List.append_assoc .., rfl⟩

/-- A boundary behind the front of a text is one of what is behind the front. -/
theorem IsBoundary.of_append
    {front rest : List Char} {offset : Nat} (boundary : IsBoundary (front ++ rest) offset)
    (isBehind : size front ≤ offset) :
    ∃ gap later, rest = gap ++ later ∧ size front + size gap = offset := by
  induction front generalizing offset with
  | nil =>
      obtain ⟨gap, later, isRest, isOffset⟩ := boundary
      exact ⟨gap, later, isRest, by simpa using isOffset⟩
  | cons c front inductionHypothesis =>
      obtain ⟨first, later, isText, isOffset⟩ := boundary
      cases first with
      | nil =>
          have positive := c.utf8Size_pos
          simp only [size_nil, size_cons] at isOffset isBehind
          omega
      | cons c' first =>
          rw [List.cons_append, List.cons_append] at isText
          injection isText with sameHead sameTail
          subst sameHead
          rw [size_cons] at isOffset isBehind
          have behind : IsBoundary (front ++ rest) (size first) := ⟨first, later, sameTail, rfl⟩
          obtain ⟨gap, later', isRest, isSize⟩ := inductionHypothesis behind (by omega)
          refine ⟨gap, later', isRest, ?_⟩
          rw [size_cons]
          omega

/-! ## Lines -/

/-- A line of a text between what is in front of it and what is behind it.  In front stand
the lines before, each with its line feed; behind stands the line feed of the line, if it
has one, and all the rest. -/
structure IsLine (text : List Char) (index : Nat) (before line behind : List Char) : Prop where
  parts : text = before ++ (line ++ behind)
  count : before.count '\n' = index
  opens : before = [] ∨ ∃ front, before = front ++ ['\n']
  undivided : '\n' ∉ line
  closes : behind = [] ∨ ∃ back, behind = '\n' :: back

theorem lines_append_feed (front back : List Char) :
    lines (front ++ '\n' :: back) = lines front ++ lines back :=
  List.splitOn_append_cons_self front back

theorem lines_cons (c : Char) (text : List Char) :
    ∃ first later, lines text = first :: later ∧
      lines (c :: text) =
        if c = '\n' then [] :: first :: later else (c :: first) :: later := by
  obtain ⟨first, later, isLines⟩ := List.exists_cons_of_ne_nil (List.splitOn_ne_nil '\n' text)
  refine ⟨first, later, isLines, ?_⟩
  rw [lines, List.splitOn_cons_eq_if_modifyHead, isLines, List.modifyHead_cons]
  simp only [beq_iff_eq]

theorem length_lines (text : List Char) : (lines text).length = text.count '\n' + 1 := by
  induction text with
  | nil => rfl
  | cons c text inductionHypothesis =>
      obtain ⟨first, later, isLines, isLines'⟩ := lines_cons c text
      rw [isLines, List.length_cons] at inductionHypothesis
      rw [isLines', List.count_cons]
      by_cases isFeed : c = '\n'
      · simp only [isFeed, if_true, List.length_cons, beq_self_eq_true]
        omega
      · simp only [isFeed, if_false, List.length_cons, beq_iff_eq]
        omega

/-- The lines of a text, each with a line feed, have one byte more than the text. -/
theorem foldr_lines (text : List Char) :
    (lines text).foldr (fun line offset => size line + 1 + offset) 0 = size text + 1 := by
  induction text with
  | nil => rfl
  | cons c text inductionHypothesis =>
      obtain ⟨first, later, isLines, isLines'⟩ := lines_cons c text
      rw [isLines, List.foldr_cons] at inductionHypothesis
      rw [isLines', size_cons]
      split
      · rename_i isFeed
        have oneByte : c.utf8Size = 1 := by
          rw [isFeed]
          rfl
        rw [List.foldr_cons, List.foldr_cons, inductionHypothesis, size_nil, oneByte]
        omega
      · rw [List.foldr_cons, size_cons]
        omega

section Line

variable {text before line behind : List Char} {index : Nat}

/-- The lines in front of a line are as many as its index, and have the bytes in front of it. -/
theorem IsLine.exists_lines (isLine : IsLine text index before line behind) :
    ∃ earlier later, lines text = earlier ++ line :: later ∧ earlier.length = index ∧
      earlier.foldr (fun line offset => size line + 1 + offset) 0 = size before := by
  -- The line is the first one behind its front, and the front is the lines before it.
  obtain ⟨later, isFirst⟩ : ∃ later, lines (line ++ behind) = line :: later := by
    have single : lines line = [line] := List.splitOn_eq_singleton isLine.undivided
    rcases isLine.closes with rfl | ⟨back, rfl⟩
    · exact ⟨[], by rw [List.append_nil, single]⟩
    · exact ⟨lines back, by rw [lines_append_feed, single, List.singleton_append]⟩
  have count := isLine.count
  rw [isLine.parts]
  rcases isLine.opens with rfl | ⟨front, rfl⟩
  · exact ⟨[], later, isFirst, count, rfl⟩
  · refine ⟨lines front, later, ?_, ?_, ?_⟩
    · rw [List.append_assoc, List.singleton_append, lines_append_feed, isFirst]
    · rw [length_lines, ← count, List.count_append, List.count_singleton_self]
    · rw [foldr_lines, size_append]
      rfl

theorem IsLine.getElem?_lines (isLine : IsLine text index before line behind) :
    (lines text)[index]? = some line := by
  obtain ⟨earlier, later, isLines, rfl, _⟩ := isLine.exists_lines
  rw [isLines, List.getElem?_append_right (Nat.le_refl _), Nat.sub_self, List.getElem?_cons_zero]

theorem IsLine.lineOffset_eq (isLine : IsLine text index before line behind) :
    lineOffset text index = size before := by
  obtain ⟨earlier, later, isLines, rfl, isSize⟩ := isLine.exists_lines
  rw [lineOffset, isLines, List.take_left, isSize]

end Line

/-- The first line of a text, and the rest. -/
theorem exists_first_line (text : List Char) :
    ∃ line behind, text = line ++ behind ∧ '\n' ∉ line ∧
      (behind = [] ∨ ∃ back, behind = '\n' :: back) := by
  by_cases divided : '\n' ∈ text
  · obtain ⟨line, back, isText, undivided⟩ := List.eq_append_cons_of_mem divided
    exact ⟨line, '\n' :: back, isText, undivided, Or.inr ⟨back, rfl⟩⟩
  · exact ⟨text, [], (List.append_nil text).symm, divided, Or.inl rfl⟩

/-- The last line of a text, and all in front of it. -/
theorem exists_last_line (text : List Char) :
    ∃ before line, text = before ++ line ∧ '\n' ∉ line ∧
      (before = [] ∨ ∃ front, before = front ++ ['\n']) := by
  -- It is the first line of the reversed text.
  obtain ⟨line, behind, isReverse, undivided, closes⟩ := exists_first_line text.reverse
  refine ⟨behind.reverse, line.reverse, ?_, mt List.mem_reverse.mp undivided, ?_⟩
  · rw [← List.reverse_append, ← isReverse, List.reverse_reverse]
  · rcases closes with rfl | ⟨back, rfl⟩
    · exact Or.inl rfl
    · exact Or.inr ⟨back.reverse, List.reverse_cons⟩

/-- Wherever a text is cut, the cut goes through one line. -/
theorem exists_isLine_append (front back : List Char) :
    ∃ before first rest behind, front = before ++ first ∧ back = rest ++ behind ∧
      IsLine (front ++ back) (front.count '\n') before (first ++ rest) behind := by
  obtain ⟨before, first, rfl, undivided, opens⟩ := exists_last_line front
  obtain ⟨rest, behind, rfl, undivided', closes⟩ := exists_first_line back
  refine ⟨before, first, rest, behind, rfl, rfl, ?_, ?_, opens, ?_, closes⟩
  · simp only [List.append_assoc]
  · rw [List.count_append, List.count_eq_zero_of_not_mem undivided, Nat.add_zero]
  · rw [List.mem_append, not_or]
    exact ⟨undivided, undivided'⟩

theorem exists_append_of_le_count
    {text : List Char} {index : Nat} (le : index ≤ text.count '\n') :
    ∃ front back, text = front ++ back ∧ front.count '\n' = index := by
  induction text generalizing index with
  | nil => exact ⟨[], [], rfl, (Nat.le_zero.mp le).symm⟩
  | cons c text inductionHypothesis =>
      rw [List.count_cons] at le
      cases index with
      | zero => exact ⟨[], c :: text, rfl, rfl⟩
      | succ index =>
          by_cases isFeed : c = '\n'
          · subst isFeed
            rw [beq_self_eq_true, if_pos rfl] at le
            obtain ⟨front, back, rfl, rfl⟩ := inductionHypothesis (Nat.le_of_succ_le_succ le)
            exact ⟨'\n' :: front, back, rfl, List.count_cons_self⟩
          · rw [beq_false_of_ne isFeed, if_neg Bool.false_ne_true] at le
            obtain ⟨front, back, rfl, isCount⟩ := inductionHypothesis le
            exact ⟨c :: front, back, rfl, by rw [List.count_cons_of_ne isFeed, isCount]⟩

/-- A text has a line more than it has line feeds. -/
theorem exists_isLine_iff (text : List Char) (index : Nat) :
    (∃ before line behind, IsLine text index before line behind) ↔ index ≤ text.count '\n' := by
  constructor
  · rintro ⟨before, line, behind, isLine⟩
    rw [isLine.parts, ← isLine.count, List.count_append]
    exact Nat.le_add_right ..
  · intro le
    obtain ⟨front, back, rfl, rfl⟩ := exists_append_of_le_count le
    obtain ⟨before, first, rest, behind, _, _, isLine⟩ := exists_isLine_append front back
    exact ⟨before, first ++ rest, behind, isLine⟩

/-! ## Positions -/

theorem isBoundary_columnOffset (line : List Char) (column : Nat) :
    IsBoundary line (columnOffset line column) := by
  induction line generalizing column with
  | nil => exact isBoundary_zero []
  | cons c line inductionHypothesis =>
      cases column with
      | zero => exact isBoundary_zero (c :: line)
      | succ column =>
          have behind := (inductionHypothesis (column + 1 - units c)).append_left [c]
          rwa [size_cons, size_nil, Nat.add_zero] at behind

theorem exists_content_append (line : List Char) : ∃ ending, line = content line ++ ending := by
  unfold content
  split
  · exact ⟨line.drop (line.length - 1), by rw [List.dropLast_eq_take, List.take_append_drop]⟩
  · exact ⟨[], (List.append_nil line).symm⟩

theorem offset_of_lt {text : List Char} {position : Position}
    (beyond : text.count '\n' < position.line) : offset text position = size text := by
  have missing : (lines text)[position.line]? = none := by
    rw [List.getElem?_eq_none_iff, length_lines]
    exact beyond
  rw [offset, missing]

theorem IsLine.offset_eq {text before line behind : List Char} {index : Nat}
    (isLine : IsLine text index before line behind) (column : Nat) :
    offset text ⟨index, column⟩ = size before + columnOffset (content line) column := by
  rw [offset, isLine.getElem?_lines, ← isLine.lineOffset_eq]

/-- The offset of a position lies between two characters, wherever the position is. -/
theorem isBoundary_offset (text : List Char) (position : Position) :
    IsBoundary text (offset text position) := by
  by_cases beyond : text.count '\n' < position.line
  · rw [offset_of_lt beyond]
    exact ⟨text, [], (List.append_nil text).symm, rfl⟩
  · obtain ⟨before, line, behind, isLine⟩ :=
      (exists_isLine_iff text position.line).mpr (Nat.le_of_not_lt beyond)
    obtain ⟨ending, isContent⟩ := exists_content_append line
    have inContent := isBoundary_columnOffset (content line) position.character
    have inLine := inContent.append_right ending
    rw [← isContent] at inLine
    have inText := (inLine.append_right behind).append_left before
    rwa [← isLine.parts, ← isLine.offset_eq position.character] at inText

end LanguageClient.Document
