import LanguageClient.Proofs.TextEdit.Offset
import Mathlib.Data.List.Nodup

/-!
# Replacing spans

Spans are replaced from the last to the first, each in the text that the one before has
left.  If no two of them overlap, this comes to replacing all of them at once: what is
between the spans stays, and each span gives way to its own text.
-/

namespace LanguageClient.Document

/-! ## Overlaps -/

def Span.Covers (span : Span) (byte : Nat) : Prop :=
  span.start ≤ byte ∧ byte < span.stop

/-- Whether a span is empty and lies strictly inside another. -/
def Span.LiesInside (inner outer : Span) : Prop :=
  inner.start = inner.stop ∧ outer.start < inner.start ∧ inner.start < outer.stop

/-- Whether two spans share a byte, or one is empty and lies strictly inside the other. -/
def Span.Overlap (a b : Span) : Prop :=
  (∃ byte, a.Covers byte ∧ b.Covers byte) ∨ a.LiesInside b ∨ b.LiesInside a

/-- Whether two edits of a list overlap; the same edit listed twice counts as two. -/
def HaveOverlap (text : List Char) (edits : List TextEdit) : Prop :=
  ∃ (i j : Nat) (a b : TextEdit), i ≠ j ∧ edits[i]? = some a ∧ edits[j]? = some b ∧
    (span text a).Overlap (span text b)

/-- Whether a span does not end before it starts. -/
def Span.IsForward (span : Span) : Prop :=
  span.start ≤ span.stop

theorem isForward_span (text : List Char) (edit : TextEdit) : (span text edit).IsForward :=
  Nat.le_max_left ..

section Spans

variable {a b : Span}

theorem Span.Overlap.symm (overlap : a.Overlap b) : b.Overlap a := by
  rcases overlap with ⟨byte, inFirst, inSecond⟩ | inside | inside
  · exact Or.inl ⟨byte, inSecond, inFirst⟩
  · exact Or.inr (Or.inr inside)
  · exact Or.inr (Or.inl inside)

theorem Span.overlap_iff (forward : a.IsForward) (forward' : b.IsForward) :
    a.Overlap b ↔ b.start < a.stop ∧ a.start < b.stop := by
  unfold IsForward at forward forward'
  constructor
  · rintro (⟨byte, inFirst, inSecond⟩ | inside | inside)
    · unfold Covers at inFirst inSecond
      omega
    · unfold LiesInside at inside
      omega
    · unfold LiesInside at inside
      omega
  · rintro ⟨startsBefore, startsBefore'⟩
    by_cases isEmpty : a.start = a.stop
    · exact Or.inr (Or.inl ⟨isEmpty, by omega, startsBefore'⟩)
    · by_cases isEmpty' : b.start = b.stop
      · exact Or.inr (Or.inr ⟨isEmpty', by omega, startsBefore⟩)
      · -- the later of the two starts is a byte of both
        refine Or.inl ⟨max a.start b.start, ?_, ?_⟩
        · unfold Covers
          omega
        · unfold Covers
          omega

theorem Span.le_iff :
    a.le b = true ↔ a.start < b.start ∨ a.start = b.start ∧ a.stop ≤ b.stop := by
  simp [le]

theorem Span.le_trans (a b c : Span) (first : a.le b = true) (second : b.le c = true) :
    a.le c = true := by
  rw [le_iff] at first second ⊢
  omega

theorem Span.le_total (a b : Span) : (a.le b || b.le a) = true := by
  rw [Bool.or_eq_true, le_iff, le_iff]
  omega

/-- Of two spans in order that do not overlap, the first ends before the second starts. -/
theorem Span.not_overlap_iff
    (forward : a.IsForward) (forward' : b.IsForward) (inOrder : a.le b = true) :
    ¬ a.Overlap b ↔ a.stop ≤ b.start := by
  rw [overlap_iff forward forward']
  rw [le_iff] at inOrder
  unfold IsForward at forward forward'
  omega

end Spans

/-- Spans one behind the other: each ends before all later ones start. -/
def AreApart (spans : List Span) : Prop :=
  spans.Pairwise fun a b => a.stop ≤ b.start

/-- To compare each span with the next finds every overlap. -/
theorem overlaps_eq_false_iff
    {spans : List Span} (forward : ∀ span, span ∈ spans → span.IsForward) :
    overlaps spans = false ↔ AreApart spans := by
  induction spans with
  | nil => exact iff_of_true rfl List.Pairwise.nil
  | cons a spans inductionHypothesis =>
      have behind := inductionHypothesis fun span member =>
        forward span (List.mem_cons_of_mem a member)
      cases spans with
      | nil => exact iff_of_true rfl (List.pairwise_singleton _ a)
      | cons b spans =>
          have forward' : b.start ≤ b.stop := forward b (by simp)
          rw [overlaps, Bool.or_eq_false_iff, behind, decide_eq_false_iff_not, Nat.not_lt]
          unfold AreApart
          rw [List.pairwise_cons (a := a)]
          constructor
          · rintro ⟨next, apart⟩
            refine ⟨fun c member => ?_, apart⟩
            rcases List.mem_cons.mp member with rfl | later
            · exact next
            · have afterNext := (List.pairwise_cons.mp apart).1 c later
              omega
          · rintro ⟨first, apart⟩
            exact ⟨first b (by simp), apart⟩

/-! ## Spans in order -/

/-- The spans of edits in the order of their starts and ends; those that agree in both stay
in the order in which the edits are listed. -/
def spansInOrder (text : List Char) (edits : List TextEdit) : List Span :=
  (edits.map (span text)).mergeSort Span.le

section InOrder

variable (text : List Char) (edits : List TextEdit)

theorem spansInOrder_perm : (spansInOrder text edits).Perm (edits.map (span text)) :=
  List.mergeSort_perm ..

theorem spansInOrder_sorted :
    (spansInOrder text edits).Pairwise fun a b => a.le b = true :=
  List.pairwise_mergeSort Span.le_trans Span.le_total _

theorem exists_edit_of_mem {text : List Char} {edits : List TextEdit} {s : Span}
    (member : s ∈ spansInOrder text edits) : ∃ edit, edit ∈ edits ∧ span text edit = s :=
  List.mem_map.mp ((spansInOrder_perm text edits).mem_iff.mp member)

theorem isForward_of_mem {text : List Char} {edits : List TextEdit} {s : Span}
    (member : s ∈ spansInOrder text edits) : s.IsForward := by
  obtain ⟨edit, _, rfl⟩ := exists_edit_of_mem member
  exact isForward_span text edit

theorem haveOverlap_iff :
    HaveOverlap text edits ↔ ¬ (edits.map (span text)).Pairwise fun a b => ¬ a.Overlap b := by
  constructor
  · rintro ⟨i, j, a, b, different, isFirst, isSecond, overlap⟩ pairwise
    obtain ⟨inList, rfl⟩ := List.getElem?_eq_some_iff.mp isFirst
    obtain ⟨inList', rfl⟩ := List.getElem?_eq_some_iff.mp isSecond
    rw [List.pairwise_map, List.pairwise_iff_getElem] at pairwise
    rcases Nat.lt_or_gt_of_ne different with earlier | later
    · exact pairwise i j inList inList' earlier overlap
    · exact pairwise j i inList' inList later overlap.symm
  · intro notPairwise
    rw [List.pairwise_map, List.pairwise_iff_getElem] at notPairwise
    push Not at notPairwise
    obtain ⟨i, j, inList, inList', earlier, overlap⟩ := notPairwise
    exact ⟨i, j, edits[i], edits[j], Nat.ne_of_lt earlier, List.getElem?_eq_getElem inList,
      List.getElem?_eq_getElem inList', overlap⟩

theorem areApart_iff : AreApart (spansInOrder text edits) ↔ ¬ HaveOverlap text edits := by
  have symmetric : ∀ {a b : Span}, ¬ a.Overlap b → ¬ b.Overlap a :=
    fun apart overlap => apart overlap.symm
  have inOrder (a b : Span) (isFirst : a ∈ spansInOrder text edits)
      (isSecond : b ∈ spansInOrder text edits) (le : a.le b = true) :
      ¬ a.Overlap b ↔ a.stop ≤ b.start :=
    Span.not_overlap_iff (isForward_of_mem isFirst) (isForward_of_mem isSecond) le
  rw [haveOverlap_iff, not_not, ← (spansInOrder_perm text edits).pairwise_iff symmetric]
  have sorted := spansInOrder_sorted text edits
  constructor
  · intro apart
    exact (sorted.and apart).imp_of_mem fun isFirst isSecond both =>
      (inOrder _ _ isFirst isSecond both.1).mpr both.2
  · intro apart
    exact (sorted.and apart).imp_of_mem fun isFirst isSecond both =>
      (inOrder _ _ isFirst isSecond both.1).mp both.2

theorem overlaps_spansInOrder :
    overlaps (spansInOrder text edits) = true ↔ HaveOverlap text edits := by
  rw [← not_iff_not, Bool.not_eq_true, overlaps_eq_false_iff fun _ => isForward_of_mem]
  exact areApart_iff text edits

end InOrder

/-! ## Replacement all at once -/

/-- Spans that give way to their texts in a text that starts at an offset: up to the first
span the text stays, the bytes of the span are left out, and its new text stands in their
place. -/
inductive Replaces : Nat → List Char → List Span → List Char → Prop
  | rest (offset : Nat) (text : List Char) : Replaces offset text [] text
  | span {offset : Nat} {gap removed text result : List Char} {span : Span}
      {later : List Span} :
      span.start = offset + size gap →
      span.stop = span.start + size removed →
      Replaces span.stop text later result →
      Replaces offset (gap ++ (removed ++ text)) (span :: later)
        (gap ++ (span.newText ++ result))

theorem append_inj_of_size
    {first first' rest rest' : List Char} (same : first ++ rest = first' ++ rest')
    (sameSize : size first = size first') : first = first' ∧ rest = rest' := by
  have sameFirst : first = first' := by
    rw [← takeBytes_append first rest, same, sameSize, takeBytes_append]
  subst sameFirst
  exact ⟨rfl, List.append_cancel_left same⟩

/-- The spans and the text leave no choice. -/
theorem Replaces.unique
    {offset : Nat} {text : List Char} {spans : List Span} {result result' : List Char}
    (replaced : Replaces offset text spans result)
    (replaced' : Replaces offset text spans result') : result = result' := by
  induction replaced generalizing result' with
  | rest offset text => cases replaced' with | rest => rfl
  | @span offset gap removed text result span later isStart isStop _ inductionHypothesis =>
      generalize isText : gap ++ (removed ++ text) = whole at replaced'
      cases replaced' with
      | @span _ gap' removed' text' result' _ _ isStart' isStop' replaced' =>
          obtain ⟨rfl, isRest⟩ := append_inj_of_size isText (by omega)
          obtain ⟨rfl, rfl⟩ := append_inj_of_size isRest (by omega)
          rw [inductionHypothesis replaced']

/-! ## Replacement one after the other -/

def replaceAll (spans : List Span) (text : List Char) : List Char :=
  spans.foldr (fun span text => replace text span) text

/-- Whether a span can be replaced in a text: it lies between two boundaries. -/
structure Span.Fits (span : Span) (text : List Char) : Prop where
  forward : span.IsForward
  start : IsBoundary text span.start
  stop : IsBoundary text span.stop

theorem fits_span (text : List Char) (edit : TextEdit) : (span text edit).Fits text where
  forward := isForward_span text edit
  start := isBoundary_offset text edit.range.start
  stop := by
    rcases Nat.le_total (offset text edit.range.start) (offset text edit.range.end) with le | le
    · simpa only [span, Nat.max_eq_right le] using isBoundary_offset text edit.range.end
    · simpa only [span, Nat.max_eq_left le] using isBoundary_offset text edit.range.start

section Replacing

variable {span : Span} {spans earlier later : List Span} {front rest text : List Char}

/-- What a span of a text leaves in front of it, takes out, and leaves behind it. -/
theorem Span.Fits.exists_parts
    (fits : span.Fits (front ++ rest)) (isBehind : size front ≤ span.start) :
    ∃ gap removed back, rest = gap ++ (removed ++ back) ∧
      span.start = size front + size gap ∧ span.stop = span.start + size removed := by
  obtain ⟨gap, rest', rfl, isStart⟩ := fits.start.of_append isBehind
  have stop := fits.stop
  rw [← List.append_assoc] at stop
  have forward : size (front ++ gap) ≤ span.stop := by
    rw [size_append, isStart]
    exact fits.forward
  obtain ⟨removed, back, rfl, isStop⟩ := stop.of_append forward
  rw [size_append] at isStop
  exact ⟨gap, removed, back, rfl, isStart.symm, by omega⟩

/-- Spans behind the front of a text leave the front alone, and one after the other they
come to what they are all at once. -/
theorem exists_replaces
    (front rest : List Char) (areBehind : ∀ span, span ∈ spans → size front ≤ span.start)
    (fit : ∀ span, span ∈ spans → span.Fits (front ++ rest)) (apart : AreApart spans) :
    ∃ result, replaceAll spans (front ++ rest) = front ++ result ∧
      Replaces (size front) rest spans result := by
  induction spans generalizing front rest with
  | nil => exact ⟨rest, rfl, .rest (size front) rest⟩
  | cons span spans inductionHypothesis =>
      obtain ⟨first, apart⟩ := List.pairwise_cons.mp apart
      obtain ⟨gap, removed, back, rfl, isStart, isStop⟩ :=
        (fit span List.mem_cons_self).exists_parts (areBehind span List.mem_cons_self)
      have isFront : size (front ++ (gap ++ removed)) = span.stop := by
        rw [size_append, size_append]
        omega
      have regrouped (back : List Char) :
          front ++ (gap ++ removed) ++ back = front ++ (gap ++ (removed ++ back)) := by
        simp only [List.append_assoc]
      obtain ⟨result, replaced, isReplaced⟩ := inductionHypothesis
        (front ++ (gap ++ removed)) back
        (fun later member => isFront ▸ first later member)
        (fun later member => (regrouped back).symm ▸ fit later (List.mem_cons_of_mem _ member))
        apart
      rw [isFront] at isReplaced
      refine ⟨gap ++ (span.newText ++ result), ?_, .span isStart isStop isReplaced⟩
      have kept : takeBytes (front ++ (gap ++ removed) ++ result) span.start = front ++ gap := by
        rw [regrouped, ← List.append_assoc, isStart, ← size_append, takeBytes_append]
      have behind : dropBytes (front ++ (gap ++ removed) ++ result) span.stop = result := by
        rw [← isFront, dropBytes_append]
      rw [replaceAll, List.foldr_cons, ← replaceAll, ← regrouped, replaced, replace, kept, behind]
      simp only [List.append_assoc]

theorem replaces_replaceAll
    (fit : ∀ span, span ∈ spans → span.Fits text) (apart : AreApart spans) :
    Replaces 0 text spans (replaceAll spans text) := by
  obtain ⟨result, replaced, isReplaced⟩ := exists_replaces [] text
    (fun _ _ => Nat.zero_le _) fit apart
  rw [List.nil_append, List.nil_append] at replaced
  exact replaced ▸ isReplaced

/-- When its turn comes, a span still lies between two boundaries of the text. -/
theorem fits_replaceAll
    (fit : ∀ s, s ∈ earlier ++ span :: later → s.Fits text)
    (apart : AreApart (earlier ++ span :: later)) : span.Fits (replaceAll later text) := by
  have fits : span.Fits ([] ++ text) := fit span (by simp)
  obtain ⟨gap, removed, back, rfl, isStart, isStop⟩ := fits.exists_parts (Nat.zero_le _)
  rw [size_nil, Nat.zero_add] at isStart
  have isFront : size (gap ++ removed) = span.stop := by
    rw [size_append]
    omega
  obtain ⟨first, apart⟩ := List.pairwise_cons.mp (List.pairwise_append.mp apart).2.1
  obtain ⟨result, replaced, _⟩ := exists_replaces (gap ++ removed) back
    (fun later member => isFront ▸ first later member)
    (fun later member => (List.append_assoc gap removed back).symm ▸
      fit later (List.mem_append_right _ (List.mem_cons_of_mem _ member))) apart
  rw [List.append_assoc] at replaced
  rw [replaced]
  refine ⟨fits.forward, ?_, ?_⟩
  · rw [isStart, List.append_assoc]
    exact isBoundary_size gap _
  · rw [← isFront]
    exact isBoundary_size (gap ++ removed) result

end Replacing

/-! ## Edits -/

section Edits

variable (text : List Char) (edits : List TextEdit)

theorem fits_of_mem (s : Span) (member : s ∈ spansInOrder text edits) : s.Fits text := by
  obtain ⟨edit, _, rfl⟩ := exists_edit_of_mem member
  exact fits_span text edit

theorem applyEdits_eq_none_iff : applyEdits text edits = none ↔ HaveOverlap text edits := by
  rw [← overlaps_spansInOrder]
  change (if overlaps (spansInOrder text edits) = true then none else _) = none ↔ _
  split
  · rename_i isOverlap
    exact iff_of_true rfl isOverlap
  · rename_i isApart
    exact iff_of_false nofun isApart

theorem applyEdits_of_apart (apart : ¬ HaveOverlap text edits) :
    applyEdits text edits = some (replaceAll (spansInOrder text edits) text) := by
  rw [← overlaps_spansInOrder] at apart
  exact if_neg apart

theorem applyEdits_eq_some_iff (result : List Char) :
    applyEdits text edits = some result ↔
      ¬ HaveOverlap text edits ∧ Replaces 0 text (spansInOrder text edits) result := by
  have replaced (apart : ¬ HaveOverlap text edits) :=
    replaces_replaceAll (fits_of_mem text edits) ((areApart_iff text edits).mpr apart)
  constructor
  · intro isResult
    have apart : ¬ HaveOverlap text edits := fun overlap => by
      rw [(applyEdits_eq_none_iff text edits).mpr overlap] at isResult
      cases isResult
    rw [applyEdits_of_apart text edits apart] at isResult
    injection isResult with same
    exact ⟨apart, same ▸ replaced apart⟩
  · rintro ⟨apart, isResult⟩
    rw [applyEdits_of_apart text edits apart, (replaced apart).unique isResult]

/-- Spans with different starts have one order, however their edits are listed. -/
theorem spansInOrder_of_perm
    {edits' : List TextEdit} (permuted : edits'.Perm edits)
    (distinct : (edits.map fun edit => (span text edit).start).Nodup) :
    spansInOrder text edits' = spansInOrder text edits := by
  have perm : (spansInOrder text edits').Perm (spansInOrder text edits) :=
    (spansInOrder_perm text edits').trans
      ((permuted.map (span text)).trans (spansInOrder_perm text edits).symm)
  refine List.Perm.eq_of_pairwise ?_ (spansInOrder_sorted text edits')
    (spansInOrder_sorted text edits) perm
  intro a b isFirst isSecond le le'
  obtain ⟨edit, isEdit, rfl⟩ := exists_edit_of_mem (perm.mem_iff.mp isFirst)
  obtain ⟨edit', isEdit', rfl⟩ := exists_edit_of_mem isSecond
  rw [Span.le_iff] at le le'
  rw [List.inj_on_of_nodup_map distinct isEdit isEdit' (by omega)]

structure ReplacesAtOnce : Prop where
  /-- Edits are refused for no other reason than an overlap. -/
  refuses : applyEdits text edits = none ↔ HaveOverlap text edits
  /-- Otherwise every span, at once, gives way to its text, and all else stays. -/
  replaces : ∀ result, applyEdits text edits = some result ↔
    ¬ HaveOverlap text edits ∧ Replaces 0 text (spansInOrder text edits) result
  /-- There is one span for each edit. -/
  perm : (spansInOrder text edits).Perm (edits.map (span text))
  sorted : (spansInOrder text edits).Pairwise fun a b => a.le b = true
  /-- Spans that are in order as they are listed stay in the order in which they are listed. -/
  stable : ∀ spans : List Span, spans.Pairwise (fun a b => a.le b = true) →
    spans.Sublist (edits.map (span text)) → spans.Sublist (spansInOrder text edits)
  /-- Whenever a span is replaced, its ends are boundaries of the text as it is then. -/
  fits : ¬ HaveOverlap text edits → ∀ earlier s later,
    spansInOrder text edits = earlier ++ s :: later → s.Fits (replaceAll later text)
  /-- The order of the list plays no part where no two spans have the same start. -/
  unordered : (edits.map fun edit => (span text edit).start).Nodup →
    ∀ edits' : List TextEdit, edits'.Perm edits → applyEdits text edits' = applyEdits text edits

/-- To apply edits is to replace all their spans at once, or to refuse them where two of
them overlap. -/
theorem replacesAtOnce : ReplacesAtOnce text edits where
  refuses := applyEdits_eq_none_iff text edits
  replaces := applyEdits_eq_some_iff text edits
  perm := spansInOrder_perm text edits
  sorted := spansInOrder_sorted text edits
  stable := fun _ sorted isListed =>
    List.sublist_mergeSort Span.le_trans Span.le_total sorted isListed
  fits := by
    intro apart earlier s later split
    have isApart := (areApart_iff text edits).mpr apart
    have fit := fits_of_mem text edits
    rw [split] at isApart fit
    exact fits_replaceAll fit isApart
  unordered := by
    intro distinct edits' permuted
    have same := spansInOrder_of_perm text edits permuted distinct
    unfold spansInOrder at same
    simp only [applyEdits, same]

end Edits

end LanguageClient.Document
