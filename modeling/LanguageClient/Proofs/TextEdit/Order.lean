import LanguageClient.Proofs.Sequence
import LanguageClient.Proofs.TextEdit.Replacement
import Mathlib

/-!
# The order of new texts

Edits may start at the same offset.  If they do not overlap, all but one of them are
insertions, and the text of an insertion stands in front of the text that replaces
something.  Insertions stay in the order in which they are listed.
-/

namespace LanguageClient.Document

/-! ## Edits and their places in a list -/

/-- Edits with their places in the list, in the order of their spans. -/
def arranged (text : List Char) (edits : List TextEdit) : List (TextEdit × Nat) :=
  edits.zipIdx.mergeSort fun a b => (span text a.1).le (span text b.1)

section Arranged

variable (text : List Char) (edits : List TextEdit)

theorem arranged_perm : (arranged text edits).Perm edits.zipIdx :=
  List.mergeSort_perm ..

theorem map_arranged :
    (arranged text edits).map (fun edit => span text edit.1) = spansInOrder text edits := by
  have spans : edits.zipIdx.map (fun edit => span text edit.1) = edits.map (span text) := by
    rw [← Function.comp_def (span text) Prod.fst, ← List.map_map, List.zipIdx_map_fst]
  rw [arranged, List.map_mergeSort (s := Span.le) fun _ _ _ _ => rfl, spans, spansInOrder]

theorem pair_sublist_arranged
    {i j : Nat} {a b : TextEdit} (isFirst : edits[i]? = some a) (isSecond : edits[j]? = some b)
    (earlier : i < j) (inOrder : (span text a).le (span text b) = true) :
    [(a, i), (b, j)].Sublist (arranged text edits) :=
  List.pair_sublist_mergeSort (fun _ _ _ => Span.le_trans _ _ _) (fun _ _ => Span.le_total _ _)
    inOrder (pair_sublist_zipIdx isFirst isSecond earlier)

end Arranged

/-! ## The order in a result -/

/-- Whether the new text of one edit stands before that of another in a result, which comes
of the edits in some order that has each of them once.  An edit is given with its place in
the list. -/
def StandsBefore (text : List Char) (edits : List TextEdit) (result : List Char)
    (x y : TextEdit × Nat) : Prop :=
  ∃ order : List (TextEdit × Nat), order.Perm edits.zipIdx ∧
    Replaces 0 text (order.map fun edit => span text edit.1) result ∧ [x, y].Sublist order

theorem Replaces.areApart
    {offset : Nat} {text : List Char} {spans : List Span} {result : List Char}
    (replaced : Replaces offset text spans result) :
    AreApart spans ∧ ∀ span, span ∈ spans → offset ≤ span.start := by
  induction replaced with
  | rest offset text => exact ⟨List.Pairwise.nil, nofun⟩
  | @span offset gap removed text result span later isStart isStop _ inductionHypothesis =>
      obtain ⟨apart, areBehind⟩ := inductionHypothesis
      refine ⟨List.pairwise_cons.mpr ⟨areBehind, apart⟩, fun s member => ?_⟩
      rcases List.mem_cons.mp member with rfl | isLater
      · omega
      · have behind := areBehind s isLater
        omega

/-- Where a new text stands before another, they are found in the result in this order. -/
theorem Replaces.exists_texts
    {offset : Nat} {text : List Char} {spans : List Span} {result : List Char} {a b : Span}
    (replaced : Replaces offset text spans result) (inOrder : [a, b].Sublist spans) :
    ∃ front middle back,
      result = front ++ (a.newText ++ (middle ++ (b.newText ++ back))) := by
  -- one text first: it is found behind what the spans before it come to
  have found {offset : Nat} {text : List Char} {spans : List Span} {result : List Char}
      (replaced : Replaces offset text spans result) (member : b ∈ spans) :
      ∃ front back, result = front ++ (b.newText ++ back) := by
    induction replaced with
    | rest offset text => cases member
    | @span offset gap removed text result span later _ _ _ inductionHypothesis =>
        rcases List.mem_cons.mp member with rfl | isLater
        · exact ⟨gap, result, rfl⟩
        · obtain ⟨front, back, rfl⟩ := inductionHypothesis isLater
          exact ⟨gap ++ (span.newText ++ front), back, by simp only [List.append_assoc]⟩
  induction replaced with
  | rest offset text => cases inOrder
  | @span offset gap removed text result span later _ _ replaced inductionHypothesis =>
      cases inOrder with
      | cons _ inOrder =>
          obtain ⟨front, middle, back, rfl⟩ := inductionHypothesis inOrder
          exact ⟨gap ++ (span.newText ++ front), middle, back, by simp only [List.append_assoc]⟩
      | cons_cons _ isSecond =>
          obtain ⟨middle, back, rfl⟩ := found replaced (List.singleton_sublist.mp isSecond)
          exact ⟨gap, middle, back, rfl⟩

section Result

variable {text : List Char} {edits : List TextEdit} {result : List Char}

theorem StandsBefore.stop_le {x y : TextEdit × Nat}
    (stands : StandsBefore text edits result x y) :
    (span text x.1).stop ≤ (span text y.1).start := by
  obtain ⟨order, _, replaced, inOrder⟩ := stands
  exact List.pairwise_iff_forall_sublist.mp replaced.areApart.1
    (inOrder.map fun edit : TextEdit × Nat => span text edit.1)

theorem StandsBefore.exists_texts {x y : TextEdit × Nat}
    (stands : StandsBefore text edits result x y) :
    ∃ front middle back,
      result = front ++ (x.1.newText.toList ++ (middle ++ (y.1.newText.toList ++ back))) := by
  obtain ⟨order, _, replaced, inOrder⟩ := stands
  exact replaced.exists_texts (inOrder.map fun edit : TextEdit × Nat => span text edit.1)

theorem standsBefore_of_arranged
    (accepted : applyEdits text edits = some result) {x y : TextEdit × Nat}
    (inOrder : [x, y].Sublist (arranged text edits)) : StandsBefore text edits result x y := by
  have replaced := ((applyEdits_eq_some_iff text edits result).mp accepted).2
  rw [← map_arranged] at replaced
  exact ⟨arranged text edits, arranged_perm text edits, replaced, inOrder⟩

/-- Of two edits with the same start, the text of the one listed first stands before the
text of the other if it is an insertion, and only then; if it replaces something, the text
of the other stands before its own. -/
theorem standsBefore_of_same_start
    (accepted : applyEdits text edits = some result) {i j : Nat} {a b : TextEdit}
    (isFirst : edits[i]? = some a) (isSecond : edits[j]? = some b) (earlier : i < j)
    (sameStart : (span text a).start = (span text b).start) :
    (StandsBefore text edits result (a, i) (b, j) ↔
        (span text a).start = (span text a).stop) ∧
      (StandsBefore text edits result (b, j) (a, i) ∨
        (span text a).start = (span text a).stop) := by
  have forward : (span text a).start ≤ (span text a).stop := isForward_span text a
  have forward' : (span text b).start ≤ (span text b).stop := isForward_span text b
  have onlyInsertion (stands : StandsBefore text edits result (a, i) (b, j)) :
      (span text a).start = (span text a).stop := by
    have apart : (span text a).stop ≤ (span text b).start := stands.stop_le
    omega
  have ofInsertion (isInsertion : (span text a).start = (span text a).stop) :
      StandsBefore text edits result (a, i) (b, j) := by
    refine standsBefore_of_arranged accepted
      (pair_sublist_arranged text edits isFirst isSecond earlier (Span.le_iff.mpr ?_))
    omega
  refine ⟨⟨onlyInsertion, ofInsertion⟩, ?_⟩
  have listed {k : Nat} {edit : TextEdit} (isListed : edits[k]? = some edit) :
      (edit, k) ∈ arranged text edits :=
    (arranged_perm text edits).mem_iff.mpr (List.mem_zipIdx_iff_getElem?.mpr isListed)
  have different : (a, i) ≠ (b, j) := fun same => Nat.ne_of_lt earlier (Prod.mk.inj same).2
  rcases pair_sublist_or (listed isSecond) (listed isFirst) different with inOrder | reversed
  · exact Or.inl (standsBefore_of_arranged accepted inOrder)
  · exact Or.inr (onlyInsertion (standsBefore_of_arranged accepted reversed))

end Result

/-- Two insertions at one place, and between them in the list the replacement of the
character behind it. -/
def mixedEdits : List TextEdit :=
  [⟨⟨⟨0, 1⟩, ⟨0, 1⟩⟩, "X"⟩, ⟨⟨⟨0, 1⟩, ⟨0, 2⟩⟩, "R"⟩, ⟨⟨⟨0, 1⟩, ⟨0, 0⟩⟩, "Y"⟩]

theorem standsBefore_of_same_start_mixedEdits :
    applyEdits "añb".toList mixedEdits = some "aXYRb".toList ∧
      StandsBefore "añb".toList mixedEdits "aXYRb".toList (mixedEdits[0], 0) (mixedEdits[2], 2) ∧
      StandsBefore "añb".toList mixedEdits "aXYRb".toList (mixedEdits[2], 2) (mixedEdits[1], 1) ∧
      ¬ StandsBefore "añb".toList mixedEdits "aXYRb".toList
        (mixedEdits[1], 1) (mixedEdits[2], 2) := by
  have accepted : applyEdits "añb".toList mixedEdits = some "aXYRb".toList := by cbv
  have insertions := standsBefore_of_same_start accepted (i := 0) (j := 2) rfl rfl (by decide)
    (by cbv)
  have replacement := standsBefore_of_same_start accepted (i := 1) (j := 2) rfl rfl (by decide)
    (by cbv)
  have isReplacement : (span "añb".toList mixedEdits[1]).start ≠
      (span "añb".toList mixedEdits[1]).stop := by cbv
  exact ⟨accepted, insertions.1.mpr (by cbv), replacement.2.resolve_right isReplacement,
    fun stands => isReplacement (replacement.1.mp stands)⟩

/-- A replacement that is listed before an insertion at its start. -/
def replacementFirst : List TextEdit :=
  [⟨⟨⟨0, 0⟩, ⟨0, 3⟩⟩, "R"⟩, ⟨⟨⟨0, 0⟩, ⟨0, 0⟩⟩, "I"⟩]

/-- The text of the replacement comes behind that of the insertion. -/
theorem not_standsBefore_replacementFirst :
    applyEdits "abcdef".toList replacementFirst = some "IRdef".toList ∧
      (span "abcdef".toList replacementFirst[0]).start =
        (span "abcdef".toList replacementFirst[1]).start ∧
      ¬ StandsBefore "abcdef".toList replacementFirst "IRdef".toList
        (replacementFirst[0], 0) (replacementFirst[1], 1) ∧
      ¬ ∃ front middle back,
        "IRdef".toList = front ++ (['R'] ++ (middle ++ (['I'] ++ back))) := by
  have notInOrder : ¬ ∃ front middle back,
      "IRdef".toList = front ++ (['R'] ++ (middle ++ (['I'] ++ back))) := by
    rintro ⟨front, middle, back, isResult⟩
    have behind : ['I'].Sublist (middle ++ (['I'] ++ back)) :=
      (List.sublist_append_left ['I'] back).trans (List.sublist_append_right middle _)
    have inOrder : ['R', 'I'].Sublist "IRdef".toList :=
      isResult ▸ (behind.cons_cons 'R').trans (List.sublist_append_right front _)
    exact absurd inOrder (by decide)
  exact ⟨by cbv, by cbv, fun stands => notInOrder stands.exists_texts, notInOrder⟩

end LanguageClient.Document
