import Mathlib.Data.List.Forall2
import Mathlib.Data.List.Nodup

/-!
# Sequences

In which order two members of a sequence stand, what stands between separators, and what
comes of a sequence of computations that may fail.
-/

namespace LanguageClient

section Pairs

variable {α : Type} {items : List α}

theorem pair_sublist_or
    {first second : α} (isFirst : first ∈ items) (isSecond : second ∈ items)
    (different : second ≠ first) :
    [first, second].Sublist items ∨ [second, first].Sublist items := by
  obtain ⟨front, back, rfl⟩ := List.append_of_mem isFirst
  rcases List.mem_append.mp isSecond with inFront | inBack
  · right
    exact (List.singleton_sublist.mpr inFront).append
      (List.singleton_sublist.mpr (List.mem_cons_self ..))
  · left
    have behind := List.mem_of_ne_of_mem different inBack
    exact ((List.singleton_sublist.mpr behind).cons_cons first).trans
      (List.sublist_append_right ..)

/-- Members with their places stand in the order of the places. -/
theorem pair_sublist_zipIdx
    {i j : Nat} {first second : α} (isFirst : items[i]? = some first)
    (isSecond : items[j]? = some second) (earlier : i < j) :
    [(first, i), (second, j)].Sublist items.zipIdx := by
  have increasing : items.zipIdx.Pairwise fun a b => a.2 < b.2 := by
    rw [← List.pairwise_map, List.zipIdx_map_snd]
    exact List.pairwise_lt_range'
  have different : (second, j) ≠ (first, i) := fun same =>
    Nat.ne_of_gt earlier (Prod.mk.inj same).2
  rcases pair_sublist_or (List.mem_zipIdx_iff_getElem?.mpr isFirst)
    (List.mem_zipIdx_iff_getElem?.mpr isSecond) different with inOrder | reversed
  · exact inOrder
  · have later : j < i := List.pairwise_iff_forall_sublist.mp increasing reversed
    omega

theorem filterMap_concat {β : Type} (f : α → Option β) (items : List α) (last : α) :
    (items ++ [last]).filterMap f = items.filterMap f ++ (f last).toList := by
  rw [List.filterMap_append]
  cases isLast : f last <;> simp [isLast]

end Pairs

/-! ## Separators -/

section Separators

variable {α : Type} {separator : α}

/-- Pieces with a separator in front of each are what stands between the separators. -/
theorem splitOnP_flatMap_cons
    {isSeparator : α → Bool} (isSep : isSeparator separator = true) {pieces : List (List α)}
    (undivided : ∀ piece, piece ∈ pieces → ∀ item, item ∈ piece → isSeparator item = false) :
    (pieces.flatMap fun piece => separator :: piece).splitOnP isSeparator = [] :: pieces := by
  have behind (first : List α) (isUndivided : ∀ item, item ∈ first → isSeparator item = false) :
      (first ++ pieces.flatMap fun piece => separator :: piece).splitOnP isSeparator =
        first :: pieces := by
    induction pieces generalizing first with
    | nil => simpa using List.splitOnP_eq_singleton isUndivided
    | cons piece pieces inductionHypothesis =>
        obtain ⟨next, others⟩ := List.forall_mem_cons.mp undivided
        rw [List.flatMap_cons, List.cons_append, List.splitOnP_append_cons _ _ isSep,
          List.splitOnP_eq_singleton isUndivided, inductionHypothesis others piece next,
          List.singleton_append]
  exact behind [] nofun

variable [BEq α] [LawfulBEq α]

theorem not_mem_of_mem_splitOn
    {items piece : List α} (isPiece : piece ∈ items.splitOn separator) : separator ∉ piece := by
  induction items generalizing piece with
  | nil =>
      rw [List.mem_singleton.mp isPiece]
      exact List.not_mem_nil
  | cons item items inductionHypothesis =>
      rw [List.splitOn_cons_eq_if_modifyHead] at isPiece
      split at isPiece
      · rcases List.mem_cons.mp isPiece with rfl | inRest
        · exact List.not_mem_nil
        · exact inductionHypothesis inRest
      · rename_i different
        cases pieces : items.splitOn separator with
        | nil => exact absurd pieces (List.splitOn_ne_nil separator items)
        | cons first rest =>
            rw [pieces, List.modifyHead_cons] at isPiece
            rw [pieces] at inductionHypothesis
            rcases List.mem_cons.mp isPiece with rfl | inRest
            · rw [List.mem_cons, not_or]
              exact ⟨fun same => different (by simp [same]),
                inductionHypothesis List.mem_cons_self⟩
            · exact inductionHypothesis (List.mem_cons_of_mem first inRest)

theorem splitOn_flatMap_cons
    {pieces : List (List α)} (undivided : ∀ piece, piece ∈ pieces → separator ∉ piece) :
    (pieces.flatMap fun piece => separator :: piece).splitOn separator = [] :: pieces := by
  rw [List.splitOn_eq_splitOnP]
  refine splitOnP_flatMap_cons (by simp) fun piece isPiece item isItem => ?_
  rw [beq_eq_false_iff_ne]
  rintro rfl
  exact undivided piece isPiece isItem

end Separators

/-! ## Computations that may fail -/

section Failures

variable {α β ε : Type} {compute : α → Except ε β} {items : List α}

theorem bind_eq_ok_iff {first : Except ε α} {result : β} :
    (first >>= compute) = .ok result ↔
      ∃ value, first = .ok value ∧ compute value = .ok result := by
  cases first with
  | error error => exact iff_of_false nofun nofun
  | ok value =>
      constructor
      · exact fun computed => ⟨value, rfl, computed⟩
      · rintro ⟨_, same, computed⟩
        cases same
        exact computed

theorem map_eq_ok_iff {first : Except ε α} {f : α → β} {result : β} :
    first.map f = .ok result ↔ ∃ value, first = .ok value ∧ f value = result := by
  cases first <;> simp [Except.map]

theorem mapError_eq_ok_iff {ε' : Type} {first : Except ε α} {change : ε → ε'} {result : α} :
    first.mapError change = .ok result ↔ first = .ok result := by
  cases first <;> simp [Except.mapError]

theorem exists_of_mapM_eq_error {error : ε} (failed : items.mapM compute = .error error) :
    ∃ item, item ∈ items ∧ compute item = .error error := by
  induction items with
  | nil => cases failed
  | cons item items inductionHypothesis =>
      rw [List.mapM_cons] at failed
      cases computed : compute item with
      | error error' =>
          rw [computed] at failed
          injection failed with same
          exact ⟨item, List.mem_cons_self, same ▸ computed⟩
      | ok result =>
          rw [computed] at failed
          cases rest : items.mapM compute with
          | ok results =>
              rw [rest] at failed
              cases failed
          | error error' =>
              rw [rest] at failed
              injection failed with same
              obtain ⟨item', member, computed'⟩ := inductionHypothesis (same ▸ rest)
              exact ⟨item', List.mem_cons_of_mem item member, computed'⟩

theorem forall₂_of_mapM_eq_ok {results : List β} (computed : items.mapM compute = .ok results) :
    List.Forall₂ (fun item result => compute item = .ok result) items results := by
  induction items generalizing results with
  | nil =>
      injection computed with same
      exact same ▸ .nil
  | cons item items inductionHypothesis =>
      rw [List.mapM_cons] at computed
      cases first : compute item with
      | error error =>
          rw [first] at computed
          cases computed
      | ok result =>
          rw [first] at computed
          cases rest : items.mapM compute with
          | error error =>
              rw [rest] at computed
              cases computed
          | ok results' =>
              rw [rest] at computed
              injection computed with same
              exact same ▸ .cons first (inductionHypothesis rest)

/-- A sequence of computations comes to results if each of them does. -/
theorem mapM_eq_ok_iff {results : List β} :
    items.mapM compute = .ok results ↔
      List.Forall₂ (fun item result => compute item = .ok result) items results := by
  refine ⟨forall₂_of_mapM_eq_ok, fun computed => ?_⟩
  induction computed with
  | nil => rfl
  | cons first _ inductionHypothesis =>
      rw [List.mapM_cons, first, inductionHypothesis]
      rfl

theorem exists_ok_of_forall₂
    {results : List β} (computed : List.Forall₂ (fun item result => compute item = .ok result)
      items results) {item : α} (member : item ∈ items) : ∃ result, compute item = .ok result := by
  induction computed with
  | nil => cases member
  | cons first _ inductionHypothesis =>
      rcases List.mem_cons.mp member with rfl | isLater
      · exact ⟨_, first⟩
      · exact inductionHypothesis isLater

theorem filterMap_toOption_of_forall₂
    {results : List β} (computed : List.Forall₂ (fun item result => compute item = .ok result)
      items results) : items.filterMap (fun item => (compute item).toOption) = results := by
  induction computed with
  | nil => rfl
  | cons first _ inductionHypothesis =>
      rw [List.filterMap_cons, first, inductionHypothesis]
      rfl

/-- The failure of a sequence of computations is that of the one that failed. -/
theorem mapM_eq_mapError
    {ε' : Type} {change : ε → ε'} {compute' : α → Except ε' β}
    (isChanged : ∀ item, compute' item = (compute item).mapError change) :
    items.mapM compute' = (items.mapM compute).mapError change := by
  induction items with
  | nil => rfl
  | cons item items inductionHypothesis =>
      rw [List.mapM_cons, List.mapM_cons, isChanged, inductionHypothesis]
      cases compute item with
      | error error => rfl
      | ok result => cases items.mapM compute <;> rfl

/-- A fold whose steps compute something first and then cannot fail. -/
theorem foldlM_eq_map_foldl
    {σ : Type} {add : σ → β → σ} {step : σ → α → Except ε σ}
    (isStep : ∀ state item, step state item = (compute item).map (add state)) (state : σ) :
    items.foldlM step state = (items.mapM compute).map fun results => results.foldl add state := by
  induction items generalizing state with
  | nil => rfl
  | cons item items inductionHypothesis =>
      rw [List.foldlM_cons, List.mapM_cons, isStep]
      cases compute item with
      | error error => rfl
      | ok result =>
          change items.foldlM step (add state result) = _
          rw [inductionHypothesis]
          cases items.mapM compute <;> rfl

end Failures

end LanguageClient
