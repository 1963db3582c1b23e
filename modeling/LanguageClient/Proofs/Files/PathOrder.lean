import LanguageClient.Path

/-!
# The order of paths

Paths are in the dictionary order of their components.  Two paths are equal in this
order when they have the same components.
-/

namespace LanguageClient.Path

open Std

/-! ## Bytes and components -/

theorem compareBytes_eq (x y : List UInt8) : compareBytes x y = Ord.compare x y := by
  induction x generalizing y with
  | nil => cases y <;> rfl
  | cons first x inductionHypothesis =>
      cases y with
      | nil => rfl
      | cons first' y =>
          rw [compareBytes, inductionHypothesis, List.compare_cons_cons]
          by_cases less : first < first'
          · simp [less, Ord.compare, compareOfLessAndEq]
          · by_cases same : first = first'
            · simp [same, Ord.compare, compareOfLessAndEq]
            · have greater : first' < first :=
                (UInt8.lt_or_lt_of_ne same).resolve_left less
              simp [less, same, greater, Ord.compare, compareOfLessAndEq]

/-- The place of the kind of a component in the order. -/
def Component.rank : Component → Nat
  | .root => 0
  | .current => 1
  | .parent => 2
  | .name _ => 3

def Component.ownName : Component → List UInt8
  | .name bytes => bytes
  | .root | .current | .parent => []

theorem Component.compare_eq :
    Component.compare = compareLex (compareOn Component.rank) (compareOn Component.ownName) := by
  funext x y
  cases x with
  | name bytes =>
      cases y with
      | name bytes' => exact compareBytes_eq bytes bytes'
      | _ => rfl
  | _ => cases y <;> rfl

instance : TransCmp Component.compare :=
  Component.compare_eq ▸ inferInstance

instance : LawfulEqCmp Component.compare where
  eq_of_compare := by
    intro x y same
    rw [Component.compare_eq] at same
    obtain ⟨sameRank, sameName⟩ := Ordering.then_eq_eq.mp same
    have ranks : x.rank = y.rank := LawfulEqOrd.eq_of_compare sameRank
    have names : x.ownName = y.ownName := LawfulEqOrd.eq_of_compare sameName
    cases x <;> cases y <;> simp_all [Component.rank, Component.ownName]

/-! ## Paths -/

theorem compareComponents_eq :
    compareComponents = List.compareLex Component.compare := by
  funext x y
  induction x generalizing y with
  | nil => cases y <;> rfl
  | cons first x inductionHypothesis =>
      cases y with
      | nil => rfl
      | cons first' y =>
          rw [compareComponents, List.compareLex_cons_cons, inductionHypothesis]

theorem compare_eq_eq_iff {x y : Path} : x.compare y = .eq ↔ x.components = y.components := by
  rw [compare, compareComponents_eq]
  exact LawfulEqCmp.compare_eq_iff_eq

instance : TransCmp Path.compare where
  eq_swap := by
    intro x y
    simp only [compare, compareComponents_eq]
    exact OrientedCmp.eq_swap
  isLE_trans := by
    intro x y z
    simp only [compare, compareComponents_eq]
    exact TransCmp.isLE_trans

end LanguageClient.Path
