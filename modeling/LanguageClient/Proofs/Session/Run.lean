import LanguageClient.Session.Basic
import Mathlib.Data.List.Induction

/-!
# Runs of a session

A run is the list of the transitions of a session from its start on.  What an
action does to a session is said once, case by case, with the operation that takes
a step named in it.
-/

namespace LanguageClient

/-- The task whose operation an action is about. -/
def Action.task? : Action → Option TaskId
  | .advance task _ | .abandon task => some task
  | _ => none

theorem Action.task?_of_turn
    {action : Action} {turn : Turn}
    (isAction : action = .advance turn.task turn.portion ∨ action = .abandon turn.task) :
    action.task? = some turn.task := by
  rcases isAction with rfl | rfl <;> rfl

structure Transition where
  before : Session
  action : Action
  after : Session

inductive Run (start : Session) : List Transition → Session → Prop
  | refl : Run start [] start
  | step {past : List Transition} {session after : Session} {action : Action} :
      Run start past session →
      session.apply action = some after →
      Run start (past ++ [⟨session, action, after⟩]) after

/-- The transitions of a session under actions that happen one after the other. -/
def Session.transitions (session : Session) : List Action → List Transition
  | [] => []
  | action :: actions =>
      match session.apply action with
      | none => []
      | some after => ⟨session, action, after⟩ :: after.transitions actions

theorem Session.map_action_transitions
    {session last : Session} {actions : List Action} (ran : session.run actions = some last) :
    (session.transitions actions).map Transition.action = actions := by
  induction actions generalizing session with
  | nil => rfl
  | cons action actions inductionHypothesis =>
      cases applied : session.apply action with
      | none => simp [Session.run, List.foldlM_cons, applied] at ran
      | some after =>
          have ranOn : after.run actions = some last := by
            simpa [Session.run, List.foldlM_cons, applied] using ran
          simpa [Session.transitions, applied] using inductionHypothesis ranOn

namespace Run

variable {start session : Session} {past : List Transition}

/-- A run with one more transition in front. -/
theorem cons
    {first after : Session} {action : Action} (applied : first.apply action = some after)
    (run : Run after past session) : Run first (⟨first, action, after⟩ :: past) session := by
  induction run with
  | refl => exact Run.refl.step applied
  | step _ applied' inductionHypothesis => exact inductionHypothesis.step applied'

/-- Actions that can happen one after the other make a run. -/
theorem of_run
    {actions : List Action} {last : Session} (ran : session.run actions = some last)
    (run : Run start past session) : Run start (past ++ session.transitions actions) last := by
  induction actions generalizing past session with
  | nil =>
      have same : session = last := by simpa [Session.run] using ran
      simpa [Session.transitions, ← same] using run
  | cons action actions inductionHypothesis =>
      cases applied : session.apply action with
      | none => simp [Session.run, List.foldlM_cons, applied] at ran
      | some after =>
          have ranOn : after.run actions = some last := by
            simpa [Session.run, List.foldlM_cons, applied] using ran
          simpa [Session.transitions, applied] using inductionHypothesis ranOn (run.step applied)

/-- A run up to one of its transitions. -/
theorem before_transition
    {earlier later : List Transition} {transition : Transition}
    (run : Run start (earlier ++ transition :: later) session) :
    Run start earlier transition.before ∧
      transition.before.apply transition.action = some transition.after := by
  generalize pastEq : earlier ++ transition :: later = past at run
  induction run generalizing later with
  | refl => simp at pastEq
  | @step past session after action run applied inductionHypothesis =>
      cases later using List.reverseRecOn with
      | nil =>
          obtain ⟨rfl, same⟩ := List.append_inj' pastEq rfl
          injection same with same
          subst same
          exact ⟨run, applied⟩
      | append_singleton later last =>
          rw [← List.cons_append, ← List.append_assoc] at pastEq
          exact inductionHypothesis (List.append_inj' pastEq rfl).1

/-- Induction on what comes behind a transition. -/
theorem later_induction
    {motive : List Transition → Session → Prop} {earlier later : List Transition}
    {transition : Transition} (run : Run start (earlier ++ transition :: later) session)
    (base : motive [] transition.after)
    (step : ∀ later session action after, Run start (earlier ++ transition :: later) session →
      session.apply action = some after → motive later session →
        motive (later ++ [⟨session, action, after⟩]) after) :
    motive later session := by
  generalize pastEq : earlier ++ transition :: later = past at run
  induction run generalizing later with
  | refl => simp at pastEq
  | @step past session after action run applied inductionHypothesis =>
      cases later using List.reverseRecOn with
      | nil =>
          obtain ⟨rfl, same⟩ := List.append_inj' pastEq rfl
          injection same with same
          subst same
          exact base
      | append_singleton later last =>
          rw [← List.cons_append, ← List.append_assoc] at pastEq
          obtain ⟨rfl, same⟩ := List.append_inj' pastEq rfl
          injection same with same
          subst same
          exact step later session action after run applied (inductionHypothesis rfl)

/-- The same if something is known of all transitions that come behind. -/
theorem later_induction_of
    {holds : Transition → Prop} {motive : List Transition → Session → Prop}
    {earlier later : List Transition} {transition : Transition}
    (run : Run start (earlier ++ transition :: later) session)
    (holdsBehind : ∀ latest, latest ∈ later → holds latest) (base : motive [] transition.after)
    (step : ∀ later session action after, Run start (earlier ++ transition :: later) session →
      session.apply action = some after → holds ⟨session, action, after⟩ → motive later session →
        motive (later ++ [⟨session, action, after⟩]) after) :
    motive later session := by
  refine run.later_induction
    (motive := fun later session =>
      (∀ latest, latest ∈ later → holds latest) → motive later session)
    (fun _ => base) ?_ holdsBehind
  intro later session action after run applied inductionHypothesis holdsBehind
  exact step later session action after run applied
    (holdsBehind _ (List.mem_append_right later List.mem_cons_self))
    (inductionHypothesis fun latest member => holdsBehind latest (List.mem_append_left _ member))

/-- What is true behind a transition and is kept by every step is true at the end. -/
theorem from_transition
    {motive : List Transition → Session → Prop} {earlier later : List Transition}
    {transition : Transition} (run : Run start (earlier ++ transition :: later) session)
    (base : motive (earlier ++ [transition]) transition.after)
    (step : ∀ past session action after, Run start past session →
      session.apply action = some after → motive past session →
        motive (past ++ [⟨session, action, after⟩]) after) :
    motive (earlier ++ transition :: later) session := by
  apply run.later_induction
    (motive := fun later session => motive (earlier ++ transition :: later) session) base
  intro later session action after run applied before
  rw [← List.cons_append, ← List.append_assoc]
  exact step _ session action after run applied before

/-- A run up to one of the transitions behind another. -/
theorem before_later
    {earlier later : List Transition} {transition latest : Transition}
    (run : Run start (earlier ++ transition :: later) session) (member : latest ∈ later) :
    ∃ middle rest, later = middle ++ latest :: rest ∧
      Run start (earlier ++ transition :: middle) latest.before ∧
        latest.before.apply latest.action = some latest.after := by
  obtain ⟨middle, rest, rfl⟩ := List.append_of_mem member
  have regrouped : earlier ++ transition :: (middle ++ latest :: rest) =
      (earlier ++ transition :: middle) ++ latest :: rest := by simp
  rw [regrouped] at run
  exact ⟨middle, rest, rfl, run.before_transition⟩

/-- What is true behind a transition and is kept by every step is true behind all later
transitions. -/
theorem behind_transition
    {motive : Session → Prop} {earlier later : List Transition} {transition : Transition}
    (run : Run start (earlier ++ transition :: later) session)
    (base : motive transition.after)
    (step : ∀ past session action after, Run start past session →
      session.apply action = some after → motive session → motive after)
    {latest : Transition} (member : latest ∈ later) : motive latest.after := by
  obtain ⟨middle, rest, _, runBefore, applied⟩ := run.before_later member
  have before : motive latest.before :=
    runBefore.from_transition (motive := fun _ session => motive session) base step
  exact step _ _ _ _ runBefore applied before

/-- What happens only while a door is open, and shuts it for good, happens once at most. -/
theorem countP_le_one
    {happens : Transition → Bool} {shut : Session → Prop} (run : Run start past session)
    (kept : ∀ past session action after, Run start past session →
      session.apply action = some after → shut session → shut after)
    (shuts : ∀ past session action after, Run start past session →
      session.apply action = some after → happens ⟨session, action, after⟩ = true →
        ¬ shut session ∧ shut after) :
    past.countP happens ≤ 1 ∧ (¬ shut session → past.countP happens = 0) := by
  induction run with
  | refl => simp
  | @step past session after action run applied inductionHypothesis =>
      obtain ⟨once, never⟩ := inductionHypothesis
      rw [List.countP_append, List.countP_singleton]
      cases now : happens ⟨session, action, after⟩ with
      | true =>
          obtain ⟨wasOpen, isShut⟩ := shuts past session action after run applied now
          rw [never wasOpen]
          exact ⟨Nat.le_refl 1, fun isOpen => absurd isShut isOpen⟩
      | false =>
          refine ⟨once, fun isOpen => never fun wasShut => isOpen ?_⟩
          exact kept past session action after run applied wasShut

end Run

end LanguageClient
