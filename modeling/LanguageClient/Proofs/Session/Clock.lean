import LanguageClient.Proofs.Operation.Untouched
import LanguageClient.Proofs.Session.Rest

/-!
# The clock

The time of a client changes only when time passes.  On a virtual clock it passes only while
nobody on the side of the client can take a step, and no further than to the next time at
which an operation wakes.
-/

namespace LanguageClient

/-! ## What passes by the operations -/

variable {turn : Turn} {client : Client}

theorem Operation.step_now (turn : Turn) (client : Client) (operation : Operation) :
    (operation.step turn client).Fixes Client.now client :=
  Operation.step_fixes
    ⟨fun _ _ _ _ => rfl, fun _ _ _ => rfl, fun _ _ => rfl, fun _ _ _ => rfl⟩
    (fun _ _ _ => rfl) fun _ _ _ _ => rfl

theorem Operation.step_options (turn : Turn) (client : Client) (operation : Operation) :
    (operation.step turn client).Fixes Client.options client :=
  Operation.step_fixes
    ⟨fun _ _ _ _ => rfl, fun _ _ _ => rfl, fun _ _ => rfl, fun _ _ _ => rfl⟩
    (fun _ _ _ => rfl) fun _ _ _ _ => rfl

/-- A client without a process of a server does not get one by an operation. -/
theorem Operation.step_server
    (noServer : client.server = none) (turn : Turn) (operation : Operation) :
    (operation.step turn client).Fixes Client.server client :=
  Operation.step_fixes_of (fun _ _ _ _ => rfl) (fun _ _ _ => rfl) (fun _ _ => rfl)
    (fun _ _ => rfl) (fun isRunning => by cases noServer.symm.trans isRunning)
    (fun _ _ _ => rfl) fun _ _ _ _ => rfl

namespace Session

variable {session after : Session} {action : Action}

/-- Time passes by itself. -/
theorem Effect.now (effect : Effect session action after) :
    after.client.now = session.client.now ∨
      ∃ milliseconds, action = .elapse milliseconds ∧
        after.client.now = session.client.now + milliseconds := by
  cases effect with
  | @advanced task portion operation next client found step =>
      exact Or.inl ((operation.step_now _ _).of_running step)
  | @ended task portion operation client result found step =>
      exact Or.inl ((operation.step_now _ _).of_finished step)
  | @abandoned task operation found noAnswer =>
      have ignoresOutlet : IgnoresOutlet Client.now := fun _ _ _ _ => rfl
      exact Or.inl (operation.abandon_fixes ignoresOutlet (fun _ _ => rfl) fun _ _ => rfl)
  | @dispatched value rest reading read =>
      obtain ⟨_, calls, diagnostics, sameClient⟩ :=
        dispatch_leaves { session with inbound := ⟨rest, session.inbound.ending⟩ } value
      exact Or.inl (sameClient ▸ rfl)
  | elapsed milliseconds => exact Or.inr ⟨milliseconds, rfl, rfl⟩
  | _ => exact Or.inl rfl

theorem Effect.options (effect : Effect session action after) :
    after.client.options = session.client.options := by
  cases effect with
  | @advanced task portion operation next client found step =>
      exact (operation.step_options _ _).of_running step
  | @ended task portion operation client result found step =>
      exact (operation.step_options _ _).of_finished step
  | @abandoned task operation found noAnswer =>
      have ignoresOutlet : IgnoresOutlet Client.options := fun _ _ _ _ => rfl
      exact operation.abandon_fixes ignoresOutlet (fun _ _ => rfl) fun _ _ => rfl
  | @dispatched value rest reading read =>
      obtain ⟨_, calls, diagnostics, sameClient⟩ :=
        dispatch_leaves { session with inbound := ⟨rest, session.inbound.ending⟩ } value
      exact sameClient ▸ rfl
  | _ => rfl

theorem Effect.server
    (effect : Effect session action after) (noServer : session.client.server = none) :
    after.client.server = none := by
  cases effect with
  | @advanced task portion operation next client found step =>
      exact ((operation.step_server noServer _).of_running step).trans noServer
  | @ended task portion operation client result found step =>
      exact ((operation.step_server noServer _).of_finished step).trans noServer
  | @abandoned task operation found noAnswer =>
      have ignoresOutlet : IgnoresOutlet Client.server := fun _ _ _ _ => rfl
      exact (operation.abandon_fixes ignoresOutlet (fun _ _ => rfl) fun _ _ => rfl).trans noServer
  | @dispatched value rest reading read =>
      obtain ⟨_, calls, diagnostics, sameClient⟩ :=
        dispatch_leaves { session with inbound := ⟨rest, session.inbound.ending⟩ } value
      exact sameClient ▸ noServer
  | exited status isRunning => cases noServer.symm.trans isRunning
  | _ => exact noServer

end Session

/-! ## Runs -/

namespace Run

variable {session : Session} {past : List Transition}

theorem options_eq (run : Run (Session.connect client) past session) :
    session.client.options = client.options := by
  induction run with
  | refl => rfl
  | step run applied inductionHypothesis =>
      exact (Session.effect_of_apply applied).options.trans inductionHypothesis

/-- A client that was connected to streams never gets a process of a server. -/
theorem server_eq_none
    (run : Run (Session.connect client) past session) (noServer : client.server = none) :
    session.client.server = none := by
  induction run with
  | refl => exact noServer
  | step run applied inductionHypothesis =>
      exact (Session.effect_of_apply applied).server inductionHypothesis

end Run

/-! ## Virtual time -/

/-- If time passes, then nobody on the side of the client can take a step, and no operation
is left asleep beyond the time that it waits for. -/
structure Transition.IsTimely (transition : Transition) : Prop where
  atRest : ∀ milliseconds, transition.action = .elapse milliseconds → transition.before.IsAtRest
  wakes : ∀ milliseconds, transition.action = .elapse milliseconds →
    ∀ task operation wakeTime, transition.before.task? task = some operation →
      operation.wakeTime? = some wakeTime →
        transition.before.client.now + milliseconds ≤ wakeTime

/-- Time passes in a past as it does on a virtual clock. -/
def IsTimely (past : List Transition) : Prop :=
  ∀ transition, transition ∈ past → transition.IsTimely

theorem IsTimely.left
    {earlier later : List Transition} (timely : IsTimely (earlier ++ later)) : IsTimely earlier :=
  fun transition member => timely transition (List.mem_append_left later member)

theorem IsTimely.append
    {earlier later : List Transition} (before : IsTimely earlier) (behind : IsTimely later) :
    IsTimely (earlier ++ later) := by
  intro transition member
  rcases List.mem_append.mp member with inEarlier | inLater
  · exact before transition inEarlier
  · exact behind transition inLater

/-- Actions that take no time keep to any clock. -/
theorem isTimely_transitions
    {session : Session} {actions : List Action}
    (noTime : ∀ milliseconds, Action.elapse milliseconds ∉ actions) :
    IsTimely (session.transitions actions) := by
  induction actions generalizing session with
  | nil =>
      intro transition member
      cases member
  | cons action actions inductionHypothesis =>
      have notElapse (milliseconds : Nat) : action ≠ .elapse milliseconds := by
        rintro rfl
        exact noTime milliseconds List.mem_cons_self
      have later (milliseconds : Nat) : Action.elapse milliseconds ∉ actions :=
        fun member => noTime milliseconds (List.mem_cons_of_mem _ member)
      intro transition member
      unfold Session.transitions at member
      split at member
      · cases member
      · rcases List.mem_cons.mp member with rfl | behind
        · exact ⟨fun milliseconds elapses => absurd elapses (notElapse milliseconds),
            fun milliseconds elapses => absurd elapses (notElapse milliseconds)⟩
        · exact inductionHypothesis later transition behind

theorem IsTimely.last
    {past : List Transition} {latest : Transition} (timely : IsTimely (past ++ [latest])) :
    latest.IsTimely :=
  timely latest (List.mem_append_right past List.mem_cons_self)

end LanguageClient
