import LanguageClient.Proofs.Operation.Untouched
import LanguageClient.Proofs.Session.Effect

/-!
# The registry in a run

The handlers of a client are those it began with and the registrations of the run on top
of them: for each method the latest registration counts, whether a user of the client made
it or the handshake.
-/

namespace LanguageClient

/-! ## Registrations -/

namespace Registration

def notification? (method : String) : Registration → Option NotificationHandler
  | .notification method' handler => if method' = method then some handler else none
  | .request _ _ => none

def request? (method : String) : Registration → Option RequestHandler
  | .notification _ _ => none
  | .request method' handler => if method' = method then some handler else none

theorem eq_of_request?
    {method : String} {registration : Registration} {handler : RequestHandler}
    (isFor : registration.request? method = some handler) :
    registration = .request method handler := by
  cases registration with
  | notification => cases isFor
  | request method' handler' =>
      simp only [request?] at isFor
      split at isFor
      · rename_i sameMethod
        cases isFor
        rw [sameMethod]
      · cases isFor

end Registration

namespace HandlerRegistry

variable (registry : HandlerRegistry)

/-- Of entries by method, one in front replaces the others of its method. -/
private theorem find?_replaced
    {η : Type} (entries : List (String × η)) (method other : String) (handler : η) :
    (((method, handler) :: entries.filter fun entry => entry.1 ≠ method).find?
        fun entry => entry.1 = other).map Prod.snd =
      if method = other then some handler
      else (entries.find? fun entry => entry.1 = other).map Prod.snd := by
  by_cases same : method = other
  · simp [same]
  · have sameSearch :
        (fun entry : String × η => !decide (entry.1 = method) && decide (entry.1 = other)) =
          fun entry => decide (entry.1 = other) := by
      funext entry
      by_cases found : entry.1 = other
      · simp [found, Ne.symm same]
      · simp [found]
    simp [same, List.find?_filter, sameSearch]

theorem notification?_registerNotification
    (method other : String) (handler : NotificationHandler) :
    (registry.registerNotification method handler).notification? other =
      if method = other then some handler else registry.notification? other :=
  find?_replaced registry.notifications method other handler

theorem request?_registerRequest (method other : String) (handler : RequestHandler) :
    (registry.registerRequest method handler).request? other =
      if method = other then some handler else registry.request? other :=
  find?_replaced registry.requests method other handler

/-- A registration counts in front of what the registry was before. -/
theorem notification?_register (registration : Registration) (method : String) :
    (registry.register registration).notification? method =
      (registration.notification? method).or (registry.notification? method) := by
  cases registration with
  | request method' handler => rfl
  | notification method' handler =>
      simp only [register, notification?_registerNotification, Registration.notification?]
      split <;> rfl

theorem request?_register (registration : Registration) (method : String) :
    (registry.register registration).request? method =
      (registration.request? method).or (registry.request? method) := by
  cases registration with
  | notification method' handler => rfl
  | request method' handler =>
      simp only [register, request?_registerRequest, Registration.request?]
      split <;> rfl

/-- Of several registrations the latest for a method counts. -/
theorem request?_foldl_register (registrations : List Registration) (method : String) :
    (registrations.foldl register registry).request? method =
      (registrations.reverse.findSome? (Registration.request? method)).or
        (registry.request? method) := by
  induction registrations using List.reverseRecOn with
  | nil => rfl
  | append_singleton earlier latest inductionHypothesis =>
      rw [List.foldl_append, List.foldl_cons, List.foldl_nil, request?_register,
        inductionHypothesis, List.reverse_append, List.reverse_singleton, List.singleton_append,
        List.findSome?_cons]
      cases latest.request? method <;> rfl

theorem notification?_foldl_register (registrations : List Registration) (method : String) :
    (registrations.foldl register registry).notification? method =
      (registrations.reverse.findSome? (Registration.notification? method)).or
        (registry.notification? method) := by
  induction registrations using List.reverseRecOn with
  | nil => rfl
  | append_singleton earlier latest inductionHypothesis =>
      rw [List.foldl_append, List.foldl_cons, List.foldl_nil, notification?_register,
        inductionHypothesis, List.reverse_append, List.reverse_singleton, List.singleton_append,
        List.findSome?_cons]
      cases latest.notification? method <;> rfl

end HandlerRegistry

/-! ## Registrations of a run -/

/-- The registration of a built-in handler that the handshake makes by a transition. -/
def Transition.builtin? (transition : Transition) : Option Registration :=
  match transition.action with
  | .advance task _ => (transition.before.task? task).bind Operation.registration?
  | _ => none

/-- The registration that a transition makes, be it one of a user or of the handshake. -/
def Transition.registration? (transition : Transition) : Option Registration :=
  match transition.action with
  | .registerNotification method handler => some (.notification method handler)
  | .registerRequest method handler => some (.request method handler)
  | _ => transition.builtin?

namespace Session

/-- The registry changes by the registration of a transition, and by nothing else. -/
theorem handlers_of_apply
    {session after : Session} {action : Action} (applied : session.apply action = some after) :
    after.client.handlers =
      (Transition.registration? ⟨session, action, after⟩).elim session.client.handlers
        session.client.handlers.register := by
  have advances {task : TaskId} {portion : Nat} {operation : Operation} {client : Client}
      (found : session.task? task = some operation)
      (handlers : client.handlers =
        operation.registration?.elim session.client.handlers session.client.handlers.register) :
      client.handlers =
        (Transition.registration? ⟨session, .advance task portion, after⟩).elim
          session.client.handlers session.client.handlers.register := by
    simp only [Transition.registration?, Transition.builtin?, found, Option.bind_some]
    exact handlers
  cases action with
  | advance task portion =>
      cases effect_of_apply applied with
      | @advanced _ _ operation next client found step =>
          exact advances found ((operation.step_handlers _ _).of_running step)
      | @ended _ _ operation client result found step =>
          exact advances found ((operation.step_handlers _ _).of_finished step)
      | handled handlers noTask notRead => cases noTask
  | abandon task =>
      cases effect_of_apply applied with
      | @abandoned _ operation found noAnswer =>
          have outlet : IgnoresOutlet Client.handlers := fun _ _ _ _ => rfl
          exact operation.abandon_fixes outlet (fun _ _ => rfl) fun _ _ => rfl
      | handled handlers noTask notRead => cases noTask
  | read =>
      cases effect_of_apply applied with
      | @dispatched value rest reading read =>
          obtain ⟨_, calls, diagnostics, sameClient⟩ :=
            dispatch_leaves { session with inbound := ⟨rest, session.inbound.ending⟩ } value
          rw [sameClient]
          rfl
      | handled handlers noTask notRead => exact absurd rfl notRead
      | skipped | lost | drained | left => rfl
  | serverTakes | serverWrites | serverEnds | serverExits =>
      simp only [apply] at applied
      split at applied <;> cases applied
      rfl
  | start | cancel | registerNotification | registerRequest | serverStopsReading | elapse
  | changeFiles =>
      injection applied with applied
      rw [← applied]
      rfl

end Session

namespace Run

variable {client : Client} {session : Session} {past : List Transition}

/-- The handlers at the end of a run are those of the beginning with its registrations made
one after the other. -/
theorem handlers_eq (run : Run (Session.connect client) past session) :
    session.client.handlers =
      (past.filterMap Transition.registration?).foldl HandlerRegistry.register client.handlers := by
  induction run with
  | refl => rfl
  | @step past session after action run applied inductionHypothesis =>
      rw [Session.handlers_of_apply applied, inductionHypothesis, List.filterMap_append,
        List.foldl_append]
      cases registers : Transition.registration? ⟨session, action, after⟩ <;> simp [registers]

/-- The handler for the requests of a method is the one of the latest registration for it. -/
theorem request?_eq (run : Run (Session.connect client) past session) (method : String) :
    session.client.handlers.request? method =
      ((past.filterMap Transition.registration?).reverse.findSome?
        (Registration.request? method)).or (client.handlers.request? method) := by
  rw [run.handlers_eq, HandlerRegistry.request?_foldl_register]

/-- The handler for the notifications of a method is the one of the latest registration for
it. -/
theorem notification?_eq (run : Run (Session.connect client) past session) (method : String) :
    session.client.handlers.notification? method =
      ((past.filterMap Transition.registration?).reverse.findSome?
        (Registration.notification? method)).or (client.handlers.notification? method) := by
  rw [run.handlers_eq, HandlerRegistry.notification?_foldl_register]

end Run

end LanguageClient
