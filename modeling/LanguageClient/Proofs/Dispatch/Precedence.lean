import LanguageClient.Proofs.Dispatch.Order
import LanguageClient.Proofs.Handshake.Builtins

/-!
# Which handler a message goes to

A handler that a user registers takes the place of every handler that was there before,
also of a built-in one.  The handshake registers the built-in handlers by the same rule: for
their methods they take the place of what users have registered before it, and only there.
-/

namespace LanguageClient

/-! ## Handlers of both kinds -/

/-- What a handler is for: the notifications or the requests of a method. -/
inductive Subject where
  | notification (method : String)
  | request (method : String)
deriving DecidableEq

inductive Handler where
  | notification (handler : NotificationHandler)
  | request (handler : RequestHandler)

/-- What handlers a message is for; answers to calls are for none. -/
def Incoming.subject? : Incoming → Option Subject
  | .response _ _ => none
  | .request _ method _ => some (.request method)
  | .notification method _ => some (.notification method)

def Action.handler? (subject : Subject) : Action → Option Handler
  | .registerNotification method handler =>
      if Subject.notification method = subject then some (.notification handler) else none
  | .registerRequest method handler =>
      if Subject.request method = subject then some (.request handler) else none
  | _ => none

namespace HandlerRegistry

def handler? (registry : HandlerRegistry) : Subject → Option Handler
  | .notification method => (registry.notification? method).map .notification
  | .request method => (registry.request? method).map .request

end HandlerRegistry

namespace Registration

def handler? : Subject → Registration → Option Handler
  | .notification method, registration => (registration.notification? method).map .notification
  | .request method, registration => (registration.request? method).map .request

end Registration

namespace Transition

def builtinHandler? (subject : Subject) (transition : Transition) : Option Handler :=
  transition.builtin?.bind (Registration.handler? subject)

/-- A registration is made by the handshake, or it is the one that a user makes. -/
theorem handler?_registration? (transition : Transition) (subject : Subject) :
    transition.registration?.bind (Registration.handler? subject) =
      (transition.builtinHandler? subject).or (transition.action.handler? subject) := by
  obtain ⟨before, action, after⟩ := transition
  cases action with
  | registerNotification method handler =>
      cases subject with
      | notification method' =>
          simp only [registration?, builtinHandler?, builtin?, Option.bind_some, Option.bind_none,
            Option.none_or, Registration.handler?, Registration.notification?, Action.handler?,
            Subject.notification.injEq]
          split <;> rfl
      | request method' => rfl
  | registerRequest method handler =>
      cases subject with
      | notification method' => rfl
      | request method' =>
          simp only [registration?, builtinHandler?, builtin?, Option.bind_some, Option.bind_none,
            Option.none_or, Registration.handler?, Registration.request?, Action.handler?,
            Subject.request.injEq]
          split <;> rfl
  | advance task portion => exact Option.or_none.symm
  | _ => rfl

/-- What the handshake registers nobody else does. -/
theorem noUser_of_builtinHandler?
    {transition : Transition} {subject : Subject} {handler : Handler}
    (installs : transition.builtinHandler? subject = some handler) :
    transition.action.handler? subject = none := by
  obtain ⟨registration, isBuiltin, _⟩ := Option.bind_eq_some_iff.mp installs
  obtain ⟨task, portion, _, isAction, _⟩ := exists_operation_of_builtin? isBuiltin
  rw [isAction]
  rfl

end Transition

namespace Run

variable {client : Client} {session : Session} {past : List Transition}

/-- The handler for a subject is that of the latest registration for it. -/
theorem handler?_eq (run : Run (Session.connect client) past session) (subject : Subject) :
    session.client.handlers.handler? subject =
      ((past.filterMap Transition.registration?).reverse.findSome?
        (Registration.handler? subject)).or (client.handlers.handler? subject) := by
  cases subject with
  | notification method =>
      simp only [HandlerRegistry.handler?, run.notification?_eq method, Option.map_or,
        List.map_findSome?]
      rfl
  | request method =>
      simp only [HandlerRegistry.handler?, run.request?_eq method, Option.map_or,
        List.map_findSome?]
      rfl

end Run

/-! ## Messages and their handlers -/

inductive Routing.Hands : Incoming → Handler → Routing → Prop
  | notification {method : String} {params : Option Json} {handler : NotificationHandler} :
      Hands (.notification method params) (.notification handler) (.notified handler params)
  | request {id : Json} {method : String} {params : Option Json} {handler : RequestHandler} :
      Hands (.request id method params) (.request handler)
        (.requested id method (some handler) params)

namespace Transition

/-- The message that the read loop takes. -/
def message? (transition : Transition) : Option Incoming :=
  match transition.taken? with
  | some (.frame value) => Incoming.ofJson? value
  | _ => none

/-- The read loop takes a message and hands it to a handler; nothing else comes of it. -/
def Hands (transition : Transition) (message : Incoming) (handler : Handler) : Prop :=
  ∃ routing rest, transition.routing? = some routing ∧ routing.Hands message handler ∧
    transition.after = (transition.before.passTo rest).perform routing

theorem taken?_of_message?
    {transition : Transition} {message : Incoming} (takes : transition.message? = some message) :
    ∃ value, transition.taken? = some (.frame value) ∧ Incoming.ofJson? value = some message := by
  unfold message? at takes
  split at takes
  · rename_i value taken
    exact ⟨value, taken, takes⟩
  · cases takes

end Transition

/-- A message for which there is a handler leads to a call of it. -/
theorem HandlerRegistry.exists_routing
    {registry : HandlerRegistry} {value : Json} {message : Incoming} {subject : Subject}
    {handler : Handler} (classified : Incoming.ofJson? value = some message)
    (isFor : message.subject? = some subject) (registered : registry.handler? subject = some handler) :
    ∃ routing, registry.route? value = some routing ∧ routing.Hands message handler := by
  cases message with
  | response => cases isFor
  | request id method params =>
      cases isFor
      obtain ⟨handler, found, rfl⟩ := Option.map_eq_some_iff.mp registered
      exact ⟨_, by simp only [route?, classified, found], .request⟩
  | notification method params =>
      cases isFor
      obtain ⟨handler, found, rfl⟩ := Option.map_eq_some_iff.mp registered
      exact ⟨_, by simp only [route?, classified, found]; rfl, .notification⟩

/-! ## Precedence -/

namespace Run

variable {client : Client} {session : Session}

/-- The latest of the registrations for a subject counts, whoever made it. -/
theorem hands_of_registration
    {before since later : List Transition} {registering transition : Transition}
    (run : Run (Session.connect client)
      (before ++ registering :: (since ++ transition :: later)) session)
    {subject : Subject} {handler : Handler}
    (registers : registering.registration?.bind (Registration.handler? subject) = some handler)
    (latest : ∀ between, between ∈ since →
      between.registration?.bind (Registration.handler? subject) = none)
    {message : Incoming} (takes : transition.message? = some message)
    (isFor : message.subject? = some subject) :
    transition.Hands message handler := by
  rw [← List.cons_append, ← List.append_assoc] at run
  obtain ⟨runBefore, applied⟩ := run.before_transition
  obtain ⟨registration, registered, isHandler⟩ := Option.bind_eq_some_iff.mp registers
  have noneSince : (since.filterMap Transition.registration?).reverse.findSome?
      (Registration.handler? subject) = none := by
    rw [List.findSome?_eq_none_iff]
    intro other member
    obtain ⟨between, isSince, isOther⟩ := List.mem_filterMap.mp (List.mem_reverse.mp member)
    simpa only [isOther, Option.bind_some] using latest between isSince
  have found : transition.before.client.handlers.handler? subject = some handler := by
    rw [runBefore.handler?_eq subject, List.filterMap_append, List.filterMap_cons_some registered,
      List.reverse_append, List.reverse_cons, List.append_assoc, List.findSome?_append, noneSince,
      Option.none_or, List.singleton_append, List.findSome?_cons, isHandler, Option.some_or]
  obtain ⟨value, entry, classified⟩ := Transition.taken?_of_message? takes
  obtain ⟨routing, leads, hands⟩ := HandlerRegistry.exists_routing classified isFor found
  obtain ⟨rest, _, performs⟩ := Session.performs_of_apply applied entry
  rw [leads] at performs
  exact ⟨routing, rest, by simp only [Transition.routing?, entry, leads], hands, performs⟩

end Run

/-- To which handlers the messages of a run go for whose subjects users have registered
handlers. -/
structure Precedence (past : List Transition) : Prop where
  /-- A message goes to the handler that a user has registered last for it, as long as the
  handshake has registered no built-in one for it since. -/
  user : ∀ before registering since transition later,
    past = before ++ registering :: (since ++ transition :: later) →
      ∀ subject handler, registering.action.handler? subject = some handler →
        (∀ between, between ∈ since → between.action.handler? subject = none) →
          (∀ between, between ∈ since → between.builtinHandler? subject = none) →
            ∀ message, transition.message? = some message →
              message.subject? = some subject → transition.Hands message handler
  /-- Behind the registration of a built-in handler it goes to this one, until a user
  registers another. -/
  builtin : ∀ before installing since transition later,
    past = before ++ installing :: (since ++ transition :: later) →
      ∀ subject handler, installing.builtinHandler? subject = some handler →
        (∀ between, between ∈ since → between.action.handler? subject = none) →
          (∀ between, between ∈ since → between.builtinHandler? subject = none) →
            ∀ message, transition.message? = some message →
              message.subject? = some subject → transition.Hands message handler

/-- In every run the latest registration counts, be it the one of a user or of the
handshake. -/
theorem Run.precedence
    {client : Client} {session : Session} {past : List Transition}
    (run : Run (Session.connect client) past session) :
    Precedence past := by
  constructor
  case user =>
    rintro before registering since transition later rfl subject handler registers latest
      noBuiltin message takes isFor
    refine run.hands_of_registration ?_ (fun between isSince => ?_) takes isFor
    · have noBuiltin : registering.builtinHandler? subject = none := by
        cases installs : registering.builtinHandler? subject with
        | none => rfl
        | some builtin => cases (Transition.noUser_of_builtinHandler? installs).symm.trans registers
      rw [Transition.handler?_registration?, noBuiltin, Option.none_or, registers]
    · rw [Transition.handler?_registration?, noBuiltin between isSince, Option.none_or,
        latest between isSince]
  case builtin =>
    rintro before installing since transition later rfl subject handler installs latest
      noBuiltin message takes isFor
    refine run.hands_of_registration ?_ (fun between isSince => ?_) takes isFor
    · rw [Transition.handler?_registration?, installs, Option.some_or]
    · rw [Transition.handler?_registration?, noBuiltin between isSince, Option.none_or,
        latest between isSince]

/-! ## A handler that is registered before the handshake -/

/-- The server sends a request for which there is a built-in handler. -/
def capabilityRequest : Action :=
  .serverWrites (Text.Utf8.encode
    "Content-Length: 45\r\n\r\n\x7b\"id\":1,\"method\":\"client/registerCapability\"\x7d")

def capabilityRegistration (tag : String) : Action :=
  .registerRequest "client/registerCapability" (.record (.string tag) none 0)

/-- The handshake registers the built-in handlers, and the server sends the request. -/
def capabilityHandshake : List Action :=
  .start (.openSession (.ofString "/") none) ::
    (List.replicate 9 (.advance 0 1024) ++ [capabilityRequest])

/-- A user registers a handler before the handshake and one behind it. -/
def overtakenHandler : List Action :=
  capabilityRegistration "early" :: (capabilityHandshake ++
    [.read, capabilityRegistration "late", capabilityRequest, .read])

/-- Only the later one is called. -/
theorem Run.precedence_overtakenHandler :
    ∃ past session,
      Run (Session.connect (.connect { processId := 1 } 1024 (.directory []) [])) past session ∧
        past.map Transition.action = overtakenHandler ∧
          session.records = [(.string "late", none)] ∧ Precedence past := by
  have records :
      ((Session.connect (.connect { processId := 1 } 1024 (.directory []) [])).run
        overtakenHandler).map (fun session => session.records) = some [(.string "late", none)] := by
    decide +kernel
  obtain ⟨session, ran, records⟩ := Option.map_eq_some_iff.mp records
  have run := Run.of_run ran .refl
  exact ⟨_, session, run, Session.map_action_transitions ran, records, run.precedence⟩

/-- Every message goes to the handler that a user has registered last for it, whatever the
handshake has registered since. -/
def UsersPrecede (past : List Transition) : Prop :=
  ∀ before registering since transition later,
    past = before ++ registering :: (since ++ transition :: later) →
      ∀ subject handler, registering.action.handler? subject = some handler →
        (∀ between, between ∈ since → between.action.handler? subject = none) →
          ∀ message, transition.message? = some message →
            message.subject? = some subject → transition.Hands message handler

/-- The handler that was registered before the handshake is not called behind it: the request
goes to the built-in one. -/
theorem Run.not_usersPrecede_overtakenHandler :
    ∃ past session,
      Run (Session.connect (.connect { processId := 1 } 1024 (.directory []) [])) past session ∧
        past.map Transition.action =
          capabilityRegistration "early" :: (capabilityHandshake ++ [.read]) ∧
          ¬ UsersPrecede past := by
  let start := Session.connect (.connect { processId := 1 } 1024 (.directory []) [])
  have ends : ((start.apply (capabilityRegistration "early")).bind fun registered =>
      (registered.run capabilityHandshake).bind fun sent =>
        (sent.apply .read).map fun read =>
          (Transition.message? ⟨sent, .read, read⟩,
            (Transition.routing? ⟨sent, .read, read⟩).bind Routing.record?)) =
        some (some (.request (.nat 1) "client/registerCapability" none), none) := by
    decide +kernel
  obtain ⟨registered, registers, ends⟩ := Option.bind_eq_some_iff.mp ends
  obtain ⟨sent, ran, ends⟩ := Option.bind_eq_some_iff.mp ends
  obtain ⟨read, reads, ends⟩ := Option.map_eq_some_iff.mp ends
  obtain ⟨takes, noRecord⟩ := Prod.ext_iff.mp ends
  have actions := Session.map_action_transitions ran
  have latest : ∀ transition, transition ∈ registered.transitions capabilityHandshake →
      transition.action.handler? (.request "client/registerCapability") = none := by
    intro transition isSince
    have isOne : transition.action ∈ capabilityHandshake := actions ▸ List.mem_map_of_mem isSince
    have none : capabilityHandshake.all (fun action =>
        action.handler? (.request "client/registerCapability") = none) = true := by decide
    exact of_decide_eq_true (List.all_eq_true.mp none _ isOne)
  refine ⟨_, read, (Run.of_run ran (Run.refl.step registers)).step reads, ?_, ?_⟩
  · simp only [List.nil_append, List.cons_append, List.map_cons, List.map_append, actions,
      List.map_nil]
  · intro usersPrecede
    obtain ⟨routing, _, isRouting, handed, _⟩ :=
      usersPrecede [] ⟨start, capabilityRegistration "early", registered⟩
        (registered.transitions capabilityHandshake) ⟨sent, .read, read⟩ [] (by simp)
        (.request "client/registerCapability") (.request (.record (.string "early") none 0))
        rfl latest _ takes rfl
    cases handed
    rw [isRouting] at noRecord
    cases noRecord

end LanguageClient
