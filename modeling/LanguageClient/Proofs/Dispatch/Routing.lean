import LanguageClient.Proofs.Calls.Table
import LanguageClient.Proofs.Dispatch.Registry

/-!
# Where messages of the server go

A value that the server sends is a message or it is none, by the members it has.  A
response goes to the table of calls, a request or a notice to the handler that is
registered for its method, and acting on a message is carrying out this one call.
-/

namespace LanguageClient

/-! ## Messages -/

namespace Incoming

/-- What message a value is: the identifier and the method tell the kind.  The parameters
are the member of that name, so that null is a value and an absent member is none. -/
inductive Tells : Json → Incoming → Prop
  | request {members : Json.Members} {id : Json} {method : String} :
      members.get? "id" = some id →
      members.get? "method" = some (.string method) →
      Tells (.object members) (.request id method (members.get? "params"))
  | notification {members : Json.Members} {method : String} :
      members.get? "id" = none →
      members.get? "method" = some (.string method) →
      Tells (.object members) (.notification method (members.get? "params"))
  | result {members : Json.Members} {id result : Json} :
      members.get? "id" = some id →
      members.get? "method" = none →
      (members.get? "error").getD .null = .null →
      members.get? "result" = some result →
      Tells (.object members) (.response id (.ok result))
  | error {members : Json.Members} {id error : Json} :
      members.get? "id" = some id →
      members.get? "method" = none →
      members.get? "error" = some error →
      error ≠ .null →
      Tells (.object members) (.response id (.error (readError error)))

private theorem readAnswer?_of_null
    {members : Json.Members} (noError : (members.get? "error").getD .null = .null) :
    readAnswer? members = (members.get? "result").map .ok := by
  unfold readAnswer?
  cases isError : members.get? "error" with
  | none => rfl
  | some error =>
      rw [isError, Option.getD_some] at noError
      rw [noError]

private theorem readAnswer?_of_error
    {members : Json.Members} {error : Json} (isError : members.get? "error" = some error)
    (notNull : error ≠ .null) : readAnswer? members = some (.error (readError error)) := by
  unfold readAnswer?
  rw [isError]
  cases error with
  | null => exact absurd rfl notNull
  | _ => rfl

private theorem tells_of_readAnswer?
    {members : Json.Members} {id : Json} {answer : Answer}
    (isId : members.get? "id" = some id) (noMethod : members.get? "method" = none)
    (reads : readAnswer? members = some answer) :
    Tells (.object members) (.response id answer) := by
  by_cases noError : (members.get? "error").getD .null = .null
  · rw [readAnswer?_of_null noError] at reads
    obtain ⟨result, isResult, rfl⟩ := Option.map_eq_some_iff.mp reads
    exact .result isId noMethod noError isResult
  · cases isError : members.get? "error" with
    | none => exact absurd (by rw [isError]; rfl) noError
    | some error =>
        rw [isError, Option.getD_some] at noError
        rw [readAnswer?_of_error isError noError] at reads
        injection reads with same
        exact same ▸ .error isId noMethod isError noError

private theorem tells_of_ofJson?
    {value : Json} {incoming : Incoming} (classified : ofJson? value = some incoming) :
    Tells value incoming := by
  cases value with
  | object members =>
      simp only [ofJson?] at classified
      split at classified
      · rename_i isId isMethod
        injection classified with same
        exact same ▸ .request isId isMethod
      · rename_i noId isMethod
        injection classified with same
        exact same ▸ .notification noId isMethod
      · cases classified
      · rename_i isId noMethod
        obtain ⟨answer, reads, rfl⟩ := Option.map_eq_some_iff.mp classified
        exact tells_of_readAnswer? isId noMethod reads
      · cases classified
  | _ => cases classified

private theorem ofJson?_of_tells
    {value : Json} {incoming : Incoming} (tells : Tells value incoming) :
    ofJson? value = some incoming := by
  cases tells with
  | request isId isMethod => simp only [ofJson?, isId, isMethod]
  | notification noId isMethod => simp only [ofJson?, noId, isMethod]
  | result isId noMethod noError isResult =>
      simp only [ofJson?, isId, noMethod, readAnswer?_of_null noError, isResult, Option.map_some]
  | error isId noMethod isError notNull =>
      simp only [ofJson?, isId, noMethod, readAnswer?_of_error isError notNull, Option.map_some]

/-- The classification of values is the one by their members. -/
theorem ofJson?_eq_some_iff (value : Json) (incoming : Incoming) :
    ofJson? value = some incoming ↔ Tells value incoming :=
  ⟨tells_of_ofJson?, ofJson?_of_tells⟩

end Incoming

/-! ## Calls of the read loop -/

/-- The call that the read loop makes on a message. -/
inductive Routing where
  /-- The answer to a call is given to the table. -/
  | completion (id : Json) (answer : Answer)
  /-- The handler of a notification is called. -/
  | notified (handler : NotificationHandler) (params : Option Json)
  /-- The handler of a request is called, if there is one. -/
  | requested (id : Json) (method : String) (handler? : Option RequestHandler)
      (params : Option Json)

namespace Routing

/-- The record that the handler keeps of its call. -/
def record? : Routing → Option (Json × Option Json)
  | .completion _ _ => none
  | .notified (.custom tag _) params => some (tag, params)
  | .notified _ _ => none
  | .requested _ _ handler? params => (handler?.bind RequestHandler.tag?).map fun tag => (tag, params)

end Routing

/-- The work that a request leaves: that of its handler, or the error that there is none. -/
def RequestWork.begin
    (method : String) (handler? : Option RequestHandler) (params : Option Json) : RequestWork :=
  match handler? with
  | some handler => handler.start params
  | none => .answered (.error (.methodNotFound method))

/-- The call that a value leads to; none if it is no message or a notice that nobody
handles. -/
def HandlerRegistry.route? (registry : HandlerRegistry) (value : Json) : Option Routing :=
  match Incoming.ofJson? value with
  | some (.response id answer) => some (.completion id answer)
  | some (.request id method params) =>
      some (.requested id method (registry.request? method) params)
  | some (.notification method params) =>
      (registry.notification? method).map fun handler => .notified handler params
  | none => none

/-- Only the handlers of users come to a record. -/
theorem NotificationHandler.eq_custom_of_handle
    {cache : DiagnosticsCache} {params params' : Option Json} {handler : NotificationHandler}
    {tag : Json} {failure : Option String}
    (handles : handler.handle cache params = .ok (.recorded tag params' failure)) :
    ∃ failures, handler = .custom tag failures := by
  cases handler with
  | custom tag' failures => cases handles; exact ⟨failures, rfl⟩
  | publishDiagnostics =>
      simp only [handle] at handles
      split at handles <;> cases handles
  | showMessage | logMessage =>
      simp only [handle, logText] at handles
      split at handles
      · cases handles
      · split at handles <;> cases handles

namespace HandlerRegistry

inductive Leads (registry : HandlerRegistry) (value : Json) : Routing → Prop
  | completion {id : Json} {answer : Answer} :
      Incoming.Tells value (.response id answer) →
      Leads registry value (.completion id answer)
  | requested {id : Json} {method : String} {params : Option Json} :
      Incoming.Tells value (.request id method params) →
      Leads registry value (.requested id method (registry.request? method) params)
  | notified {method : String} {params : Option Json} {handler : NotificationHandler} :
      Incoming.Tells value (.notification method params) →
      registry.notification? method = some handler →
      Leads registry value (.notified handler params)

theorem route?_eq_some_iff (registry : HandlerRegistry) (value : Json) (routing : Routing) :
    registry.route? value = some routing ↔ registry.Leads value routing := by
  constructor
  · intro leads
    unfold route? at leads
    split at leads
    · rename_i classified
      injection leads with same
      exact same ▸ .completion ((Incoming.ofJson?_eq_some_iff _ _).mp classified)
    · rename_i classified
      injection leads with same
      exact same ▸ .requested ((Incoming.ofJson?_eq_some_iff _ _).mp classified)
    · rename_i classified
      obtain ⟨handler, registered, rfl⟩ := Option.map_eq_some_iff.mp leads
      exact .notified ((Incoming.ofJson?_eq_some_iff _ _).mp classified) registered
    · cases leads
  · intro leads
    cases leads with
    | completion tells | requested tells =>
        simp only [route?, (Incoming.ofJson?_eq_some_iff _ _).mpr tells]
    | notified tells registered =>
        simp only [route?, (Incoming.ofJson?_eq_some_iff _ _).mpr tells, registered,
          Option.map_some]

end HandlerRegistry

namespace Session

/-- The session after a call of the read loop. -/
def perform (session : Session) (routing : Routing) : Session :=
  let session := { session with records := routing.record?.toList ++ session.records }
  match routing with
  | .completion id answer => session.deliver id answer
  | .notified handler params =>
      match handler.handle session.client.diagnostics params with
      | .error _ | .ok (.logged _ _) | .ok (.recorded _ _ _) => session
      | .ok (.published diagnostics) =>
          { session with client := { session.client with diagnostics } }
  | .requested id method handler? params =>
      session.spawn (.answer (.working id (.begin method handler? params)))

variable (session : Session)

/-- To act on a value is to make the call that it leads to, and nothing else. -/
theorem dispatch_eq_perform (value : Json) :
    session.dispatch value =
      (session.client.handlers.route? value).elim session session.perform := by
  unfold dispatch HandlerRegistry.route?
  cases Incoming.ofJson? value with
  | none => rfl
  | some incoming =>
      cases incoming with
      | response id answer => rfl
      | request id method params => rfl
      | notification method params =>
          simp only [handleNotification]
          cases session.client.handlers.notification? method with
          | none => rfl
          | some handler =>
              cases handler with
              | custom tag failure => rfl
              | publishDiagnostics | showMessage | logMessage =>
                  simp only [Option.map_some, Option.elim_some, perform]
                  split <;> rename_i handles
                  · simp only [handles]; rfl
                  · simp only [handles]; rfl
                  · simp only [handles]; rfl
                  · obtain ⟨_, same⟩ := NotificationHandler.eq_custom_of_handle handles
                    cases same

theorem records_perform (routing : Routing) :
    (session.perform routing).records = routing.record?.toList ++ session.records := by
  unfold perform
  dsimp only
  split
  · unfold deliver
    split <;> rfl
  · split <;> rfl
  · rfl

/-! ## Entries without effect -/

/-- An entry of the stream that nothing comes of: what is no frame or no message, an answer
that nobody waits for, and a notice that nobody handles or whose handler fails. -/
inductive IsIdle : Frame.Entry → Prop
  | malformed (error : FrameError) : IsIdle (.error error)
  | meaningless {value : Json} :
      (∀ incoming, ¬ Incoming.Tells value incoming) →
      IsIdle (.frame value)
  | unmatched {value id : Json} {answer : Answer} :
      Incoming.Tells value (.response id answer) →
      (∀ number, id.nat? = some number → number ∉ session.client.calls.waiting) →
      IsIdle (.frame value)
  | unhandled {value : Json} {method : String} {params : Option Json} :
      Incoming.Tells value (.notification method params) →
      session.client.handlers.notification? method = none →
      IsIdle (.frame value)
  | failed {value : Json} {method : String} {params : Option Json}
      {handler : NotificationHandler} {fault : NotificationFault} :
      Incoming.Tells value (.notification method params) →
      session.client.handlers.notification? method = some handler →
      handler.handle session.client.diagnostics params = .error fault →
      IsIdle (.frame value)

theorem dispatch_of_isIdle {value : Json} (isIdle : session.IsIdle (.frame value)) :
    session.dispatch value = session := by
  unfold dispatch
  cases isIdle with
  | meaningless noMessage =>
      cases classified : Incoming.ofJson? value with
      | none => rfl
      | some incoming =>
          exact absurd ((Incoming.ofJson?_eq_some_iff value incoming).mp classified)
            (noMessage incoming)
  | unmatched tells nobody =>
      rw [(Incoming.ofJson?_eq_some_iff _ _).mpr tells]
      dsimp only [deliver]
      split
      · rfl
      · rename_i number isNumber
        rw [PendingCalls.complete_of_not_waiting _ (nobody number isNumber)]
  | unhandled tells nobody =>
      rw [(Incoming.ofJson?_eq_some_iff _ _).mpr tells]
      simp only [handleNotification, nobody]
  | failed tells registered fails =>
      rw [(Incoming.ofJson?_eq_some_iff _ _).mpr tells]
      simp only [handleNotification, registered, fails]

end Session

end LanguageClient
