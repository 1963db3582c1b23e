import LanguageClient.Proofs.Handshake.Account

/-!
# Built-in handlers

The opening of a session registers the built-in handlers before it begins its request.  From
then on the methods of these handlers have one of them, or what the user has put in its
place since, and none of them answers that there is no handler.
-/

namespace LanguageClient

/-! ## Handlers by method -/

namespace HandlerRegistry

/-- The methods of the requests that every client answers. -/
def builtinMethods : List String :=
  (builtinRequests .null).map Prod.fst

theorem request_mem_builtins_iff {settings : Json} {method : String} {handler : RequestHandler} :
    .request method handler ∈ builtins settings ↔ (method, handler) ∈ builtinRequests settings := by
  simp [builtins]

theorem exists_builtin
    {method : String} (isBuiltin : method ∈ builtinMethods) (settings : Json) :
    ∃ handler, (method, handler) ∈ builtinRequests settings := by
  have sameMethods : (builtinRequests settings).map Prod.fst = builtinMethods := rfl
  rw [← sameMethods] at isBuiltin
  obtain ⟨entry, member, rfl⟩ := List.mem_map.mp isBuiltin
  exact ⟨entry.2, member⟩

end HandlerRegistry

/-! ## Answers of built-in handlers -/

/-- Whatever the work comes to, it is not that there is no handler. -/
def RequestWork.IsKnown (work : RequestWork) : Prop :=
  ∀ error, work.answer? = some (.error error) → error.code ≠ ResponseError.methodNotFoundCode

private theorem isKnown_of_ok (value : Json) : (RequestWork.answered (.ok value)).IsKnown :=
  fun _ isError => nomatch isError

private theorem isKnown_of_invalidParams (reason : String) :
    (RequestWork.answered (.error (.invalidParams reason))).IsKnown := by
  intro error isError
  obtain rfl := Except.error.inj (Option.some.inj isError)
  exact nofun

private theorem isKnown_of_editing (progress : WorkspaceEdit.Progress) :
    (RequestWork.editing progress).IsKnown := by
  intro error isError
  obtain ⟨outcome, _, isResult⟩ := Option.map_eq_some_iff.mp isError
  cases isResult

theorem RequestWork.IsKnown.turn
    {work : RequestWork} (known : work.IsKnown) (portion : Nat) (files : FileTree) :
    (work.turn portion files).IsKnown := by
  cases work with
  | answered | delayed => exact known
  | editing progress => exact isKnown_of_editing _

/-- What goes on does not change this. -/
theorem RequestWork.IsKnown.behind
    {work : RequestWork} (known : work.IsKnown) (task : TaskId) (past : List Transition) :
    (work.behind task past).IsKnown := by
  induction past using List.reverseRecOn with
  | nil => exact known
  | append_singleton past last inductionHypothesis =>
      rw [RequestWork.behind_concat]
      unfold Transition.work
      split
      · split
        · exact inductionHypothesis.turn _ _
        · exact inductionHypothesis
      · exact inductionHypothesis

/-- A built-in handler never answers that there is no handler. -/
theorem RequestHandler.isKnown_of_builtin
    {settings : Json} {method : String} {handler : RequestHandler}
    (isBuiltin : (method, handler) ∈ HandlerRegistry.builtinRequests settings)
    (params : Option Json) : (handler.start params).IsKnown := by
  have cases' : handler = .configuration settings ∨ handler = .applyEdit ∨
      handler = .acknowledge := by
    simp only [HandlerRegistry.builtinRequests, List.mem_cons, Prod.mk.injEq, List.not_mem_nil,
      or_false] at isBuiltin
    rcases isBuiltin with ⟨_, same⟩ | ⟨_, same⟩ | ⟨_, same⟩ | ⟨_, same⟩
    · exact Or.inl same
    · exact Or.inr (Or.inl same)
    · exact Or.inr (Or.inr same)
    · exact Or.inr (Or.inr same)
  rcases cases' with rfl | rfl | rfl
  · simp only [start, Settings.answer]
    split
    · exact isKnown_of_ok _
    · split
      · exact isKnown_of_ok _
      · exact isKnown_of_invalidParams _
  · simp only [start, startEdit]
    split
    · exact isKnown_of_invalidParams _
    · split
      · exact isKnown_of_editing _
      · exact isKnown_of_invalidParams _
  · exact isKnown_of_ok _

/-! ## Handlers in a run -/

/-- Where the handler for the requests of a method comes from once the built-in ones were
registered: it is one of them, or a user has registered it since. -/
inductive IsHandledSince (past : List Transition) (method : String) : RequestHandler → Prop
  | builtin {opening : SessionOpening} {handler : RequestHandler} :
      opening ∈ sessionOpenings past →
      opening.task ∈ claims past →
      (method, handler) ∈ HandlerRegistry.builtinRequests opening.settings →
      IsHandledSince past method handler
  | users {before since : List Transition} {installing registering : Transition}
      {builtin handler : RequestHandler} :
      past = before ++ installing :: since →
      installing.builtin? = some (.request method builtin) →
      registering ∈ since →
      registering.action = .registerRequest method handler →
      IsHandledSince past method handler

theorem Operation.registration?_eq_some
    {operation : Operation} {registration : Registration}
    (registers : operation.registration? = some registration) :
    ∃ workspace rootUri options registered,
      operation = .openSession (.registering workspace rootUri options registered) ∧
        registration ∈ HandlerRegistry.builtins (options.getD .null) := by
  cases operation with
  | openSession stage =>
      cases stage with
      | registering workspace rootUri options registered =>
          exact ⟨workspace, rootUri, options, registered, rfl, List.mem_of_getElem? registers⟩
      | _ => cases registers
  | _ => cases registers

namespace Transition

variable {transition : Transition}

theorem exists_operation_of_builtin?
    {registration : Registration} (installs : transition.builtin? = some registration) :
    ∃ task portion operation, transition.action = .advance task portion ∧
      transition.before.task? task = some operation ∧
        operation.registration? = some registration := by
  unfold builtin? at installs
  split at installs
  · rename_i task portion isAction
    obtain ⟨operation, found, registers⟩ := Option.bind_eq_some_iff.mp installs
    exact ⟨task, portion, operation, isAction, found, registers⟩
  · cases installs

theorem registration?_of_builtin?
    {registration : Registration} (installs : transition.builtin? = some registration) :
    transition.registration? = some registration := by
  obtain ⟨task, portion, operation, isAction, _⟩ := exists_operation_of_builtin? installs
  simp only [registration?, isAction, installs]

/-- Who registers a handler of requests is a user or the handshake. -/
theorem registration?_eq_request
    {method : String} {handler : RequestHandler}
    (registers : transition.registration? = some (.request method handler)) :
    transition.action = .registerRequest method handler ∨
      transition.builtin? = some (.request method handler) := by
  unfold registration? at registers
  split at registers
  · cases registers
  · rename_i isAction
    cases registers
    exact Or.inl isAction
  · exact Or.inr registers

end Transition

namespace Run

variable {client : Client} {session : Session} {past : List Transition}

/-- Only the opening that has claimed the client registers built-in handlers. -/
private theorem exists_claimed_of_builtin
    (run : Run (Session.connect client) past session) (fresh : client.calls = .empty)
    (freshOutlet : client.HasFreshOutlet) (leaves : LeavesHandshake past)
    {transition : Transition} {registration : Registration} (member : transition ∈ past)
    (installs : transition.builtin? = some registration) :
    ∃ opening, opening ∈ sessionOpenings past ∧ opening.task ∈ claims past ∧
      registration ∈ HandlerRegistry.builtins opening.settings := by
  obtain ⟨earlier, later, rfl⟩ := List.append_of_mem member
  have invariant := run.before_transition.1.openingInvariant fresh freshOutlet leaves.left
  obtain ⟨task, _, operation, _, isOperation, registers⟩ :=
    Transition.exists_operation_of_builtin? installs
  obtain ⟨workspace, rootUri, options, registered, rfl, isBuiltin⟩ :=
    Operation.registration?_eq_some registers
  by_cases opens : ∃ opening, opening ∈ sessionOpenings earlier ∧ opening.task = task
  · obtain ⟨opening, isOpening, rfl⟩ := opens
    have course := invariant.course opening isOpening
    generalize traceEq : TaskTrace.of earlier transition.before opening.task = trace at course
    have operation : trace.operation? =
        some (.openSession (.registering workspace rootUri options registered)) :=
      traceEq ▸ isOperation
    cases course with
    | waiting => cases operation
    | turnedAway => cases operation
    | claimed isClaimed handshaking _ =>
        refine ⟨opening, sessionOpenings_subset _ _ isOpening, claims_subset _ _ isClaimed, ?_⟩
        cases handshaking <;> cases operation
        exact isBuiltin
  · exact absurd isOperation ((invariant.apart task fun opening isOpening same =>
      opens ⟨opening, isOpening, same⟩).operation _)

/-- Behind the registration of the built-in handlers their methods have handlers. -/
theorem exists_handler_of_prepared
    (run : Run (Session.connect client) past session) (fresh : client.calls = .empty)
    (freshOutlet : client.HasFreshOutlet) (leaves : LeavesHandshake past)
    {opening : SessionOpening} (prepared : Prepared past opening) {method : String}
    (isMethod : method ∈ HandlerRegistry.builtinMethods) :
    ∃ handler, session.client.handlers.request? method = some handler ∧
      IsHandledSince past method handler := by
  have ofOpening {transition : Transition} {handler : RequestHandler} (member : transition ∈ past)
      (installs : transition.builtin? = some (.request method handler)) :
      IsHandledSince past method handler := by
    obtain ⟨opening, isOpening, isClaimed, isBuiltin⟩ :=
      run.exists_claimed_of_builtin fresh freshOutlet leaves member installs
    exact .builtin isOpening isClaimed (HandlerRegistry.request_mem_builtins_iff.mp isBuiltin)
  obtain ⟨builtin, isBuiltin⟩ := HandlerRegistry.exists_builtin isMethod opening.settings
  obtain ⟨installing, member, _, installs⟩ :=
    prepared.2 _ (HandlerRegistry.request_mem_builtins_iff.mpr isBuiltin)
  have registers := Transition.registration?_of_builtin? installs
  obtain ⟨before, since, split⟩ := List.append_of_mem member
  -- The lookup goes back from the latest registration: what was registered since counts first.
  have lookup := run.request?_eq method
  rw [split, List.filterMap_append, List.filterMap_cons_some registers, List.reverse_append,
    List.reverse_cons, List.append_assoc, List.findSome?_append] at lookup
  cases replaced : (since.filterMap Transition.registration?).reverse.findSome?
      (Registration.request? method) with
  | some handler =>
      rw [replaced] at lookup
      refine ⟨handler, lookup, ?_⟩
      obtain ⟨registration, registered, isFor⟩ := List.exists_of_findSome?_eq_some replaced
      obtain ⟨registering, isSince, registers'⟩ :=
        List.mem_filterMap.mp (List.mem_reverse.mp registered)
      obtain rfl := Registration.eq_of_request? isFor
      rcases Transition.registration?_eq_request registers' with isAction | installs'
      · exact .users split installs isSince isAction
      · exact ofOpening (split ▸ List.mem_append_right _ (List.mem_cons_of_mem _ isSince)) installs'
  | none =>
      rw [replaced, Option.none_or, List.singleton_append, List.findSome?_cons,
        Registration.request?, if_pos rfl] at lookup
      exact ⟨builtin, lookup, ofOpening member installs⟩

end Run

end LanguageClient
