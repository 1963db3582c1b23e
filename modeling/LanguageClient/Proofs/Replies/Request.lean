import LanguageClient.Proofs.Dispatch.Order
import LanguageClient.Proofs.Wire.Trace

/-!
# Requests of the server

A request that the read loop takes becomes a task of its own, with the work that the handler
of its method leaves at that moment.  Nothing else that comes from the server begins a task.
-/

namespace LanguageClient

/-- A request of the server that was dispatched: the task that is to answer it, what it
says, and the handler of its method at that moment, if there was one. -/
structure ServerRequest where
  task : TaskId
  id : Json
  method : String
  params : Option Json
  handler? : Option RequestHandler

def ServerRequest.work (request : ServerRequest) : RequestWork :=
  .begin request.method request.handler? request.params

/-- The request that the read loop takes, with the task that it becomes. -/
def Transition.asked? (transition : Transition) : Option ServerRequest :=
  match transition.routing? with
  | some (.requested id method handler? params) =>
      some ⟨transition.before.nextTask, id, method, params, handler?⟩
  | _ => none

/-- The requests of the server in a past, in the order in which they were dispatched. -/
def serverRequests (past : List Transition) : List ServerRequest :=
  past.filterMap Transition.asked?

theorem serverRequests_concat (past : List Transition) (transition : Transition) :
    serverRequests (past ++ [transition]) =
      serverRequests past ++ transition.asked?.toList := by
  unfold serverRequests
  rw [List.filterMap_append]
  cases asked : transition.asked? <;> simp [asked]

/-- The requests are the frames that are requests by their members, with the handlers of
that moment. -/
theorem Transition.asked?_eq_some_iff (transition : Transition) (request : ServerRequest) :
    transition.asked? = some request ↔
      ∃ value, transition.taken? = some (.frame value) ∧
        Incoming.Tells value (.request request.id request.method request.params) ∧
          request.handler? = transition.before.client.handlers.request? request.method ∧
            request.task = transition.before.nextTask := by
  constructor
  · intro asked
    unfold asked? routing? at asked
    cases entry : transition.taken? with
    | none => rw [entry] at asked; cases asked
    | some entry' =>
        cases entry' with
        | error | finished => rw [entry] at asked; cases asked
        | frame value =>
            rw [entry] at asked
            dsimp only at asked
            split at asked
            · rename_i id method handler? params route
              cases asked
              cases (HandlerRegistry.route?_eq_some_iff _ _ _).mp route with
              | requested tells => exact ⟨value, rfl, tells, rfl, rfl⟩
            · cases asked
  · rintro ⟨value, entry, tells, handler, task⟩
    have route := (transition.before.client.handlers.route?_eq_some_iff value _).mpr
      (.requested tells)
    simp only [asked?, routing?, entry, route, ← handler, ← task]

namespace Session

variable {session after : Session} {action : Action} {task : TaskId}

/-- Only a request makes a task among the calls of the read loop. -/
theorem tasks_perform (routing : Routing) :
    (∃ id method handler? params, routing = .requested id method handler? params) ∨
      (session.perform routing).tasks = session.tasks ∧
        (session.perform routing).nextTask = session.nextTask := by
  cases routing with
  | completion id answer =>
      right
      unfold perform deliver
      dsimp only
      split <;> exact ⟨rfl, rfl⟩
  | notified handler params =>
      right
      unfold perform
      dsimp only
      split <;> exact ⟨rfl, rfl⟩
  | requested id method handler? params => exact Or.inl ⟨id, method, handler?, params, rfl⟩

/-- Nothing that the read loop takes but a request begins a task. -/
theorem tasks_of_unasked
    (isRead : action = .read) (applied : session.apply action = some after)
    (unasked : Transition.asked? ⟨session, action, after⟩ = none) :
    after.tasks = session.tasks ∧ after.nextTask = session.nextTask := by
  subst isRead
  by_cases frame : ∃ value, Transition.taken? ⟨session, .read, after⟩ = some (.frame value)
  · obtain ⟨value, entry⟩ := frame
    obtain ⟨rest, _, performs⟩ := performs_of_apply applied entry
    rw [performs]
    cases route : session.client.handlers.route? value with
    | none => exact ⟨rfl, rfl⟩
    | some routing =>
        rcases (session.passTo rest).tasks_perform routing with
          ⟨id, method, handler?, params, rfl⟩ | same
        · simp [Transition.asked?, Transition.routing?, entry, route] at unasked
        · exact same
  · cases effect_of_apply applied with
    | dispatched reading read => exact absurd ⟨_, taken?_of_frame reading read⟩ frame
    | handled handlers noTask notRead => exact absurd rfl notRead
    | _ => exact ⟨rfl, rfl⟩

/-- The read loop puts nothing on the stream itself. -/
theorem outlet_of_read (applied : session.apply .read = some after) :
    after.client.outlet = session.client.outlet := by
  cases effect_of_apply applied with
  | @dispatched value rest reading read =>
      let passed : Session := { session with inbound := ⟨rest, session.inbound.ending⟩ }
      obtain ⟨_, calls, diagnostics, client⟩ := passed.dispatch_leaves value
      have outlet := congrArg Client.outlet client
      exact outlet
  | handled handlers noTask notRead => exact absurd rfl notRead
  | _ => rfl

theorem task?_perform_requested
    (fresh : session.HasFreshTask) (id : Json) (method : String)
    (handler? : Option RequestHandler) (params : Option Json) :
    (session.perform (.requested id method handler? params)).task? session.nextTask =
      some (.answer (.working id (.begin method handler? params))) := by
  let recorded (records : List (Json × Option Json)) : Session := { session with records }
  have recordedFresh (records) : (recorded records).HasFreshTask := fresh
  exact (task?_spawn (recordedFresh _) _ _).trans (if_pos rfl)

/-- A request that is taken is a task behind it, which has its work to do. -/
theorem begins_of_asked
    {request : ServerRequest} (fresh : session.HasFreshTask)
    (applied : session.apply action = some after)
    (asked : Transition.asked? ⟨session, action, after⟩ = some request) :
    request.task = session.nextTask ∧ after.nextTask = session.nextTask + 1 ∧
      after.task? request.task = some (.answer (.working request.id request.work)) := by
  obtain ⟨value, entry, tells, handler, isNext⟩ :=
    (Transition.asked?_eq_some_iff _ request).mp asked
  have route := (session.client.handlers.route?_eq_some_iff value _).mpr (.requested tells)
  obtain ⟨rest, _, performs⟩ := performs_of_apply applied entry
  rw [route] at performs
  have passedFresh : (session.passTo rest).HasFreshTask := fresh
  refine ⟨isNext, performs ▸ rfl, ?_⟩
  rw [performs, isNext, ServerRequest.work, handler]
  exact task?_perform_requested passedFresh _ _ _ _

/-- Every task that begins with an answer is that of a request. -/
theorem exists_asked
    {id : Json} {work : RequestWork} (fresh : session.HasFreshTask)
    (applied : session.apply action = some after) (absent : session.task? task = none)
    (begins : after.task? task = some (.answer (.working id work))) :
    ∃ request, Transition.asked? ⟨session, action, after⟩ = some request ∧
      request.task = task := by
  by_cases frame : ∃ value, Transition.taken? ⟨session, action, after⟩ = some (.frame value)
  · have isRead : action = .read := by
      obtain ⟨value, entry⟩ := frame
      cases action with
      | read => rfl
      | _ => cases entry
    cases asked : Transition.asked? ⟨session, action, after⟩ with
    | none =>
        have same := (tasks_of_unasked isRead applied asked).1
        have absent' : after.task? task = none := by
          rw [task?, same]
          exact absent
        cases absent'.symm.trans begins
    | some request =>
        refine ⟨request, rfl, ?_⟩
        obtain ⟨isNext, bound, _⟩ := begins_of_asked fresh applied asked
        have old : task < session.nextTask + 1 :=
          bound ▸ (fresh.effect (effect_of_apply applied)).lt begins
        by_contra different
        have earlier : task < session.nextTask :=
          Nat.lt_of_le_of_ne (Nat.le_of_lt_succ old) fun same =>
            different (isNext.trans same.symm)
        have notTask : action.task? ≠ some task := isRead ▸ nofun
        have same := (effect_of_apply applied).task?_of_ne fresh earlier notTask
        cases (same.trans absent).symm.trans begins
  · have noCall := makesNoCall_of_apply fresh applied (not_exists.mp frame)
    exact absurd absent (noCall.requests task id work begins)

end Session

end LanguageClient
