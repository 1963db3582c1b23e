import LanguageClient.Proofs.Session.Run

/-!
# Effects of actions

What each action does to a session, said once.  An operation that takes a step is
named with what its step comes to; the actions of everybody else change the client
or the stream from the server and leave the operations alone.
-/

namespace LanguageClient.Session

/-! ## The operation of a task -/

theorem task?_setTask
    (session : Session) (task other : TaskId) (operation : Operation) :
    (session.setTask task operation).task? other =
      if other = task then (session.task? task).map fun _ => operation
      else session.task? other := by
  unfold task? setTask
  induction session.tasks with
  | nil => simp
  | cons entry entries inductionHypothesis =>
      by_cases sameEntry : entry.1 = task
      · by_cases sameTask : other = task
        · subst other
          simp [sameEntry]
        · simpa [sameEntry, sameTask, Ne.symm sameTask] using inductionHypothesis
      · by_cases sameTask : other = task
        · subst other
          simpa [sameEntry] using inductionHypothesis
        · by_cases found : entry.1 = other
          · simp [sameTask, found]
          · simpa [sameEntry, sameTask, found] using inductionHypothesis

theorem task?_dropTask
    (session : Session) (task other : TaskId) :
    (session.dropTask task).task? other =
      if other = task then none else session.task? other := by
  unfold task? dropTask
  rw [List.find?_filter]
  by_cases sameTask : other = task
  · subst other
    simp
  · have sameSearch :
        (fun entry : TaskId × Operation =>
            !decide (entry.1 = task) && decide (entry.1 = other)) =
          fun entry => decide (entry.1 = other) := by
      funext entry
      by_cases found : entry.1 = other
      · simp [found, sameTask]
      · simp [found]
    simp [sameTask, sameSearch]

/-- The numbers of the tasks were given out already. -/
def HasFreshTask (session : Session) : Prop :=
  ∀ entry, entry ∈ session.tasks → entry.1 < session.nextTask

theorem HasFreshTask.lt
    {session : Session} (fresh : session.HasFreshTask) {task : TaskId} {operation : Operation}
    (found : session.task? task = some operation) : task < session.nextTask := by
  obtain ⟨entry, isEntry, _⟩ := Option.map_eq_some_iff.mp found
  have sameTask : entry.1 = task := by simpa using List.find?_some isEntry
  exact sameTask ▸ fresh entry (List.mem_of_find?_eq_some isEntry)

theorem HasFreshTask.task?_of_le
    {session : Session} (fresh : session.HasFreshTask) {task : TaskId}
    (new : session.nextTask ≤ task) : session.task? task = none := by
  cases found : session.task? task with
  | none => rfl
  | some operation => exact absurd (fresh.lt found) (Nat.not_lt.mpr new)

theorem task?_spawn
    {session : Session} (fresh : session.HasFreshTask) (operation : Operation)
    (other : TaskId) :
    (session.spawn operation).task? other =
      if other = session.nextTask then some operation else session.task? other := by
  by_cases new : other = session.nextTask
  · subst other
    have absent := fresh.task?_of_le (Nat.le_refl _)
    unfold task? at absent ⊢
    rw [Option.map_eq_none_iff] at absent
    simp [spawn, List.find?_append, absent]
  · unfold task?
    simp [spawn, List.find?_append, new, Ne.symm new]

/-! ## Messages of the server -/

/-- What a frame of the server does: an answer goes to the table of calls, a request
becomes a task, a notice may change diagnostics or records, and any other frame does
nothing. -/
theorem dispatch_cases
    (session : Session) (value : Json) :
    (∃ id answer, Incoming.ofJson? value = some (.response id answer) ∧
      session.dispatch value = session.deliver id answer) ∨
    (∃ id method params records, Incoming.ofJson? value = some (.request id method params) ∧
      session.dispatch value =
        ({ session with records } : Session).spawn
          (.answer (.working id (session.requestWork method params)))) ∨
    ((∀ incoming, Incoming.ofJson? value = some incoming →
        ∃ method params, incoming = .notification method params) ∧
      ∃ diagnostics records, session.dispatch value =
        { session with client := { session.client with diagnostics }, records }) := by
  unfold dispatch
  cases classified : Incoming.ofJson? value with
  | none => exact Or.inr (Or.inr ⟨nofun, session.client.diagnostics, session.records, rfl⟩)
  | some incoming =>
      cases incoming with
      | response id answer => exact Or.inl ⟨id, answer, rfl, rfl⟩
      | request id method params => exact Or.inr (Or.inl ⟨id, method, params, _, rfl, rfl⟩)
      | notification method params =>
          refine Or.inr (Or.inr ⟨fun _ same => ⟨method, params, (Option.some.inj same).symm⟩, ?_⟩)
          simp only [handleNotification]
          split
          · exact ⟨session.client.diagnostics, session.records, rfl⟩
          · split
            · exact ⟨session.client.diagnostics, session.records, rfl⟩
            · exact ⟨session.client.diagnostics, session.records, rfl⟩
            · exact ⟨_, session.records, rfl⟩
            · exact ⟨session.client.diagnostics, _, rfl⟩

/-- A frame of the server leaves the read loop alone, and of the client all but the calls
and the diagnostics. -/
theorem dispatch_leaves
    (session : Session) (value : Json) :
    (session.dispatch value).loop = session.loop ∧
      ∃ calls diagnostics,
        (session.dispatch value).client = { session.client with calls, diagnostics } := by
  rcases session.dispatch_cases value with
    ⟨id, answer, _, equality⟩ | ⟨id, method, params, records, _, equality⟩ |
      ⟨_, diagnostics, records, equality⟩
  · rw [equality]
    unfold deliver
    cases id.nat? <;> exact ⟨rfl, _, session.client.diagnostics, rfl⟩
  · rw [equality]
    exact ⟨rfl, session.client.calls, session.client.diagnostics, rfl⟩
  · rw [equality]
    exact ⟨rfl, session.client.calls, diagnostics, rfl⟩

/-! ## Views of operations -/

/-- What a view of operations sees of a task; of a task that is over it sees nothing. -/
def view {ν : Type} (of : Operation → ν) (nothing : ν) (session : Session) (task : TaskId) : ν :=
  match session.task? task with
  | none => nothing
  | some operation => of operation

section View

variable {ν : Type} {of : Operation → ν} {nothing : ν} {session : Session}
  {task : TaskId} {operation : Operation}

theorem view_of_found (found : session.task? task = some operation) :
    session.view of nothing task = of operation := by
  simp only [view, found]

theorem view_of_absent (absent : session.task? task = none) :
    session.view of nothing task = nothing := by
  simp only [view, absent]

theorem found_of_view
    {seen : ν} (sees : session.view of nothing task = seen) (something : seen ≠ nothing) :
    ∃ operation, session.task? task = some operation ∧ of operation = seen := by
  cases found : session.task? task with
  | none => exact absurd (sees.symm.trans (view_of_absent found)) something
  | some operation => exact ⟨operation, rfl, (view_of_found found).symm.trans sees⟩

theorem view_setTask (found : session.task? task = some operation) (next : Operation) :
    (session.setTask task next).view of nothing task = of next := by
  apply view_of_found
  simp [task?_setTask, found]

theorem view_setTask_of_ne {other : TaskId} (different : other ≠ task) (next : Operation) :
    (session.setTask task next).view of nothing other = session.view of nothing other := by
  simp only [view, task?_setTask, if_neg different]

theorem view_dropTask (session : Session) (task : TaskId) :
    (session.dropTask task).view of nothing task = nothing := by
  apply view_of_absent
  simp [task?_dropTask]

theorem view_dropTask_of_ne {other : TaskId} (different : other ≠ task) :
    (session.dropTask task).view of nothing other = session.view of nothing other := by
  simp only [view, task?_dropTask, if_neg different]

theorem view_spawn (fresh : session.HasFreshTask) (operation : Operation) (task : TaskId) :
    (session.spawn operation).view of nothing task = session.view of nothing task ∨
      session.view of nothing task = nothing ∧
        (session.spawn operation).view of nothing task = of operation := by
  by_cases new : task = session.nextTask
  · subst new
    refine Or.inr ⟨view_of_absent (fresh.task?_of_le (Nat.le_refl _)), view_of_found ?_⟩
    rw [task?_spawn fresh, if_pos rfl]
  · left
    simp only [view, task?_spawn fresh, if_neg new]

/-- A view that sees nothing of a new operation does not change. -/
theorem view_spawn_of_nothing
    (fresh : session.HasFreshTask) (unseen : of operation = nothing) (task : TaskId) :
    (session.spawn operation).view of nothing task = session.view of nothing task := by
  rcases view_spawn fresh operation task with same | ⟨before, afterwards⟩
  · exact same
  · rw [before, afterwards, unseen]

/-- The messages of the server leave a view alone that sees nothing of new answers. -/
theorem view_dispatch
    (fresh : session.HasFreshTask) (value : Json)
    (unseen : ∀ id work, of (.answer (.working id work)) = nothing) (task : TaskId) :
    (session.dispatch value).view of nothing task = session.view of nothing task := by
  rcases session.dispatch_cases value with
    ⟨id, answer, _, equality⟩ | ⟨id, method, params, records, _, equality⟩ |
      ⟨_, diagnostics, records, equality⟩
  · rw [equality]
    unfold deliver
    cases id.nat? <;> rfl
  · let recorded : Session := { session with records }
    have recordedFresh : recorded.HasFreshTask := fresh
    rw [equality]
    exact view_spawn_of_nothing recordedFresh (unseen _ _) task
  · rw [equality]
    rfl

end View

/-! ## Effects -/

inductive Effect (session : Session) : Action → Session → Prop
  | started (command : Command) :
      Effect session (.start command) (session.spawn (command.begin session.client))
  | advanced {task : TaskId} {portion : Nat} {operation next : Operation} {client : Client} :
      session.task? task = some operation →
      operation.step ⟨task, portion⟩ session.client = .running client next →
      Effect session (.advance task portion) ({ session with client }.setTask task next)
  | ended {task : TaskId} {portion : Nat} {operation : Operation} {client : Client}
      {result : OperationResult} :
      session.task? task = some operation →
      operation.step ⟨task, portion⟩ session.client = .finished client result →
      Effect session (.advance task portion)
        { { session with client }.dropTask task with
          results := (task, result) :: session.results }
  | abandoned {task : TaskId} {operation : Operation} :
      session.task? task = some operation →
      (∀ stage, operation ≠ .answer stage) →
      Effect session (.abandon task)
        { session.dropTask task with client := operation.abandon task session.client }
  | dispatched {value : Json} {rest : List UInt8} :
      session.loop = .reading →
      Frame.read session.inbound = .frame value rest →
      Effect session .read
        ({ session with inbound := ⟨rest, session.inbound.ending⟩ }.dispatch value)
  | skipped {error : FrameError} {rest : List UInt8} :
      session.loop = .reading →
      Frame.read session.inbound = .malformed error rest →
      Effect session .read { session with inbound := ⟨rest, session.inbound.ending⟩ }
  | lost (reason : String) :
      session.loop = .reading →
      (∀ value rest, Frame.read session.inbound ≠ .frame value rest) →
      Effect session .read { session with loop := .lost reason }
  | drained {reason : String} :
      session.loop = .lost reason →
      Effect session .read
        { session with
          loop := .leaving reason
          client := { session.client with calls := session.client.calls.close.2 } }
  | left {reason : String} :
      session.loop = .leaving reason →
      Effect session .read
        { session with
          loop := .finished
          client := { session.client with state := session.client.state.lose reason } }
  | cancelled (token : TokenId) :
      Effect session (.cancel token)
        { session with
          client := { session.client with cancelled := token :: session.client.cancelled } }
  | handled {action : Action} (handlers : HandlerRegistry) :
      action.task? = none →
      action ≠ .read →
      Effect session action { session with client := { session.client with handlers } }
  | taken (count : Nat) :
      session.client.pipe.isBroken = false →
      Effect session (.serverTakes count)
        { session with
          client := { session.client with pipe := session.client.pipe.take count } }
  | written (bytes : List UInt8) :
      session.takesBytes = true →
      Effect session (.serverWrites bytes)
        { session with
          inbound := { session.inbound with bytes := session.inbound.bytes ++ bytes } }
  | stopped (ending : StreamEnd) :
      session.inbound.ending = .open →
      Effect session (.serverEnds ending)
        { session with inbound := { session.inbound with ending } }
  | broken :
      Effect session .serverStopsReading
        { session with client := { session.client with pipe := session.client.pipe.abandon } }
  | exited (status : ExitStatus) :
      session.client.server = some .running →
      Effect session (.serverExits status)
        { session with client := { session.client with server := some (.ended status) } }
  | elapsed (milliseconds : Nat) :
      Effect session (.elapse milliseconds)
        { session with client := { session.client with now := session.client.now + milliseconds } }
  | changed (files : FileTree) :
      Effect session (.changeFiles files)
        { session with client := { session.client with files } }

private theorem effect_of_advance
    {session after : Session} {task : TaskId} {portion : Nat}
    (applied : session.advance task portion = some after) :
    Effect session (.advance task portion) after := by
  unfold advance taskStep at applied
  cases found : session.task? task with
  | none => simp [found] at applied
  | some operation =>
      cases step : operation.step ⟨task, portion⟩ session.client with
      | blocked => simp [found, step] at applied
      | running client next =>
          simp only [found, step, Option.some.injEq] at applied
          exact applied ▸ .advanced found step
      | finished client result =>
          simp only [found, step, Option.some.injEq] at applied
          exact applied ▸ .ended found step

private theorem effect_of_abandon
    {session after : Session} {task : TaskId}
    (applied : session.abandon task = some after) :
    Effect session (.abandon task) after := by
  unfold abandon at applied
  split at applied
  · cases applied
  · cases applied
  · rename_i operation noAnswer found
    injection applied with applied
    exact applied ▸ .abandoned found noAnswer

private theorem effect_of_read
    {session after : Session} (applied : session.readStep = some after) :
    Effect session .read after := by
  unfold readStep at applied
  split at applied
  · rename_i reading
    split at applied
    · rename_i value rest read
      injection applied with applied
      exact applied ▸ .dispatched reading read
    · rename_i error rest read
      injection applied with applied
      exact applied ▸ .skipped reading read
    · rename_i error read
      injection applied with applied
      exact applied ▸ .lost _ reading fun _ _ frame => nomatch read.symm.trans frame
    · rename_i read
      injection applied with applied
      exact applied ▸ .lost _ reading fun _ _ frame => nomatch read.symm.trans frame
    · cases applied
  · rename_i reason lost
    injection applied with applied
    exact applied ▸ .drained lost
  · rename_i reason leaving
    injection applied with applied
    exact applied ▸ .left leaving
  · cases applied

/-- Every action that can happen has one of the effects. -/
theorem effect_of_apply
    {session after : Session} {action : Action}
    (applied : session.apply action = some after) :
    Effect session action after := by
  cases action with
  | start command =>
      injection applied with applied
      exact applied ▸ .started command
  | advance task portion => exact effect_of_advance applied
  | abandon task => exact effect_of_abandon applied
  | read => exact effect_of_read applied
  | cancel token =>
      injection applied with applied
      exact applied ▸ .cancelled token
  | registerNotification method handler =>
      injection applied with applied
      exact applied ▸ .handled _ rfl nofun
  | registerRequest method handler =>
      injection applied with applied
      exact applied ▸ .handled _ rfl nofun
  | serverTakes count =>
      cases broken : session.client.pipe.isBroken with
      | true => simp [apply, broken] at applied
      | false =>
          simp only [apply, broken, Bool.false_eq_true, if_false, Option.some.injEq] at applied
          exact applied ▸ .taken count broken
  | serverWrites bytes =>
      cases takes : session.takesBytes with
      | true =>
          simp only [apply, takes, if_true, Option.some.injEq] at applied
          exact applied ▸ .written bytes takes
      | false => simp [apply, takes] at applied
  | serverEnds ending =>
      by_cases isOpen : session.inbound.ending = .open
      · simp only [apply, isOpen, if_true, Option.some.injEq] at applied
        exact applied ▸ .stopped ending isOpen
      · simp [apply, isOpen] at applied
  | serverStopsReading =>
      injection applied with applied
      exact applied ▸ .broken
  | serverExits status =>
      simp only [apply] at applied
      split at applied
      · rename_i isRunning
        injection applied with applied
        exact applied ▸ .exited status isRunning
      · cases applied
  | elapse milliseconds =>
      injection applied with applied
      exact applied ▸ .elapsed milliseconds
  | changeFiles files =>
      injection applied with applied
      exact applied ▸ .changed files

/-! ## Numbers of tasks -/

private theorem hasFreshTask_spawn
    {session : Session} (fresh : session.HasFreshTask) (operation : Operation) :
    (session.spawn operation).HasFreshTask := by
  intro entry member
  simp only [spawn, List.mem_append, List.mem_singleton] at member
  rcases member with earlier | rfl
  · exact Nat.lt_succ_of_lt (fresh entry earlier)
  · exact Nat.lt_succ_self _

theorem HasFreshTask.effect
    {session after : Session} {action : Action} (fresh : session.HasFreshTask)
    (effect : Effect session action after) : after.HasFreshTask := by
  cases effect with
  | started command => exact hasFreshTask_spawn fresh _
  | @advanced task portion operation next client found step =>
      intro entry member
      simp only [setTask, List.mem_map] at member
      obtain ⟨entry', member', rfl⟩ := member
      have earlier := fresh entry' member'
      by_cases same : entry'.1 = task
      · rw [if_pos same]
        exact same ▸ earlier
      · rw [if_neg same]
        exact earlier
  | ended found step =>
      intro entry member
      exact fresh entry ((List.mem_filter.mp member).1)
  | abandoned found noAnswer =>
      intro entry member
      exact fresh entry ((List.mem_filter.mp member).1)
  | @dispatched value rest reading read =>
      let passed : Session := { session with inbound := ⟨rest, session.inbound.ending⟩ }
      have passedFresh : passed.HasFreshTask := fresh
      rcases passed.dispatch_cases value with
        ⟨id, answer, _, equality⟩ | ⟨id, method, params, records, _, equality⟩ |
          ⟨_, diagnostics, records, equality⟩
      · rw [equality]
        unfold deliver
        cases id.nat? <;> exact fresh
      · let recorded : Session := { passed with records }
        have recordedFresh : recorded.HasFreshTask := passedFresh
        rw [equality]
        exact hasFreshTask_spawn recordedFresh _
      · rw [equality]
        exact fresh
  | _ => exact fresh

theorem Effect.nextTask_le
    {session after : Session} {action : Action} (effect : Effect session action after) :
    session.nextTask ≤ after.nextTask := by
  cases effect with
  | started command => exact Nat.le_succ _
  | @dispatched value rest reading read =>
      let passed : Session := { session with inbound := ⟨rest, session.inbound.ending⟩ }
      rcases passed.dispatch_cases value with
        ⟨id, answer, _, equality⟩ | ⟨id, method, params, records, _, equality⟩ |
          ⟨_, diagnostics, records, equality⟩
      · rw [equality]
        unfold deliver
        cases id.nat? <;> exact Nat.le_refl session.nextTask
      · rw [equality]
        exact Nat.le_succ session.nextTask
      · exact Nat.le_of_eq (by rw [equality])
  | _ => exact Nat.le_refl _

/-! ## Where operations come from -/

/-- Where the operation that a task has after an action comes from. -/
inductive Origin (session : Session) (action : Action) (task : TaskId) : Operation → Prop
  | kept {operation : Operation} :
      session.task? task = some operation →
      Origin session action task operation
  | begun (command : Command) :
      action = .start command →
      session.nextTask ≤ task →
      Origin session action task (command.begin session.client)
  | asked (id : Json) (work : RequestWork) :
      session.nextTask ≤ task →
      Origin session action task (.answer (.working id work))
  | stepped {portion : Nat} {operation next : Operation} {client : Client} :
      action = .advance task portion →
      session.task? task = some operation →
      operation.step ⟨task, portion⟩ session.client = .running client next →
      Origin session action task next

private theorem of_task?_spawn
    {session : Session} (fresh : session.HasFreshTask) {operation next : Operation}
    {task : TaskId} (found : (session.spawn operation).task? task = some next) :
    session.task? task = some next ∨ session.nextTask ≤ task ∧ next = operation := by
  rw [task?_spawn fresh] at found
  split at found
  · rename_i new
    injection found with same
    exact Or.inr ⟨Nat.le_of_eq new.symm, same.symm⟩
  · exact Or.inl found

private theorem of_task?_dropTask
    (session : Session) {task other : TaskId} {operation : Operation}
    (found : (session.dropTask task).task? other = some operation) :
    session.task? other = some operation := by
  rw [task?_dropTask] at found
  split at found
  · cases found
  · exact found

theorem Effect.origin
    {session after : Session} {action : Action} (effect : Effect session action after)
    (fresh : session.HasFreshTask) {task : TaskId} {next : Operation}
    (found : after.task? task = some next) : Origin session action task next := by
  cases effect with
  | started command =>
      rcases of_task?_spawn fresh found with same | ⟨new, rfl⟩
      · exact .kept same
      · exact .begun command rfl new
  | @advanced stepping portion operation next' client found' step =>
      rw [task?_setTask] at found
      split at found
      · rename_i same
        obtain ⟨_, _, isNext⟩ := Option.map_eq_some_iff.mp found
        subst same isNext
        exact .stepped rfl found' step
      · exact .kept found
  | @ended stepping portion operation client result _ step =>
      exact .kept (of_task?_dropTask { session with client } found)
  | abandoned _ noAnswer => exact .kept (of_task?_dropTask session found)
  | @dispatched value rest reading read =>
      let passed : Session := { session with inbound := ⟨rest, session.inbound.ending⟩ }
      rcases passed.dispatch_cases value with
        ⟨id, answer, _, equality⟩ | ⟨id, method, params, records, _, equality⟩ |
          ⟨_, diagnostics, records, equality⟩
      · rw [equality] at found
        unfold deliver at found
        cases number : id.nat? <;> rw [number] at found <;> exact .kept found
      · let recorded : Session := { passed with records }
        have recordedFresh : recorded.HasFreshTask := fresh
        rw [equality] at found
        rcases of_task?_spawn recordedFresh found with same | ⟨new, rfl⟩
        · exact .kept same
        · exact .asked id _ new
      · rw [equality] at found
        exact .kept found
  | _ => exact .kept found

/-- A task that is over stays over. -/
theorem Effect.task?_of_over
    {session after : Session} {action : Action} (effect : Effect session action after)
    (fresh : session.HasFreshTask) {task : TaskId} (ended : session.task? task = none)
    (old : task < session.nextTask) : after.task? task = none := by
  cases found : after.task? task with
  | none => rfl
  | some next =>
      cases effect.origin fresh found with
      | kept same => exact nomatch ended.symm.trans same
      | begun command isAction new => exact absurd old (Nat.not_lt.mpr new)
      | asked id work new => exact absurd old (Nat.not_lt.mpr new)
      | stepped isAction before step => exact nomatch ended.symm.trans before

end LanguageClient.Session

namespace LanguageClient.Run

/-- In a run from a new session the numbers of tasks are never given out twice. -/
theorem hasFreshTask
    {client : Client} {session : Session} {past : List Transition}
    (run : Run (Session.connect client) past session) : session.HasFreshTask := by
  induction run with
  | refl =>
      intro entry member
      cases member
  | step _ applied inductionHypothesis =>
      exact inductionHypothesis.effect (Session.effect_of_apply applied)

/-- What holds of operations at their first stage and is kept by their steps holds of all
operations of a run. -/
theorem operation_holds
    {client : Client} {session : Session} {past : List Transition} {holds : Operation → Prop}
    (run : Run (Session.connect client) past session)
    (begins : ∀ transition, transition ∈ past → ∀ command, transition.action = .start command →
      holds (command.begin transition.before.client))
    (answers : ∀ id work, holds (.answer (.working id work)))
    (steps : ∀ turn client operation client' next, holds operation →
      operation.step turn client = .running client' next → holds next)
    {task : TaskId} {operation : Operation} (found : session.task? task = some operation) :
    holds operation := by
  induction run generalizing operation with
  | refl => cases found
  | @step past session after action run applied inductionHypothesis =>
      have earlier {operation : Operation} (found : session.task? task = some operation) :
          holds operation :=
        inductionHypothesis (fun transition member => begins transition
          (List.mem_append_left _ member)) found
      cases (Session.effect_of_apply applied).origin run.hasFreshTask found with
      | kept same => exact earlier same
      | begun command isAction new =>
          exact begins _ (List.mem_append_right past List.mem_cons_self) command isAction
      | asked id work new => exact answers id work
      | stepped isAction before step => exact steps _ _ _ _ _ (earlier before) step

/-- What is under way was so at every earlier time at which it had its number, and what holds
of it and is kept backwards held then. -/
theorem found_before
    {client : Client} {session : Session} {earlier later : List Transition}
    {transition : Transition} {holds : Operation → Prop}
    (run : Run (Session.connect client) (earlier ++ transition :: later) session)
    (steps : ∀ turn client operation client' next, holds next →
      operation.step turn client = .running client' next → holds operation)
    {task : TaskId} {operation : Operation} (found : session.task? task = some operation)
    (isHeld : holds operation) (old : task < transition.before.nextTask) :
    ∃ operation', transition.before.task? task = some operation' ∧ holds operation' := by
  obtain ⟨runBefore, applied⟩ := run.before_transition
  have stepped {session after : Session} {action : Action} {operation : Operation}
      (effect : Session.Effect session action after) (fresh : session.HasFreshTask)
      (old : task < session.nextTask) (found : after.task? task = some operation)
      (isHeld : holds operation) :
      ∃ operation', session.task? task = some operation' ∧ holds operation' := by
    cases effect.origin fresh found with
    | kept same => exact ⟨operation, same, isHeld⟩
    | begun command isAction new => exact absurd old (Nat.not_lt.mpr new)
    | asked id work new => exact absurd old (Nat.not_lt.mpr new)
    | stepped isAction before step => exact ⟨_, before, steps _ _ _ _ _ isHeld step⟩
  have effect := Session.effect_of_apply applied
  refine (run.from_transition
    (motive := fun _ session => task < session.nextTask ∧
      ∀ operation, session.task? task = some operation → holds operation →
        ∃ operation', transition.before.task? task = some operation' ∧ holds operation')
    ⟨Nat.lt_of_lt_of_le old effect.nextTask_le, fun operation found isHeld =>
      stepped effect runBefore.hasFreshTask old found isHeld⟩ ?_).2 operation found isHeld
  rintro past session action after run applied ⟨isOld, before⟩
  have effect := Session.effect_of_apply applied
  refine ⟨Nat.lt_of_lt_of_le isOld effect.nextTask_le, fun operation found isHeld => ?_⟩
  obtain ⟨operation', found', isHeld'⟩ := stepped effect run.hasFreshTask isOld found isHeld
  exact before operation' found' isHeld'

end LanguageClient.Run
