import LanguageClient.Proofs.Files.Place
import LanguageClient.Proofs.Operation.Message
import LanguageClient.Proofs.Operation.Untouched
import LanguageClient.Proofs.Session.Effect

/-!
# What actions do to edits

The edits of files that a session is at work on, one for each request of the server
to apply one that is not answered yet.  An action begins an edit, takes a step of
one, answers one, or leaves all edits and the files alone; only somebody else may
change the files besides.
-/

namespace LanguageClient

open WorkspaceEdit (Progress)

def Operation.edit? : Operation → Option Progress
  | .answer (.working _ (.editing progress)) => some progress
  | _ => none

def Operation.reply? : Operation → Option Answer
  | .answer (.sending (.asking (.response _ reply))) => some reply
  | _ => none

namespace Session

def edit? (session : Session) (task : TaskId) : Option Progress :=
  session.view Operation.edit? none task

/-- The edit that the request of the server asks for which comes next, with the task
that is to answer it. -/
def nextEdit? (session : Session) : Option (TaskId × WorkspaceEdit) :=
  match session.loop, Frame.read session.inbound with
  | .reading, .frame value _ =>
      match Incoming.ofJson? value with
      | some (.request _ method (some params)) =>
          match session.client.handlers.request? method with
          | some .applyEdit =>
              (WorkspaceEdit.decodeParams params).toOption.map fun edit => (session.nextTask, edit)
          | _ => none
      | _ => none
  | _, _ => none

/-- The edit of one task becomes another, or is over; all others are as before. -/
def EditBecomes (session : Session) (task : TaskId) (next : Option Progress) (after : Session) :
    Prop :=
  ∀ other, after.edit? other = if other = task then next else session.edit? other

/-- How an action changes the edits under way and the files. -/
inductive EditMove (session : Session) (action : Action) (after : Session) : Prop
  | apart :
      (∀ task portion, action = .advance task portion → session.edit? task = none) →
      (action = .read → session.nextEdit? = none) →
      after.client.files = session.client.files →
      (∀ task, after.edit? task = session.edit? task) →
      EditMove session action after
  | begun (edit : WorkspaceEdit) :
      action = .read →
      session.nextEdit? = some (session.nextTask, edit) →
      after.client.files = session.client.files →
      session.EditBecomes session.nextTask (some (.start edit)) after →
      EditMove session action after
  | read {task : TaskId} {portion : Nat} {path : Path} {edits : List TextEdit}
      {left : WorkspaceEdit.FileEdits} {edited : List (Path × String)} {file : Path × String} :
      action = .advance task portion →
      session.edit? task = some (.reading ((path, edits) :: left) edited) →
      WorkspaceEdit.editFile session.client.files path edits = .ok file →
      after.client.files = session.client.files →
      session.EditBecomes task (some (.reading left (edited ++ [file]))) after →
      EditMove session action after
  | refused {task : TaskId} {portion : Nat} {file : Path × List TextEdit}
      {left : WorkspaceEdit.FileEdits} {edited : List (Path × String)} {error : EditError} :
      action = .advance task portion →
      session.edit? task = some (.reading (file :: left) edited) →
      after.client.files = session.client.files →
      session.EditBecomes task (some (.finished (.error error))) after →
      EditMove session action after
  | turned {task : TaskId} {portion : Nat} {edited : List (Path × String)} :
      action = .advance task portion →
      session.edit? task = some (.reading [] edited) →
      after.client.files = session.client.files →
      session.EditBecomes task (some (.writing edited 0)) after →
      EditMove session action after
  | wrote {task : TaskId} {portion : Nat} {path : Path} {text : String}
      {left : List (Path × String)} {written : Nat} :
      action = .advance task portion →
      session.edit? task = some (.writing ((path, text) :: left) written) →
      after.client.files = session.client.files.write [] path text →
      session.EditBecomes task (some (.writing left (written + 1))) after →
      EditMove session action after
  | failed {task : TaskId} {portion : Nat} {path : Path} {text : String}
      {left : List (Path × String)} {written : Nat} {error : FileError} :
      action = .advance task portion →
      session.edit? task = some (.writing ((path, text) :: left) written) →
      after.client.files = session.client.files →
      session.EditBecomes task (some (.finished (.error (.unwritable path error)))) after →
      EditMove session action after
  | ended {task : TaskId} {portion : Nat} {written : Nat} :
      action = .advance task portion →
      session.edit? task = some (.writing [] written) →
      after.client.files = session.client.files →
      session.EditBecomes task (some (.finished (.ok written))) after →
      EditMove session action after
  | answered {task : TaskId} {portion : Nat} {outcome : Except EditError Nat} :
      action = .advance task portion →
      session.edit? task = some (.finished outcome) →
      after.view Operation.reply? none task = some (.ok (WorkspaceEdit.resultOf outcome)) →
      after.client.files = session.client.files →
      session.EditBecomes task none after →
      EditMove session action after
  | changed (files : FileTree) :
      action = .changeFiles files →
      EditMove session action after

end Session

/-! ## Steps of operations -/

theorem ignoresOperations_files : IgnoresOperations Client.files where
  outlet := fun _ _ _ _ => rfl
  documents := fun _ _ _ => rfl
  calls := fun _ _ => rfl
  status := fun _ _ _ => rfl

theorem Operation.edit?_of_ne_answer
    {operation : Operation} (noAnswer : ∀ stage, operation ≠ .answer stage) :
    operation.edit? = none := by
  cases operation with
  | answer stage => exact absurd rfl (noAnswer stage)
  | _ => rfl

/-- An operation that is no answer never gets to an edit. -/
theorem Operation.step_edit?_of_ne_answer
    (turn : Turn) (client : Client) {operation : Operation}
    (noAnswer : ∀ stage, operation ≠ .answer stage) :
    (operation.step turn client).Keeps fun next => next.edit? = none :=
  (Operation.step_ne_answer noAnswer).mono (fun _ _ isNone => edit?_of_ne_answer isNone)
    fun _ _ _ => trivial

theorem Operation.edit?_begin (client : Client) (command : Command) :
    (command.begin client).edit? = none :=
  edit?_of_ne_answer (begin_ne_answer client command)

/-- What a step of answering a request comes to: an edit is continued or answered, and
the answer to anything else leaves the files alone. -/
theorem Answering.step_edits (turn : Turn) (client : Client) (stage : Answering) :
    (stage.step turn client).Holds
      (fun client' next =>
        client'.files = client.files ∧ (Operation.answer stage).edit? = none ∧
            (Operation.answer next).edit? = none ∨
          (∃ progress, (Operation.answer stage).edit? = some progress ∧
            progress.outcome? = none ∧
            client'.files = (progress.step (some turn.portion) client.files).2 ∧
            (Operation.answer next).edit? =
              some (progress.step (some turn.portion) client.files).1) ∨
          ∃ outcome, (Operation.answer stage).edit? = some (.finished outcome) ∧
            client'.files = client.files ∧ (Operation.answer next).edit? = none ∧
            (Operation.answer next).reply? = some (.ok (WorkspaceEdit.resultOf outcome)))
      fun client' _ => client'.files = client.files ∧ (Operation.answer stage).edit? = none := by
  cases stage with
  | working id work =>
      cases work with
      | answered answer => exact Or.inl ⟨rfl, rfl, rfl⟩
      | delayed milliseconds answer => exact Or.inl ⟨rfl, rfl, rfl⟩
      | editing progress =>
          cases progress with
          | finished outcome => exact Or.inr (Or.inr ⟨outcome, rfl, rfl, rfl, rfl⟩)
          | reading left edited => exact Or.inr (Or.inl ⟨_, rfl, rfl, rfl, rfl⟩)
          | writing left written => exact Or.inr (Or.inl ⟨_, rfl, rfl, rfl, rfl⟩)
  | resting id wakeTime answer =>
      simp only [step]
      split
      · exact Or.inl ⟨rfl, rfl, rfl⟩
      · trivial
  | sending frame =>
      have fixes : (frame.step turn client).Fixes Client.files client :=
        frame.step_fixes ignoresOperations_files.outlet
      simp only [step, Step.holds_map]
      exact fixes.mono (fun _ _ same => Or.inl ⟨same, rfl, rfl⟩) fun _ _ same => ⟨same, rfl⟩

/-! ## Actions -/

namespace Session

variable {session after : Session} {action : Action}

private theorem edit?_setTask
    {task : TaskId} {operation : Operation} (found : session.task? task = some operation)
    (client : Client) (next : Operation) (other : TaskId) :
    (({ session with client } : Session).setTask task next).edit? other =
      if other = task then next.edit? else session.edit? other := by
  by_cases same : other = task
  · subst same
    rw [if_pos rfl]
    exact view_setTask found next
  · rw [if_neg same]
    exact view_setTask_of_ne same next

private theorem edit?_dropTask
    {task : TaskId} {operation : Operation} (found : session.task? task = some operation)
    (idle : operation.edit? = none) (other : TaskId) :
    (session.dropTask task).edit? other = session.edit? other := by
  by_cases same : other = task
  · subst same
    exact (view_dropTask session other).trans ((view_of_found found).trans idle).symm
  · exact view_dropTask_of_ne same

private theorem edit?_spawn_of_none
    (fresh : session.HasFreshTask) {operation : Operation} (idle : operation.edit? = none)
    (task : TaskId) : (session.spawn operation).edit? task = session.edit? task :=
  view_spawn_of_nothing fresh idle task

/-- The work on a request is an edit only if the request is to apply one. -/
private theorem nextEdit?_of_requestWork
    {value : Json} {rest : List UInt8} {id : Json} {method : String} {params : Option Json}
    {progress : Progress} (reading : session.loop = .reading)
    (read : Frame.read session.inbound = .frame value rest)
    (classified : Incoming.ofJson? value = some (.request id method params))
    (work : session.requestWork method params = .editing progress) :
    ∃ edit, session.nextEdit? = some (session.nextTask, edit) ∧ progress = .start edit := by
  unfold requestWork at work
  cases handled : session.client.handlers.request? method with
  | none => simp [handled] at work
  | some handler =>
      cases handler with
      | applyEdit =>
          simp only [handled, RequestHandler.start] at work
          cases params with
          | none => cases work
          | some params =>
              simp only [RequestHandler.startEdit] at work
              cases decoded : WorkspaceEdit.decodeParams params with
              | error fault =>
                  rw [decoded] at work
                  cases work
              | ok edit =>
                  rw [decoded] at work
                  injection work with same
                  refine ⟨edit, ?_, same.symm⟩
                  simp [nextEdit?, reading, read, classified, handled, decoded, Except.toOption]
      | configuration settings => simp [handled, RequestHandler.start] at work
      | acknowledge => simp [handled, RequestHandler.start] at work
      | custom tag response => simp [handled, RequestHandler.start] at work

private theorem requestWork_of_nextEdit?
    {next : TaskId × WorkspaceEdit} (isNext : session.nextEdit? = some next) :
    session.loop = .reading ∧ ∃ value rest id method params,
      Frame.read session.inbound = .frame value rest ∧
        Incoming.ofJson? value = some (.request id method params) ∧
          session.requestWork method params = .editing (.start next.2) := by
  unfold nextEdit? at isNext
  split at isNext
  · rename_i value rest reading read
    split at isNext
    · rename_i id method params classified
      split at isNext
      · rename_i handled
        obtain ⟨edit, decoded, rfl⟩ := Option.map_eq_some_iff.mp isNext
        refine ⟨reading, value, rest, id, method, some params, read, classified, ?_⟩
        simp only [requestWork, handled, RequestHandler.start, RequestHandler.startEdit]
        cases isDecoded : WorkspaceEdit.decodeParams params with
        | error fault =>
            rw [isDecoded] at decoded
            cases decoded
        | ok edit' =>
            rw [isDecoded] at decoded
            cases decoded
            rfl
      · cases isNext
    · cases isNext
  · cases isNext

private theorem nextEdit?_eq_none_of_ne_frame
    (noFrame : session.loop = .reading → ∀ value rest,
      Frame.read session.inbound ≠ .frame value rest) : session.nextEdit? = none := by
  cases isNext : session.nextEdit? with
  | none => rfl
  | some next =>
      obtain ⟨reading, value, rest, _, _, _, read, _⟩ := requestWork_of_nextEdit? isNext
      exact absurd read (noFrame reading value rest)

private theorem editMove_of_dispatched
    (fresh : session.HasFreshTask) {value : Json} {rest : List UInt8}
    (reading : session.loop = .reading) (read : Frame.read session.inbound = .frame value rest) :
    EditMove session .read
      ({ session with inbound := ⟨rest, session.inbound.ending⟩ }.dispatch value) := by
  let passed : Session := { session with inbound := ⟨rest, session.inbound.ending⟩ }
  have noEdit (different : ∀ id method params progress,
      Incoming.ofJson? value = some (.request id method params) →
        session.requestWork method params ≠ .editing progress) : session.nextEdit? = none := by
    cases isNext : session.nextEdit? with
    | none => rfl
    | some next =>
        obtain ⟨_, value', rest', id, method, params, read', classified, work⟩ :=
          requestWork_of_nextEdit? isNext
        cases read.symm.trans read'
        exact absurd work (different id method params _ classified)
  rcases passed.dispatch_cases value with
    ⟨id, answer, classified, equality⟩ | ⟨id, method, params, records, classified, equality⟩ |
      ⟨isNotice, diagnostics, records, equality⟩
  · rw [equality]
    have noRequest : session.nextEdit? = none := noEdit fun _ _ _ _ classified' =>
      nomatch classified.symm.trans classified'
    unfold deliver
    cases id.nat? <;> exact .apart nofun (fun _ => noRequest) rfl fun _ => rfl
  · rw [equality]
    let recorded : Session := { passed with records }
    have recordedFresh : recorded.HasFreshTask := fresh
    have sameWork : passed.requestWork method params = session.requestWork method params := rfl
    rw [sameWork]
    have aside (isAside : ∀ progress, session.requestWork method params ≠ .editing progress) :
        session.nextEdit? = none := noEdit fun id' method' params' progress classified' => by
      cases classified.symm.trans classified'
      exact isAside progress
    cases work : session.requestWork method params with
    | answered answer =>
        exact .apart nofun (fun _ => aside (work ▸ nofun)) rfl
          (edit?_spawn_of_none recordedFresh rfl)
    | delayed milliseconds answer =>
        exact .apart nofun (fun _ => aside (work ▸ nofun)) rfl
          (edit?_spawn_of_none recordedFresh rfl)
    | editing progress =>
        obtain ⟨edit, next, rfl⟩ := nextEdit?_of_requestWork reading read classified work
        refine .begun edit rfl next rfl fun task => ?_
        unfold edit? view
        rw [task?_spawn recordedFresh]
        by_cases new : task = session.nextTask
        · rw [if_pos new, if_pos (show task = recorded.nextTask from new)]
          rfl
        · rw [if_neg new, if_neg (show task ≠ recorded.nextTask from new)]
          rfl
  · rw [equality]
    have noRequest : session.nextEdit? = none := noEdit fun _ _ _ _ classified' => by
      obtain ⟨_, _, same⟩ := isNotice _ classified'
      cases same
    exact .apart nofun (fun _ => noRequest) rfl fun _ => rfl

private theorem editMove_of_worked
    {task : TaskId} {portion : Nat} {progress : Progress}
    (isEdit : session.edit? task = some progress) (goesOn : progress.outcome? = none)
    (files : after.client.files = (progress.step (some portion) session.client.files).2)
    (becomes : session.EditBecomes task
      (some (progress.step (some portion) session.client.files).1) after) :
    EditMove session (.advance task portion) after := by
  cases progress with
  | finished outcome => cases goesOn
  | reading left edited =>
      cases left with
      | nil => exact .turned rfl isEdit files becomes
      | cons file left =>
          obtain ⟨path, edits⟩ := file
          simp only [Progress.step] at files becomes
          cases isEdited : WorkspaceEdit.editFile session.client.files path edits with
          | error error =>
              rw [isEdited] at files becomes
              exact .refused rfl isEdit files becomes
          | ok file =>
              rw [isEdited] at files becomes
              exact .read rfl isEdit isEdited files becomes
  | writing left written =>
      cases left with
      | nil => exact .ended rfl isEdit files becomes
      | cons file left =>
          obtain ⟨path, text⟩ := file
          simp only [Progress.step] at files becomes
          cases replaced : session.client.files.replace (some portion) [] path text with
          | error error =>
              rw [replaced] at files becomes
              exact .failed rfl isEdit files becomes
          | ok tree =>
              rw [replaced] at files becomes
              exact .wrote rfl isEdit (files.trans (FileTree.eq_write_of_replace replaced)) becomes

private theorem editMove_of_advanced
    {task : TaskId} {portion : Nat} {operation next : Operation} {client : Client}
    (found : session.task? task = some operation)
    (stepped : operation.step ⟨task, portion⟩ session.client = .running client next) :
    EditMove session (.advance task portion)
      (({ session with client } : Session).setTask task next) := by
  have edits := edit?_setTask found client next
  have before : session.edit? task = operation.edit? := view_of_found found
  have leaves (files : client.files = session.client.files) (idle : operation.edit? = none)
      (idle' : next.edit? = none) : EditMove session (.advance task portion)
        (({ session with client } : Session).setTask task next) := by
    refine .apart (fun other _ same => ?_) nofun files fun other => ?_
    · injection same with same
      exact same ▸ before.trans idle
    · rw [edits]
      split
      · rename_i same
        rw [same, before, idle, idle']
      · rfl
  by_cases isAnswer : ∃ stage, operation = .answer stage
  · obtain ⟨stage, rfl⟩ := isAnswer
    have comes := stage.step_edits ⟨task, portion⟩ session.client
    simp only [Operation.step] at stepped
    cases step : stage.step ⟨task, portion⟩ session.client with
    | blocked => simp [step, Step.map, Step.lift] at stepped
    | finished client' result => simp [step, Step.map, Step.lift] at stepped
    | running client' next' =>
        simp only [step, Step.map, Step.lift, Step.running.injEq] at stepped
        obtain ⟨rfl, rfl⟩ := stepped
        rcases comes.of_running step with
          ⟨files, idle, idle'⟩ | ⟨progress, isEdit, goesOn, files, isNext⟩ |
            ⟨outcome, isEdit, files, idle', owed⟩
        · exact leaves files idle idle'
        · exact editMove_of_worked (before.trans isEdit) goesOn files fun other =>
            (edits other).trans (by rw [isNext])
        · have answer : ({ session with client := client' }.setTask task
              (.answer next')).view Operation.reply? none task =
                some (.ok (WorkspaceEdit.resultOf outcome)) :=
            (view_setTask found _).trans owed
          exact .answered rfl (before.trans isEdit) answer files fun other =>
            (edits other).trans (by rw [idle'])
  · have noAnswer : ∀ stage, operation ≠ .answer stage := fun stage same => isAnswer ⟨stage, same⟩
    have files :
        (operation.step ⟨task, portion⟩ session.client).Fixes Client.files session.client :=
      Operation.step_fixes ignoresOperations_files (fun _ _ _ => rfl) fun stage same =>
        absurd same (noAnswer stage)
    have idle' := Operation.step_edit?_of_ne_answer ⟨task, portion⟩ session.client noAnswer
    exact leaves (files.of_running stepped) (Operation.edit?_of_ne_answer noAnswer)
      (idle'.of_running stepped)

private theorem editMove_of_ended
    {task : TaskId} {portion : Nat} {operation : Operation} {client : Client}
    {result : OperationResult} (found : session.task? task = some operation)
    (stepped : operation.step ⟨task, portion⟩ session.client = .finished client result) :
    EditMove session (.advance task portion)
      { ({ session with client } : Session).dropTask task with
        results := (task, result) :: session.results } := by
  have leaves (files : client.files = session.client.files) (idle : operation.edit? = none) :
      EditMove session (.advance task portion)
        { ({ session with client } : Session).dropTask task with
          results := (task, result) :: session.results } :=
    .apart (fun other _ same => by
      injection same with same
      exact same ▸ (view_of_found found).trans idle)
      nofun files (edit?_dropTask found idle)
  by_cases isAnswer : ∃ stage, operation = .answer stage
  · obtain ⟨stage, rfl⟩ := isAnswer
    have comes := stage.step_edits ⟨task, portion⟩ session.client
    simp only [Operation.step] at stepped
    cases step : stage.step ⟨task, portion⟩ session.client with
    | blocked => simp [step, Step.map, Step.lift] at stepped
    | running client' next => simp [step, Step.map, Step.lift] at stepped
    | finished client' result' =>
        simp only [step, Step.map, Step.lift, Step.finished.injEq] at stepped
        obtain ⟨rfl, _⟩ := stepped
        obtain ⟨files, idle⟩ := comes.of_finished step
        exact leaves files idle
  · have noAnswer : ∀ stage, operation ≠ .answer stage := fun stage same => isAnswer ⟨stage, same⟩
    have files :
        (operation.step ⟨task, portion⟩ session.client).Fixes Client.files session.client :=
      Operation.step_fixes ignoresOperations_files (fun _ _ _ => rfl) fun stage same =>
        absurd same (noAnswer stage)
    exact leaves (files.of_finished stepped) (Operation.edit?_of_ne_answer noAnswer)

/-- What each action does to the edits under way and to the files. -/
theorem Effect.editMove
    (effect : Effect session action after) (fresh : session.HasFreshTask) :
    EditMove session action after := by
  cases effect with
  | started command =>
      exact .apart nofun nofun rfl (edit?_spawn_of_none fresh (Operation.edit?_begin session.client command))
  | advanced found stepped => exact editMove_of_advanced found stepped
  | ended found stepped => exact editMove_of_ended found stepped
  | @abandoned task operation found noAnswer =>
      have files : (operation.abandon task session.client).files = session.client.files :=
        operation.abandon_fixes ignoresOperations_files.outlet
          ignoresOperations_files.documents.lock ignoresOperations_files.calls
      exact .apart nofun nofun files (edit?_dropTask found (Operation.edit?_of_ne_answer noAnswer))
  | dispatched reading read => exact editMove_of_dispatched fresh reading read
  | changed files => exact .changed files rfl
  | handled handlers noTask notRead =>
      refine .apart (fun task portion same => ?_) (fun isRead => absurd isRead notRead) rfl
        fun _ => rfl
      rw [same] at noTask
      cases noTask
  | skipped reading read =>
      exact .apart nofun
        (fun _ => nextEdit?_eq_none_of_ne_frame fun _ _ _ frame => nomatch read.symm.trans frame)
        rfl fun _ => rfl
  | lost reason reading noFrame =>
      exact .apart nofun (fun _ => nextEdit?_eq_none_of_ne_frame fun _ => noFrame) rfl fun _ => rfl
  | drained lost =>
      exact .apart nofun
        (fun _ => nextEdit?_eq_none_of_ne_frame fun reading => nomatch lost.symm.trans reading)
        rfl fun _ => rfl
  | left leaving =>
      exact .apart nofun
        (fun _ => nextEdit?_eq_none_of_ne_frame fun reading => nomatch leaving.symm.trans reading)
        rfl fun _ => rfl
  | _ => exact .apart nofun nofun rfl fun _ => rfl

end Session

end LanguageClient
