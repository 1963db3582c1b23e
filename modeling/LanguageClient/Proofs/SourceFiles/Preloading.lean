import LanguageClient.Proofs.Closing.Course
import LanguageClient.Proofs.Documents.Identity
import LanguageClient.Proofs.Documents.Rest
import LanguageClient.Proofs.Sequence
import LanguageClient.Proofs.Session.Settling
import LanguageClient.Proofs.SourceFiles.Least

/-!
# Preloading

A client of a TypeScript server looks for the first source files of its workspace and opens
them one after the other.  What keeps it from opening one of them does not keep it from
opening the others, nor from coming to an end without an error.
-/

namespace LanguageClient

/-! ## Opening one document -/

inductive Client.CannotOpen (client : Client) (path : Path) : Prop
  | unnamed {error : ClientError} :
      Client.uriOf path = .error error → CannotOpen client path
  | unread {error : ClientError} :
      client.readDocument path = .error error → CannotOpen client path
  | unsent :
      client.isInputOpen = false ∨ client.pipe.isBroken = true → CannotOpen client path

/-- A send fails only if the stream is closed or nobody reads it any more. -/
theorem Sending.of_finished_error
    {turn : Turn} {client client' : Client} {frame : Sending} {error : ClientError}
    (step : frame.step turn client = .finished client' (.error error)) :
    client.isInputOpen = false ∨ client.pipe.isBroken = true := by
  cases frame with
  | asking message => cases step
  | queued message => exact Or.inl (of_queued_finished step).1
  | writing message rest =>
      rcases of_writing_finished step with ⟨_, same⟩ | ⟨_, broken, _⟩
      · cases same
      · exact Or.inr broken

namespace Opening

variable {path : Path} {document next : Opening} {turn : Turn} {client client' : Client}

/-- Whether the document that is being opened is the one at a path. -/
def IsOf (path : Path) : Opening → Prop
  | .starting path' => path' = path
  | .locking path' uri | .reading path' uri => path' = path ∧ Client.uriOf path = .ok uri
  | .sending uri _ => Client.uriOf path = .ok uri

theorem IsOf.step
    (isOf : document.IsOf path) (step : document.step turn client = .running client' next) :
    next.IsOf path := by
  cases document with
  | starting path' =>
      obtain rfl : path' = path := isOf
      simp only [Opening.step] at step
      split at step
      · cases step
      · rename_i uri isUri
        cases step
        exact ⟨rfl, isUri⟩
  | locking path' uri =>
      simp only [Opening.step] at step
      split at step
      · split at step
        · cases step
        · cases step
          exact isOf
      · cases step
  | reading path' uri =>
      simp only [Opening.step] at step
      split at step
      · cases step
      · cases step
        exact isOf.2
  | sending uri frame =>
      rcases Step.lift_eq_running_iff.mp step with ⟨frame', _, rfl⟩ | ⟨_, result, _, same⟩
      · exact isOf
      · cases result <;> cases same

/-- What is opened without an error is open. -/
theorem IsOf.isOpen
    (isOf : document.IsOf path) (step : document.step turn client = .finished client' (.ok ())) :
    client'.isOpen path = true := by
  have isOpen {uri : String} (isUri : Client.uriOf path = .ok uri)
      (isOpen : (client'.version? uri).isSome = true) : client'.isOpen path = true := by
    simp only [Client.isOpen, isUri, isOpen]
  cases document with
  | starting path' =>
      simp only [Opening.step] at step
      split at step <;> cases step
  | locking path' uri =>
      simp only [Opening.step] at step
      split at step
      · split at step
        · rename_i wasOpen
          cases step
          exact isOpen isOf.2 wasOpen
        · cases step
      · cases step
  | reading path' uri =>
      simp only [Opening.step] at step
      split at step <;> cases step
  | sending uri frame =>
      obtain ⟨sender, result, _, same⟩ := Step.lift_eq_finished_iff.mp step
      cases result with
      | error error => cases same
      | ok sent =>
          cases same
          have member := (sender.mem_setVersion_iff 1).mpr (Or.inr (rfl : uri = uri))
          exact isOpen isOf (Client.mem_uris_iff.mp member)

/-- What is not opened could not be opened. -/
theorem IsOf.cannotOpen
    {error : ClientError} (isOf : document.IsOf path)
    (step : document.step turn client = .finished client' (.error error)) :
    client.CannotOpen path := by
  cases document with
  | starting path' =>
      obtain rfl : path' = path := isOf
      simp only [Opening.step] at step
      split at step
      · rename_i error noUri
        exact .unnamed noUri
      · cases step
  | locking path' uri =>
      simp only [Opening.step] at step
      split at step
      · split at step <;> cases step
      · cases step
  | reading path' uri =>
      obtain ⟨rfl, _⟩ := isOf
      simp only [Opening.step] at step
      split at step
      · rename_i error unread
        exact .unread unread
      · cases step
  | sending uri frame =>
      obtain ⟨_, result, sends, same⟩ := Step.lift_eq_finished_iff.mp step
      cases result with
      | error error => exact .unsent (Sending.of_finished_error sends)
      | ok sent => cases same

end Opening

/-! ## What preloading does -/

inductive PreloadEvent where
  /-- A client looks for files. -/
  | finds (client : Client)
  | begins (path : Path)
  /-- A document is opened or passed over, with the client before and behind that. -/
  | ends (result : Except ClientError Unit) (before after : Client)

def Preloading.event? (turn : Turn) (client : Client) : Preloading → Option PreloadEvent
  | .finding _ => some (.finds client)
  | .next (path :: _) => some (.begins path)
  | .opening document _ =>
      match document.step turn client with
      | .finished client' result => some (.ends result client client')
      | .running _ _ | .blocked => none
  | .starting _ _ | .next [] => none

/-- What has come of opening a document that was found. -/
structure OpeningAttempt where
  path : Path
  result : Except ClientError Unit
  before : Client
  after : Client

namespace OpeningAttempt

/-- What the attempt tells: a document is begun, and nothing else before it is over. -/
def events (attempt : OpeningAttempt) : List PreloadEvent :=
  [.begins attempt.path, .ends attempt.result attempt.before attempt.after]

/-- A document is open behind the attempt, or it could not be opened. -/
structure IsSound (attempt : OpeningAttempt) : Prop where
  opens : attempt.result = .ok () → attempt.after.isOpen attempt.path = true
  passes : ∀ error, attempt.result = .error error → attempt.before.CannotOpen attempt.path

end OpeningAttempt

/-- The files of a workspace are looked for once, and each of them is tried in turn. -/
def HavePreloaded (workspace : Path) (events : List PreloadEvent) : Prop :=
  ∃ (client : Client) (attempts : List OpeningAttempt),
    events = .finds client :: attempts.flatMap OpeningAttempt.events ∧
      attempts.map OpeningAttempt.path =
        SourceFiles.find client.files client.directory workspace ∧
        attempts.length ≤ SourceFiles.limit ∧ ∀ attempt, attempt ∈ attempts → attempt.IsSound

theorem SourceFiles.length_find_le (tree : FileTree) (current : List EntryName) (workspace : Path) :
    (find tree current workspace).length ≤ limit := by
  unfold find firstFiles
  split
  · exact Nat.zero_le _
  · exact List.length_take_le _ _

/-- How far preloading has come, and what it has told since its beginning. -/
inductive PreloadCourse (workspace : Path) : Preloading → List PreloadEvent → Prop
  | finding : PreloadCourse workspace (.finding workspace) []
  | next {client : Client} {attempts : List OpeningAttempt} {left : List Path} :
      SourceFiles.find client.files client.directory workspace =
        attempts.map OpeningAttempt.path ++ left →
      (∀ attempt, attempt ∈ attempts → attempt.IsSound) →
      PreloadCourse workspace (.next left)
        (.finds client :: attempts.flatMap OpeningAttempt.events)
  | opening {client : Client} {attempts : List OpeningAttempt} {path : Path}
      {document : Opening} {left : List Path} :
      SourceFiles.find client.files client.directory workspace =
        attempts.map OpeningAttempt.path ++ path :: left →
      (∀ attempt, attempt ∈ attempts → attempt.IsSound) →
      document.IsOf path →
      PreloadCourse workspace (.opening document left)
        (.finds client :: (attempts.flatMap OpeningAttempt.events ++ [.begins path]))

namespace PreloadCourse

variable {workspace : Path} {turn : Turn} {client client' : Client} {stage next : Preloading}
  {events : List PreloadEvent}

theorem step
    (course : PreloadCourse workspace stage events)
    (step : stage.step turn client = .running client' next) :
    PreloadCourse workspace next (events ++ (stage.event? turn client).toList) := by
  cases course with
  | finding =>
      cases step
      have parts : SourceFiles.find client.files client.directory workspace =
          ([] : List OpeningAttempt).map OpeningAttempt.path ++
            SourceFiles.find client.files client.directory workspace := by
        rw [List.map_nil, List.nil_append]
      exact .next parts (List.forall_mem_nil _)
  | @next looked attempts left parts sound =>
      cases left with
      | nil => cases step
      | cons path left =>
          cases step
          exact .opening parts sound rfl
  | @opening looked attempts path document left parts sound isOf =>
      rcases Step.lift_eq_running_iff.mp step with
        ⟨document', inside, rfl⟩ | ⟨client'', result, ended, same⟩
      · simp only [Preloading.event?, inside]
        exact (List.append_nil _).symm ▸ .opening parts sound (isOf.step inside)
      · cases same
        let attempt : OpeningAttempt := ⟨path, result, client, client'⟩
        have isSound : attempt.IsSound := by
          refine ⟨fun opened => ?_, fun error failed => ?_⟩
          · exact isOf.isOpen (ended.trans (congrArg _ opened))
          · exact isOf.cannotOpen (ended.trans (congrArg _ failed))
        have parts' : SourceFiles.find looked.files looked.directory workspace =
            (attempts ++ [attempt]).map OpeningAttempt.path ++ left := by
          simp [parts, attempt]
        have sound' : ∀ other, other ∈ attempts ++ [attempt] → other.IsSound := by
          intro other member
          rcases List.mem_append.mp member with earlier | isLast
          · exact sound other earlier
          · exact List.mem_singleton.mp isLast ▸ isSound
        simp only [Preloading.event?, ended]
        have course := PreloadCourse.next parts' sound'
        simpa [OpeningAttempt.events, attempt] using course

/-- Preloading ends when all files were tried, without an error. -/
theorem finished
    {result : Except ClientError Unit} (course : PreloadCourse workspace stage events)
    (step : stage.step turn client = .finished client' result) :
    stage.event? turn client = none ∧ HavePreloaded workspace events := by
  cases course with
  | finding => cases step
  | @next looked attempts left parts sound =>
      cases left with
      | nil =>
          rw [List.append_nil] at parts
          have few := SourceFiles.length_find_le looked.files looked.directory workspace
          rw [parts, List.length_map] at few
          exact ⟨rfl, looked, attempts, rfl, parts.symm, few, sound⟩
      | cons path left => cases step
  | opening =>
      obtain ⟨_, _, _, same⟩ := Step.lift_eq_finished_iff.mp step
      cases same

end PreloadCourse

/-! ## Operations that preload -/

section Operations

variable {turn : Turn} {client client' : Client} {operation next : Operation} {stage : Preloading}
  {value : OperationValue}

/-- The preloading that an operation is at, and what it gives when that is over. -/
def Operation.preloading? : Operation → Option (Preloading × OperationValue)
  | .preload stage => some (stage, .nothing)
  | .openSession (.preloading result stage) => some (stage, .initialized result)
  | _ => none

theorem Preloading.eq_ok_of_finished
    {result : Except ClientError Unit}
    (step : stage.step turn client = .finished client' result) : result = .ok () := by
  cases stage with
  | starting family workspace =>
      cases family <;> cases step
      rfl
  | finding workspace => cases step
  | next left =>
      cases left <;> cases step
      rfl
  | opening document left =>
      obtain ⟨_, _, _, same⟩ := Step.lift_eq_finished_iff.mp step
      cases same

/-- Preloading waits for nothing but the lock of the documents and the stream. -/
theorem Preloading.not_blocked_of_apart (apart : stage.documentUse = .apart) :
    stage.step turn client ≠ .blocked := by
  cases stage with
  | starting family workspace => cases family <;> simp [step]
  | finding workspace => exact Step.running_ne_blocked _ _
  | next left => cases left <;> simp [step]
  | opening document left =>
      cases document with
      | starting path =>
          intro blocked
          have inside := Step.eq_blocked_of_lift blocked fun _ _ => Step.running_ne_blocked _ _
          simp only [Opening.step] at inside
          split at inside <;> cases inside
      | locking | reading | sending => cases apart

namespace Operation

theorem of_preloading_running
    (loads : operation.preloading? = some (stage, value))
    (step : operation.step turn client = .running client' next) :
    ∃ stage', stage.step turn client = .running client' stage' ∧
      next.preloading? = some (stage', value) := by
  unfold preloading? at loads
  split at loads
  · cases loads
    obtain ⟨stage', inside, rfl⟩ := Step.map_eq_running_iff.mp step
    exact ⟨stage', inside, rfl⟩
  · cases loads
    obtain ⟨_, within, rfl⟩ := Step.map_eq_running_iff.mp step
    rcases Step.lift_eq_running_iff.mp within with ⟨stage', inside, rfl⟩ | ⟨_, loaded, ended, same⟩
    · exact ⟨stage', inside, rfl⟩
    · obtain rfl := Preloading.eq_ok_of_finished ended
      cases same
  · cases loads

theorem of_preloading_finished
    {result : OperationResult} (loads : operation.preloading? = some (stage, value))
    (step : operation.step turn client = .finished client' result) :
    stage.step turn client = .finished client' (.ok ()) ∧ result = .ok value := by
  unfold preloading? at loads
  split at loads
  · cases loads
    obtain ⟨loaded, ended, rfl⟩ := Step.map_eq_finished_iff.mp step
    obtain rfl := Preloading.eq_ok_of_finished ended
    exact ⟨ended, rfl⟩
  · cases loads
    obtain ⟨_, within, rfl⟩ := Step.map_eq_finished_iff.mp step
    obtain ⟨_, loaded, ended, same⟩ := Step.lift_eq_finished_iff.mp within
    obtain rfl := Preloading.eq_ok_of_finished ended
    cases same
    exact ⟨ended, rfl⟩
  · cases loads

theorem settles_of_preloading (loads : operation.preloading? = some (stage, value)) :
    Step.Settles Operation.step operation := by
  unfold preloading? at loads
  split at loads
  · exact (Preloading.settles _).map Operation.preload fun _ _ _ => rfl
  · rename_i opened stage'
    have preloading : Step.Settles Initializing.step (.preloading opened stage') := by
      refine stage'.settles.lift (Initializing.preloading opened) (fun _ _ _ => rfl) ?_
      intro turn client loaded client' whole step
      cases loaded with
      | ok loaded => cases step
      | error error =>
          cases step
          refine .of_steps fun turn client client' next step => ?_
          cases step
    exact preloading.map Operation.openSession fun _ _ _ => rfl
  · cases loads

theorem not_blocked_of_preloading
    (loads : operation.preloading? = some (stage, value))
    (apart : operation.documentUse = .apart) : operation.step turn client ≠ .blocked := by
  intro blocked
  unfold preloading? at loads
  split at loads
  · exact Preloading.not_blocked_of_apart apart (Step.eq_blocked_of_map blocked)
  · refine Preloading.not_blocked_of_apart apart
      (Step.eq_blocked_of_lift (Step.eq_blocked_of_map blocked) ?_)
    intro client' loaded
    cases loaded <;> simp
  · cases loads

end Operation

end Operations

/-! ## Runs -/

def Transition.preloadEvent? (transition : Transition) (task : TaskId) : Option PreloadEvent :=
  match transition.action, (transition.before.task? task).bind Operation.preloading? with
  | .advance mover portion, some (stage, _) =>
      if mover = task then stage.event? ⟨task, portion⟩ transition.before.client else none
  | _, _ => none

def preloadEvents (task : TaskId) (later : List Transition) : List PreloadEvent :=
  later.filterMap fun transition => transition.preloadEvent? task

/-- A task of a client of a TypeScript server begins to preload, and gives a value when that
is over. -/
structure Transition.BeginsPreloading (begun : Transition) (task : TaskId) (workspace : Path)
    (value : OperationValue) : Prop where
  advances : ∃ portion, begun.action = .advance task portion
  found : (begun.before.task? task).bind Operation.preloading? =
    some (.starting .typeScript workspace, value)

/-- How far the preloading of a task has come: it is under way, or all files were tried. -/
inductive PreloadProgress (task : TaskId) (workspace : Path) (value : OperationValue)
    (past later : List Transition) (session : Session) : Prop
  | underway {operation : Operation} {stage : Preloading} {segments : List Segment} :
      TaskTrace.of past session task = ⟨some operation, segments, []⟩ →
      operation.preloading? = some (stage, value) →
      PreloadCourse workspace stage (preloadEvents task later) →
      PreloadProgress task workspace value past later session
  | ended {segments : List Segment} :
      TaskTrace.of past session task = ⟨none, segments, [.ok value]⟩ →
      HavePreloaded workspace (preloadEvents task later) →
      PreloadProgress task workspace value past later session

section Progress

variable {client : Client} {session after : Session} {past later : List Transition}
  {action : Action} {task : TaskId} {workspace : Path} {value : OperationValue}

private theorem preloadEvents_concat (task : TaskId) (later : List Transition) (latest : Transition) :
    preloadEvents task (later ++ [latest]) =
      preloadEvents task later ++ (latest.preloadEvent? task).toList :=
  filterMap_concat _ later latest

private theorem preloadEvents_of_ne (notTask : action.task? ≠ some task) :
    preloadEvents task (later ++ [⟨session, action, after⟩]) = preloadEvents task later := by
  have tells : Transition.preloadEvent? ⟨session, action, after⟩ task = none := by
    unfold Transition.preloadEvent?
    split
    · rename_i mover portion _ _ advances _
      have isTask : action.task? = some mover := congrArg Action.task? advances
      have different : mover ≠ task := fun same => notTask (same ▸ isTask)
      exact if_neg different
    · rfl
  rw [preloadEvents_concat, tells]
  exact List.append_nil _

private theorem preloadEvents_of_preloading
    {portion : Nat} {operation : Operation} {stage : Preloading}
    (found : session.task? task = some operation)
    (loads : operation.preloading? = some (stage, value)) :
    preloadEvents task (later ++ [⟨session, .advance task portion, after⟩]) =
      preloadEvents task later ++ (stage.event? ⟨task, portion⟩ session.client).toList := by
  have tells : Transition.preloadEvent? ⟨session, .advance task portion, after⟩ task =
      stage.event? ⟨task, portion⟩ session.client := by
    simp [Transition.preloadEvent?, found, loads]
  rw [preloadEvents_concat, tells]

theorem PreloadProgress.step
    (progress : PreloadProgress task workspace value past later session)
    (run : Run (Session.connect client) past session) (freshOutlet : client.HasFreshOutlet)
    (kept : action ≠ .abandon task) (applied : session.apply action = some after) :
    PreloadProgress task workspace value (past ++ [⟨session, action, after⟩])
      (later ++ [⟨session, action, after⟩]) after := by
  have move := run.traceMove freshOutlet applied task
  generalize traceAfter : TaskTrace.of (past ++ [⟨session, action, after⟩]) after task = trace'
    at move
  cases progress with
  | @underway operation stage segments trace loads course =>
      have found : session.task? task = some operation := congrArg TaskTrace.operation? trace
      rw [trace] at move
      cases move with
      | kept _ notTask =>
          exact .underway traceAfter loads ((preloadEvents_of_ne notTask).symm ▸ course)
      | stepped advances step same =>
          subst advances same
          obtain ⟨stage', inside, loads'⟩ := Operation.of_preloading_running loads step
          exact .underway traceAfter loads'
            ((preloadEvents_of_preloading found loads).symm ▸ course.step inside)
      | ended advances step same =>
          subst advances same
          obtain ⟨inside, rfl⟩ := Operation.of_preloading_finished loads step
          obtain ⟨quiet, preloaded⟩ := course.finished inside
          refine .ended traceAfter ?_
          rw [preloadEvents_of_preloading found loads, quiet]
          exact (List.append_nil _).symm ▸ preloaded
      | abandoned abandons noAnswer => exact absurd abandons kept
  | ended trace preloaded =>
      rw [trace] at move
      obtain ⟨notTask, rfl⟩ := move.kept_of_result
      exact .ended traceAfter ((preloadEvents_of_ne notTask).symm ▸ preloaded)

end Progress

/-- How a client of a TypeScript server preloads. -/
structure Preloads (task : TaskId) (workspace : Path) (value : OperationValue)
    (later : List Transition) (session : Session) : Prop where
  /-- Whatever has come of the files, there is no error in the end. -/
  ends : session.task? task = none →
    session.resultsOf task = [.ok value] ∧ HavePreloaded workspace (preloadEvents task later)
  /-- It comes to an end, unless somebody is stuck in the middle of a frame. -/
  settles : ∀ operation, session.task? task = some operation →
    Step.Settles Operation.step operation
  returns : session.IsAtRest →
    (∀ other message rest, session.use other ≠ .writing message rest) →
      session.task? task = none

namespace Run

variable {client : Client} {session : Session} {earlier later : List Transition}
  {begun : Transition} {task : TaskId} {workspace : Path} {value : OperationValue}

private theorem preloadProgress_begun
    (run : Run (Session.connect client) earlier begun.before) (freshOutlet : client.HasFreshOutlet)
    (applied : begun.before.apply begun.action = some begun.after)
    (begins : begun.BeginsPreloading task workspace value) :
    PreloadProgress task workspace value (earlier ++ [begun]) [] begun.after := by
  obtain ⟨⟨portion, advances⟩, found⟩ := begins
  obtain ⟨operation, found, loads⟩ := Option.bind_eq_some_iff.mp found
  have move := run.traceMove freshOutlet applied task
  generalize traceAfter : TaskTrace.of (earlier ++ [⟨begun.before, begun.action, begun.after⟩])
    begun.after task = trace' at move
  rw [TaskTrace.of, found, run.resultsOf_of_found freshOutlet found] at move
  cases move with
  | kept _ notTask => exact absurd (by rw [advances]; rfl) notTask
  | stepped _ step =>
      obtain ⟨stage, inside, loads'⟩ := Operation.of_preloading_running loads step
      cases inside
      exact .underway traceAfter loads' .finding
  | ended _ step => cases (Operation.of_preloading_finished loads step).1
  | abandoned abandons => cases advances.symm.trans abandons

/-- The files that are found are opened in their order, as far as they can be. -/
theorem preloads
    (run : Run (Session.connect client) (earlier ++ begun :: later) session)
    (freshOutlet : client.HasFreshOutlet) (unlocked : client.documentsLock = .free)
    (begins : begun.BeginsPreloading task workspace value)
    (kept : ∀ transition, transition ∈ later → transition.action ≠ .abandon task) :
    Preloads task workspace value later session := by
  obtain ⟨runBefore, applied⟩ := run.before_transition
  have progress : PreloadProgress task workspace value (earlier ++ begun :: later) later session := by
    refine run.later_induction_of
      (motive := fun later session =>
        PreloadProgress task workspace value (earlier ++ begun :: later) later session)
      kept (runBefore.preloadProgress_begun freshOutlet applied begins) ?_
    intro later session action after run applied keptLast progress
    rw [← List.cons_append, ← List.append_assoc]
    exact progress.step run freshOutlet keptLast applied
  cases progress with
  | @underway operation stage segments trace loads course =>
      have found : session.task? task = some operation := congrArg TaskTrace.operation? trace
      refine ⟨fun isOver => (nomatch found.symm.trans isOver), ?_, fun atRest unblocked => ?_⟩
      · intro operation' found'
        obtain rfl := Option.some.inj (found.symm.trans found')
        exact Operation.settles_of_preloading loads
      · have unused := run.use_of_isAtRest freshOutlet atRest unblocked
        have apart : operation.documentUse = .apart :=
          (Session.view_of_found found).symm.trans
            (run.documentUse_of_isAtRest unlocked atRest unused task)
        exact absurd (atRest.step_eq_blocked found 0)
          (Operation.not_blocked_of_preloading loads apart)
  | ended trace preloaded =>
      have isOver : session.task? task = none := congrArg TaskTrace.operation? trace
      exact ⟨fun _ => ⟨congrArg TaskTrace.results trace, preloaded⟩,
        fun _ found => (nomatch isOver.symm.trans found), fun _ _ => isOver⟩

end Run

/-! ## The whole -/

/-- The least files of a workspace that are to be found are picked, whatever the rules for
those that are ignored, the extensions and the number of files that are asked for, and a
client of a TypeScript server opens the files that it finds in their order, as far as they can
be opened. -/
theorem SourceFiles.opensLeast :
    (∀ (ignored : List EntryName → Bool → Bool) (extensions : List (List UInt8))
        (tree : FileTree) (current : List EntryName) (workspace : Path) (place : FileTree.Place),
      tree.IsProper → tree.locate current workspace = .ok place →
        place.tree.isDirectory = true →
          ∃ eligible, AreEligible ignored extensions place workspace eligible ∧
            ∀ limit, firstFiles ignored extensions limit tree current workspace =
              eligible.take limit) ∧
      ∀ (client : Client) (session : Session) (earlier later : List Transition)
        (begun : Transition) (task : TaskId) (workspace : Path) (value : OperationValue),
        Run (Session.connect client) (earlier ++ begun :: later) session →
          client.HasFreshOutlet → client.documentsLock = .free →
            begun.BeginsPreloading task workspace value →
              (∀ transition, transition ∈ later → transition.action ≠ .abandon task) →
                Preloads task workspace value later session :=
  ⟨fun _ _ _ _ _ _ proper located isDirectory => firstFiles_eq_take proper located isDirectory,
    fun _ _ _ _ _ _ _ _ run freshOutlet unlocked begins kept =>
      run.preloads freshOutlet unlocked begins kept⟩

/-- Two source files beside a directory that is not looked into. -/
def FileTree.withSources : FileTree :=
  .directory [(Text.Utf8.encode "b.ts", .file [98] false),
    (Text.Utf8.encode "dist", .directory [(Text.Utf8.encode "c.ts", .file [99] false)]),
    (Text.Utf8.encode "a.ts", .file [97] false)]

/-- The same when the first of them has been removed. -/
def FileTree.withFewerSources : FileTree :=
  .directory [(Text.Utf8.encode "b.ts", .file [98] false)]

theorem FileTree.isProper_withSources : withSources.IsProper := by
  refine .directory (by decide +kernel) (by decide +kernel) ?_
  simp only [List.forall_mem_cons]
  refine ⟨.file _ _, .directory (by decide +kernel) (by decide +kernel) ?_, .file _ _,
    List.forall_mem_nil _⟩
  simp only [List.forall_mem_cons]
  exact ⟨.file _ _, List.forall_mem_nil _⟩

theorem SourceFiles.find_withSources :
    find .withSources [] (.ofString "/") = [.ofString "/a.ts", .ofString "/b.ts"] := by
  have walked : FileTree.withSources.walk (isPruned (IgnoreFile.isIgnored .withSources [])) [] =
      [[[97, 46, 116, 115]], [[98, 46, 116, 115]]] := by
    have listed : FileTree.walkEntries (isPruned (IgnoreFile.isIgnored .withSources [])) []
        FileTree.withSources.entries =
        [([98, 46, 116, 115], [[[98, 46, 116, 115]]]), ([100, 105, 115, 116], []),
          ([97, 46, 116, 115], [[[97, 46, 116, 115]]])] := by
      decide +kernel
    change ((FileTree.walkEntries (isPruned (IgnoreFile.isIgnored .withSources [])) []
      FileTree.withSources.entries).mergeSort _).flatMap Prod.snd = _
    rw [listed]
    simp [List.mergeSort, List.MergeSort.Internal.splitInTwo, Path.compareBytes]
  have located : FileTree.withSources.locate [] (.ofString "/") = .ok ⟨.withSources, []⟩ := rfl
  simp only [find, firstFiles, located, FileTree.Place.names, List.map_nil, List.reverse_nil, walked]
  decide +kernel

/-- The file that is removed before its turn is passed over. -/
theorem SourceFiles.opensLeast_withSources :
    (∃ eligible, AreEligible (IgnoreFile.isIgnored .withSources []) extensions ⟨.withSources, []⟩
        (.ofString "/") eligible ∧
      eligible.take limit = [.ofString "/a.ts", .ofString "/b.ts"]) ∧
      ∃ earlier begun later session,
        Run (Session.connect (.connect { processId := 1 } 1024 .withSources []))
            (earlier ++ begun :: later) session ∧
          begun.BeginsPreloading 0 (.ofString "/") .nothing ∧
            later.map Transition.action = .advance 0 1024 :: .changeFiles .withFewerSources ::
              List.replicate 13 (.advance 0 1024) ∧
              session.results = [(0, .ok .nothing)] ∧
                session.client.documents = [("file:///b.ts", 1)] ∧
                  Preloads 0 (.ofString "/") .nothing later session := by
  let client := Client.connect { processId := 1 } 1024 .withSources []
  let preloading (stage : Preloading) : Session :=
    { Session.connect client with tasks := [(0, .preload stage)], nextTask := 1 }
  let rest := Action.changeFiles .withFewerSources :: List.replicate 13 (.advance 0 1024)
  constructor
  · obtain ⟨eligible, areEligible, picks⟩ := opensLeast.1 (IgnoreFile.isIgnored .withSources [])
      extensions .withSources [] (.ofString "/") ⟨.withSources, []⟩ FileTree.isProper_withSources rfl
      rfl
    exact ⟨eligible, areEligible, (picks limit).symm.trans find_withSources⟩
  · have starts : (Session.connect client).apply (.start (.preload .typeScript (.ofString "/"))) =
        some (preloading (.starting .typeScript (.ofString "/"))) := rfl
    have begins : (preloading (.starting .typeScript (.ofString "/"))).apply (.advance 0 1024) =
        some (preloading (.finding (.ofString "/"))) := rfl
    have finds : (preloading (.finding (.ofString "/"))).apply (.advance 0 1024) =
        some (preloading (.next [.ofString "/a.ts", .ofString "/b.ts"])) := by
      rw [← find_withSources]
      rfl
    have computed :
        ((preloading (.next [.ofString "/a.ts", .ofString "/b.ts"])).run rest).map
            (fun session => (session.results, session.client.documents)) =
          some ([(0, .ok .nothing)], [("file:///b.ts", 1)]) := by
      decide +kernel
    obtain ⟨session, ran, reached⟩ := Option.map_eq_some_iff.mp computed
    injection reached with results documents
    have run : Run (Session.connect client)
        ([⟨_, _, _⟩] ++ ⟨_, .advance 0 1024, _⟩ :: ⟨_, .advance 0 1024, _⟩ ::
          (preloading (.next [.ofString "/a.ts", .ofString "/b.ts"])).transitions rest) session :=
      Run.of_run ran (((Run.refl.step starts).step begins).step finds)
    have actions := Session.map_action_transitions ran
    have begun : Transition.BeginsPreloading ⟨preloading (.starting .typeScript (.ofString "/")),
        .advance 0 1024, preloading (.finding (.ofString "/"))⟩ 0 (.ofString "/") .nothing :=
      ⟨⟨1024, rfl⟩, rfl⟩
    refine ⟨_, _, _, session, run, begun, congrArg (Action.advance 0 1024 :: ·) actions, results,
      documents, opensLeast.2 _ _ _ _ _ _ _ _ run ⟨rfl, rfl, rfl⟩ rfl begun ?_⟩
    intro transition member abandons
    have isAction : transition.action ∈ Action.advance 0 1024 :: rest :=
      actions ▸ List.mem_map_of_mem member
    rw [abandons] at isAction
    simp [rest] at isAction

end LanguageClient
