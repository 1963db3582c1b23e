import LanguageClient.Proofs.Documents.Agreement
import LanguageClient.Proofs.Wire.Silence

/-!
# Open documents and what the server knows of them

The table of open documents and the notices on the stream never diverge, in whatever
order tasks open, change and close documents, and whatever they fail to read or to write.
A task that is to send a changed document, and finds that it is not open, ends with an
error.  It has never waited for the writer and never will.
-/

namespace LanguageClient

/-! ## Changes of documents that are not open -/

/-- Whether a task that is to send a changed document finds that it is not open. -/
def Transition.RefusesChange (transition : Transition) (task : TaskId) (path : Path) : Prop :=
  ∃ portion uri, transition.action = .advance task portion ∧
    transition.before.task? task = some (.changeFile (.locking path uri)) ∧
      transition.before.client.version? uri = none

/-- The task of a change that is refused ends with an error, and the documents stay as they
are. -/
theorem Transition.of_refusesChange
    {transition : Transition} {task : TaskId} {path : Path}
    (applied : transition.before.apply transition.action = some transition.after)
    (refuses : transition.RefusesChange task path) :
    transition.after.results = (task, .error (.notOpen path)) :: transition.before.results ∧
      transition.after.client.documents = transition.before.client.documents ∧
        transition.after.nextTask = transition.before.nextTask ∧
          transition.after.task? task = none := by
  obtain ⟨before, action, after⟩ := transition
  obtain ⟨portion, uri, advances, found, absent⟩ := refuses
  dsimp only at advances applied found absent ⊢
  subst advances
  by_cases held : before.client.documentsLock.isHeldBy task = true
  · simp only [Session.apply, Session.advance, Session.taskStep, found, Operation.step,
      Changing.step, held, absent, if_true, Step.map, Step.lift, Option.some.injEq] at applied
    subst applied
    refine ⟨rfl, rfl, rfl, ?_⟩
    have dropped := Session.task?_dropTask
      ({ before with client := before.client.releaseDocuments task } : Session) task task
    rw [if_pos rfl] at dropped
    exact dropped
  · simp [Session.apply, Session.advance, Session.taskStep, found, Operation.step,
      Changing.step, held, Step.map, Step.lift] at applied

/-! ## Tasks that do not know -/

/-- Whether it is not known yet that the document is open. -/
def Changing.isUndecided : Changing → Bool
  | .starting _ | .locking _ _ => true
  | .reading _ _ _ | .sending _ _ _ => false

/-- Whether an operation is to send a changed document and has not found it open yet. -/
def Operation.isUndecided : Operation → Bool
  | .changeFile stage => stage.isUndecided
  | _ => false

private theorem Changing.step_decides (turn : Turn) (client : Client) (document : Changing) :
    (document.step turn client).Keeps fun next =>
      next.isUndecided = true → document.isUndecided = true := by
  cases document with
  | reading path uri version =>
      simp only [step]
      split
      · trivial
      · exact fun undecided => absurd undecided Bool.false_ne_true
  | sending uri version frame =>
      apply (Step.Keeps.trivial _).lift
      · exact fun _ _ undecided => absurd undecided Bool.false_ne_true
      · intro client' result
        cases result <;> trivial
  | _ => exact (Step.Keeps.trivial _).mono (fun _ _ _ _ => rfl) fun _ _ _ => trivial

private theorem Operation.step_decides (turn : Turn) (client : Client) (operation : Operation) :
    (operation.step turn client).Keeps fun next =>
      next.isUndecided = true → operation.isUndecided = true := by
  cases operation with
  | changeFile stage => exact (stage.step_decides turn client).map fun _ keeps => keeps
  | closeFile path =>
      simp only [step]
      split
      · trivial
      · exact fun undecided => absurd undecided Bool.false_ne_true
  | _ =>
      exact (Step.Keeps.trivial _).map fun _ _ undecided => absurd undecided Bool.false_ne_true

private theorem Operation.use_of_isUndecided
    {operation : Operation} (undecided : operation.isUndecided = true) :
    operation.use = .apart := by
  cases operation with
  | changeFile stage =>
      cases stage with
      | starting path => rfl
      | locking path uri => rfl
      | _ => cases undecided
  | _ => cases undecided

theorem areEarly_isUndecided : AreEarly Operation.isUndecided where
  apart _ undecided := Operation.use_of_isUndecided undecided
  steps turn client operation := operation.step_decides turn client

/-- A task whose change was refused has no frame on the stream. -/
theorem Run.not_mem_wireLog_of_refusesChange
    {client : Client} {session : Session} {past : List Transition}
    (run : Run (Session.connect client) past session) {transition : Transition}
    (member : transition ∈ past) {task : TaskId} {path : Path}
    (refuses : transition.RefusesChange task path) {segment : Segment}
    (logged : segment ∈ wireLog past) : segment.task ≠ task := by
  obtain ⟨earlier, later, rfl⟩ := List.append_of_mem member
  obtain ⟨_, _, _, ended⟩ := Transition.of_refusesChange run.before_transition.2 refuses
  obtain ⟨portion, uri, _, found, _⟩ := refuses
  have undecided : transition.before.view Operation.isUndecided false task = true :=
    Session.view_of_found found
  exact (run.isSilent_of_endsEarly areEarly_isUndecided member
    ⟨undecided, ended⟩).not_mem_wireLog logged

/-! ## The table and the notices -/

/-- Whether the server has been told something about a document, and the task that told it
takes its next step. -/
def Transition.Records (transition : Transition) (uri : String) (event : SyncEvent) : Prop :=
  ∃ (turn : Turn) (drop : Bool) (message : Outgoing),
    transition.action = .advance turn.task turn.portion ∧
      transition.before.documentUse turn.task = .telling uri event drop (.writing message [])

/-- Whether a task cannot read a document, or cannot tell the server about it. -/
def Transition.FailsOnDocument (transition : Transition) : Prop :=
  ∃ turn : Turn, transition.action = .advance turn.task turn.portion ∧
    transition.after.documentUse turn.task = .apart ∧
      ((∃ uri, transition.before.documentUse turn.task = .opening uri) ∨
        (∃ uri version, transition.before.documentUse turn.task = .changing uri version) ∨
          ∃ uri event drop frame client error,
            transition.before.documentUse turn.task = .telling uri event drop frame ∧
              frame.step turn transition.before.client = .finished client (.error error))

structure Synchronized (past : List Transition) (session : Session) : Prop where
  /-- The notices about a document that are written whole open it with the first version,
  count its changes without gaps, and close it, again and again. -/
  rounds : ∀ uri, ∃ rounds : List Nat,
    Segment.history uri (wireLog past) <+: rounds.flatMap SyncEvent.round
  /-- However many tasks open a document, it is opened once more than it is closed at most. -/
  once : ∀ uri, (Segment.history uri (wireLog past)).count (.opened 1) ≤
    (Segment.history uri (wireLog past)).count .closed + 1
  /-- What is told is recorded: unless a task has still to record a notice about a document,
  the table has the version that a replay of its notices gives, and none when that leaves the
  document closed. -/
  recorded : ∀ uri, ¬ IsLost past uri →
    (∀ task event, (session.documentUse task).unrecorded? ≠ some (uri, event)) →
      SyncEvent.replay (Segment.history uri (wireLog past)) = some (session.client.version? uri)
  /-- A notice that is still to be recorded is the latest that the server was told. -/
  unrecorded : ∀ task uri event, (session.documentUse task).unrecorded? = some (uri, event) →
    ¬ IsLost past uri →
      SyncEvent.replay (Segment.history uri (wireLog past)) = some event.version?
  /-- Nothing else changes the version of a document than the record of a notice, and the
  end of a document that is dropped though the server cannot be told. -/
  changes : ∀ transition, transition ∈ past → ∀ uri,
    transition.after.client.version? uri = transition.before.client.version? uri ∨
      (∃ event, transition.Records uri event ∧
        transition.after.client.version? uri = event.version?) ∨
      transition.DropsUntold uri
  /-- A failure leaves the table as it was. -/
  failed : ∀ transition, transition ∈ past → transition.FailsOnDocument →
    (∀ uri, ¬ transition.DropsUntold uri) →
      transition.after.client.documents = transition.before.client.documents
  /-- When all documents are closed, a failure takes only the document itself away. -/
  dropped : ∀ transition, transition ∈ past → ∀ uri, transition.DropsUntold uri →
    transition.after.client.documents =
      transition.before.client.documents.filter fun entry => entry.1 ≠ uri
  /-- The change of a document that is not open is refused, and nothing is written. -/
  refused : ∀ transition, transition ∈ past → ∀ task path, transition.RefusesChange task path →
    transition.after.results = (task, .error (.notOpen path)) :: transition.before.results ∧
      transition.after.client.documents = transition.before.client.documents ∧
        ∀ segment, segment ∈ wireLog past → segment.task ≠ task

namespace DocumentMove

variable {turn : Turn} {client : Client} {before after : DocumentUse} {shelf : Shelf}

theorem version?_changes
    (move : DocumentMove turn client False before shelf after) (uri : String) :
    shelf.version? uri = client.version? uri ∨
      (∃ event drop message, before = .telling uri event drop (.writing message []) ∧
        shelf.version? uri = event.version?) ∨
      ∃ event frame client' error, before = .telling uri event true frame ∧
        frame.step turn client = .finished client' (.error error) ∧ after = .apart := by
  cases move.sync with
  | quiet sameVersion _ => exact Or.inl (sameVersion uri)
  | writes sameVersion _ _ _ => exact Or.inl (sameVersion uri)
  | @records uri' event drop message tells gone version =>
      by_cases same : uri = uri'
      · subst same
        exact Or.inr (Or.inl ⟨event, drop, message, tells, by rw [version, if_pos rfl]⟩)
      · exact Or.inl (by rw [version, if_neg same])
  | @drops uri' event frame client' error tells step gone version =>
      by_cases same : uri = uri'
      · subst same
        exact Or.inr (Or.inr ⟨event, frame, client', error, tells, step, gone⟩)
      · exact Or.inl (by rw [version, if_neg same])

theorem documents_of_opening
    {uri : String} (move : DocumentMove turn client False (.opening uri) shelf after) :
    shelf.documents = client.documents := by
  cases move with
  | dropped allowed => exact allowed.elim
  | _ => rfl

theorem documents_of_changing
    {uri : String} {version : Int}
    (move : DocumentMove turn client False (.changing uri version) shelf after) :
    shelf.documents = client.documents := by
  cases move with
  | dropped allowed => exact allowed.elim
  | _ => rfl

theorem documents_of_failure
    {uri : String} {event : SyncEvent} {drop : Bool} {frame : Sending} {client' : Client}
    {error : ClientError}
    (move : DocumentMove turn client False (.telling uri event drop frame) shelf .apart)
    (step : frame.step turn client = .finished client' (.error error)) :
    shelf.documents = if drop then client.shelf.without uri else client.documents := by
  cases move with
  | leaves idle => cases idle
  | commits step' => exact nomatch step.symm.trans step'
  | fails step' => rfl
  | dropped allowed => exact allowed.elim

end DocumentMove

namespace Session

theorem DocumentEffect.version?_changes
    {session after : Session} {action : Action} {mayNotify : String → Prop}
    (effect : DocumentEffect False session action after)
    (isProper : session.IsProper mayNotify) (uri : String) :
    after.client.version? uri = session.client.version? uri ∨
      (∃ event, Transition.Records ⟨session, action, after⟩ uri event ∧
        after.client.version? uri = event.version?) ∨
      Transition.DropsUntold ⟨session, action, after⟩ uri := by
  cases effect with
  | quiet noTask sameShelf sameUse =>
      exact Or.inl (congrArg (fun shelf => shelf.version? uri) sameShelf)
  | moved turn isAction move others =>
      have advances (telling : (session.documentUse turn.task).isTelling = true) :
          action = .advance turn.task turn.portion := by
        rcases isAction with advances | ⟨_, notTelling⟩
        · exact advances
        · exact (notTelling telling).elim
      rcases move.version?_changes uri with
        same | ⟨event, drop, message, tells, version⟩ |
          ⟨event, frame, client', error, tells, step, ended⟩
      · exact Or.inl same
      · exact Or.inr (Or.inl ⟨event, ⟨turn, drop, message, advances (by rw [tells]; rfl), tells⟩,
          version⟩)
      · exact Or.inr (Or.inr
          (isProper.dropsUntold (advances (by rw [tells]; rfl)) tells step ended))

end Session

namespace Run

variable {client : Client} {session : Session} {past : List Transition}

/-- In every run in which nobody is dropped in the middle of telling the server about a
document, and in which users send no such notices themselves, the open documents are those
that the server knows. -/
theorem synchronized
    (run : Run (Session.connect client) past session) (freshOutlet : client.HasFreshOutlet)
    (freshShelf : client.shelf = ⟨[], .free⟩)
    (kept : ∀ transition, transition ∈ past →
      transition.before.dropsNotice transition.action = false)
    (unrelated : ∀ transition, transition ∈ past → ∀ method params,
      transition.action = .start (.notify method params) → IsUnrelated method) :
    Synchronized past session := by
  have invariant := run.toldInvariant freshOutlet freshShelf kept unrelated
  have before {transition : Transition} (member : transition ∈ past) :
      Session.DocumentEffect False transition.before transition.action transition.after ∧
        transition.before.IsProper IsUnrelated := by
    have notDropped := kept transition member
    obtain ⟨earlier, later, rfl⟩ := List.append_of_mem member
    obtain ⟨runBefore, applied⟩ := run.before_transition
    constructor
    · exact (Session.effect_of_apply applied).documents runBefore.hasFreshTask
        fun drops => nomatch notDropped.symm.trans drops
    · exact runBefore.isProper fun transition member =>
        unrelated transition (List.mem_append_left _ member)
  constructor
  case rounds =>
    intro uri
    obtain ⟨held?, replayed⟩ := invariant.replayable uri
    exact SyncEvent.exists_prefix_of_replay replayed
  case once =>
    intro uri
    obtain ⟨held?, replayed⟩ := invariant.replayable uri
    rw [SyncEvent.count_opened_of_replay replayed]
    split <;> omega
  case recorded => exact invariant.recorded
  case unrecorded => exact invariant.unrecorded
  case changes =>
    intro transition member uri
    obtain ⟨effect, isProper⟩ := before member
    exact effect.version?_changes isProper uri
  case failed =>
    rintro transition member ⟨turn, advances, ended, fails⟩ notDropped
    obtain ⟨effect, isProper⟩ := before member
    have move := effect.of_advance advances
    rw [ended] at move
    rcases fails with ⟨uri, reads⟩ | ⟨uri, version, reads⟩ |
      ⟨uri, event, drop, frame, client', error, tells, step⟩
    · exact (reads ▸ move).documents_of_opening
    · exact (reads ▸ move).documents_of_changing
    · cases drop with
      | true => exact absurd (isProper.dropsUntold advances tells step ended) (notDropped uri)
      | false => exact (tells ▸ move).documents_of_failure step
  case dropped =>
    rintro transition member uri
      ⟨turn, operation, event, frame, client', error, advances, found, _, tells, step, ended⟩
    have move := (before member).1.of_advance advances
    have sessionTells : transition.before.documentUse turn.task = .telling uri event true frame :=
      (Session.view_of_found found).trans tells
    rw [ended, sessionTells] at move
    exact move.documents_of_failure step
  case refused =>
    intro transition member task path refuses
    obtain ⟨earlier, later, rfl⟩ := List.append_of_mem member
    obtain ⟨results, documents, _, _⟩ :=
      Transition.of_refusesChange run.before_transition.2 refuses
    exact ⟨results, documents, fun segment logged =>
      run.not_mem_wireLog_of_refusesChange member refuses logged⟩

end Run

/-- Two tasks open one document, and a third changes another that is not open. -/
def sharedOpening : List Action :=
  [.start (.openFile (.ofString "/a")), .start (.openFile (.ofString "/a")), .advance 0 1024,
    .advance 1 1024, .advance 0 1024, .advance 0 1024, .advance 0 1024, .advance 0 1024,
    .advance 0 1024, .advance 0 1024, .advance 1 1024, .start (.changeFile (.ofString "/b")),
    .advance 2 1024, .advance 2 1024]

def Client.withFile : Client :=
  connect { processId := 1 } 1024 (.directory [([97], .file [] false)]) []

theorem Run.synchronized_sharedOpening :
    ∃ past session, Run (Session.connect .withFile) past session ∧
      past.map Transition.action = sharedOpening ∧
        session.client.documents = [("file:///a", 1)] ∧
          session.results =
            [(2, .error (.notOpen (.ofString "/b"))), (1, .ok .nothing), (0, .ok .nothing)] ∧
            Synchronized past session := by
  let start := Session.connect .withFile
  have computed :
      (start.run sharedOpening).map (fun session => (session.client.documents, session.results)) =
          some ([("file:///a", 1)], [(2, .error (.notOpen (.ofString "/b"))), (1, .ok .nothing),
            (0, .ok .nothing)]) ∧
        ∀ transition, transition ∈ start.transitions sharedOpening →
          transition.before.dropsNotice transition.action = false := by
    decide +kernel
  obtain ⟨computed, kept⟩ := computed
  obtain ⟨session, ran, reached⟩ := Option.map_eq_some_iff.mp computed
  injection reached with documents results
  have run := Run.of_run ran .refl
  have actions := Session.map_action_transitions ran
  refine ⟨_, session, run, actions, documents, results,
    run.synchronized (Client.hasFreshOutlet_connect _ _ _ _) rfl kept ?_⟩
  intro transition member method params notifies
  have action : transition.action ∈ sharedOpening := actions ▸ List.mem_map_of_mem member
  rw [notifies] at action
  simp [sharedOpening] at action

end LanguageClient
