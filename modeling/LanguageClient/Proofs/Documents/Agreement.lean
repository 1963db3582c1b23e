import LanguageClient.Proofs.Documents.Sync
import LanguageClient.Proofs.Wire.Failure

/-!
# The table and the histories

Of a document that nobody is telling the server about, the table says what a replay of
its history says.  While a notice is written whole and not recorded yet, the replay is
one notice ahead.  The only documents of which the table may be wrong are those that were
dropped when all documents were closed and the server could not be told; of them the
server is told nothing more.
-/

namespace LanguageClient

/-- Whether a transition takes a document out of the table though the server cannot be
told that it is closed. -/
def Transition.DropsUntold (transition : Transition) (uri : String) : Prop :=
  ∃ turn operation event frame client error,
    transition.action = .advance turn.task turn.portion ∧
      transition.before.task? turn.task = some operation ∧
        operation.closesAll = true ∧
          operation.documentUse = .telling uri event true frame ∧
            frame.step turn transition.before.client = .finished client (.error error) ∧
              transition.after.documentUse turn.task = .apart

/-- A task that drops a document untold closes all documents. -/
theorem Session.IsProper.dropsUntold
    {session after : Session} {action : Action} {turn : Turn} {mayNotify : String → Prop}
    (isProper : session.IsProper mayNotify)
    (advances : action = .advance turn.task turn.portion) {uri : String} {event : SyncEvent}
    {frame : Sending} (tells : session.documentUse turn.task = .telling uri event true frame)
    {client : Client} {error : ClientError}
    (step : frame.step turn session.client = .finished client (.error error))
    (ended : after.documentUse turn.task = .apart) :
    Transition.DropsUntold ⟨session, action, after⟩ uri := by
  obtain ⟨operation, found, operationTells⟩ := Session.found_of_view tells nofun
  have closesAll :=
    (Operation.sync?_of_telling (isProper turn.task operation found) operationTells).1
  exact ⟨turn, operation, event, frame, client, error, advances, found, closesAll.symm,
    operationTells, step, ended⟩

/-- Whether a document was dropped untold in a run. -/
def IsLost (past : List Transition) (uri : String) : Prop :=
  ∃ transition, transition ∈ past ∧ transition.DropsUntold uri

/-- How the table and the tasks agree with the histories of the documents. -/
structure ToldInvariant
    (lost : String → Prop) (history : String → List SyncEvent) (version? : String → Option Int)
    (use : TaskId → DocumentUse) : Prop where
  replayable : ∀ uri, ∃ held?, SyncEvent.replay (history uri) = some held?
  recorded : ∀ uri, ¬ lost uri → (∀ task event, (use task).unrecorded? ≠ some (uri, event)) →
    SyncEvent.replay (history uri) = some (version? uri)
  unrecorded : ∀ task uri event, (use task).unrecorded? = some (uri, event) → ¬ lost uri →
    SyncEvent.replay (history uri) = some event.version?

namespace ToldInvariant

variable {lost lost' : String → Prop} {history history' : String → List SyncEvent}
  {version? version?' : String → Option Int} {use use' : TaskId → DocumentUse}

private theorem quiet
    (invariant : ToldInvariant lost history version? use)
    (lostStays : ∀ uri, lost uri → lost' uri) (sameVersion : ∀ uri, version?' uri = version? uri)
    (sameUnrecorded : ∀ task, (use' task).unrecorded? = (use task).unrecorded?) :
    ToldInvariant lost' history version?' use' where
  replayable := invariant.replayable
  recorded := by
    intro uri found none
    rw [sameVersion]
    apply invariant.recorded uri fun isLost => found (lostStays uri isLost)
    intro task event
    rw [← sameUnrecorded]
    exact none task event
  unrecorded := by
    intro task uri event unrecorded found
    rw [sameUnrecorded] at unrecorded
    exact invariant.unrecorded task uri event unrecorded fun isLost => found (lostStays uri isLost)

/-- A task writes a notice whole. -/
private theorem writes
    (invariant : ToldInvariant lost history version? use) {task : TaskId} {uri : String}
    {event : SyncEvent} (nothingLost : ∀ uri, ¬ lost uri) (follows : event.Follows (version? uri))
    (before : ∀ other, (use other).unrecorded? = none)
    (afterwards : ∀ other told, (use' other).unrecorded? = some told ↔
      other = task ∧ told = (uri, event))
    (sameVersion : ∀ uri, version?' uri = version? uri)
    (grows : ∀ other, history' other =
      history other ++ if other = uri then [event] else []) :
    ToldInvariant lost' history' version?' use' := by
  have recordedBefore (other : String) :
      SyncEvent.replay (history other) = some (version? other) := by
    apply invariant.recorded other (nothingLost other)
    intro task' event'
    rw [before]
    nofun
  have replayed : SyncEvent.replay (history' uri) = some event.version? := by
    rw [grows, if_pos rfl, SyncEvent.replay_concat, recordedBefore]
    exact SyncEvent.follow_of_follows follows
  have replayedOther (other : String) (different : other ≠ uri) :
      SyncEvent.replay (history' other) = some (version?' other) := by
    rw [grows, if_neg different, List.append_nil, recordedBefore, sameVersion]
  constructor
  · intro other
    by_cases same : other = uri
    · exact ⟨_, same ▸ replayed⟩
    · exact ⟨_, replayedOther other same⟩
  · intro other _ none
    by_cases same : other = uri
    · exact absurd ((afterwards task (uri, event)).mpr ⟨rfl, rfl⟩) (same ▸ none task event)
    · exact replayedOther other same
  · intro task' other event' unrecorded _
    obtain ⟨-, same⟩ := (afterwards task' (other, event')).mp unrecorded
    cases same
    exact replayed

/-- A task that has nothing unrecorded any more takes one document to a version, which is
the one that was told last, or which is lost. -/
private theorem settles
    (invariant : ToldInvariant lost history version? use) {uri : String}
    {settled? : Option Int} (lostStays : ∀ uri, lost uri → lost' uri)
    (settled : ¬ lost' uri → SyncEvent.replay (history uri) = some settled?)
    (only : ∀ task told, (use task).unrecorded? = some told → told.1 = uri)
    (afterwards : ∀ task, (use' task).unrecorded? = none)
    (version : ∀ other, version?' other = if other = uri then settled? else version? other) :
    ToldInvariant lost' history version?' use' where
  replayable := invariant.replayable
  recorded := by
    intro other found _
    rw [version]
    by_cases same : other = uri
    · rw [if_pos same]
      exact same ▸ settled (same ▸ found)
    · rw [if_neg same]
      apply invariant.recorded other fun isLost => found (lostStays other isLost)
      intro task event unrecorded
      exact same (only task _ unrecorded)
  unrecorded := by
    intro task other event unrecorded
    rw [afterwards] at unrecorded
    cases unrecorded

/-- A step of a task keeps the table and the histories in agreement. -/
theorem moved
    {turn : Turn} {client : Client} {shelf : Shelf}
    (invariant : ToldInvariant lost history client.version? use)
    (shelfInvariant : ShelfInvariant client.shelf use)
    (move : SyncMove turn client (use turn.task) shelf (use' turn.task))
    (others : ∀ other, other ≠ turn.task → use' other = use other)
    (grows : ∀ uri, history' uri = history uri ++
      (((use turn.task).written? (use' turn.task)).bind (SyncEvent.about? uri)).toList)
    (alive : ∀ told, (use turn.task).written? (use' turn.task) = some told → ∀ uri, ¬ lost uri)
    (lostStays : ∀ uri, lost uri → lost' uri)
    (drops : ∀ uri event frame client' error, use turn.task = .telling uri event true frame →
      frame.step turn client = .finished client' (.error error) → use' turn.task = .apart →
        lost' uri) :
    ToldInvariant lost' history' shelf.version? use' := by
  have onlyMover {subject : String × SyncEvent}
      (looked : (use turn.task).subject? = some subject) (other : TaskId)
      (told : String × SyncEvent) (unrecorded : (use other).unrecorded? = some told) :
      other = turn.task :=
    shelfInvariant.subject_unique looked (DocumentUse.subject?_of_unrecorded? unrecorded)
  have noneAfterwards {subject : String × SyncEvent}
      (looked : (use turn.task).subject? = some subject) (gone : use' turn.task = .apart)
      (other : TaskId) : (use' other).unrecorded? = none := by
    by_cases same : other = turn.task
    · rw [same, gone]
      rfl
    · rw [others other same]
      cases unrecorded : (use other).unrecorded? with
      | none => rfl
      | some told => exact absurd (onlyMover looked other told unrecorded) same
  have sameHistory (nothingWritten : (use turn.task).written? (use' turn.task) = none) :
      history' = history := by
    funext uri
    rw [grows, nothingWritten]
    exact List.append_nil _
  cases move with
  | quiet sameVersion sameUnrecorded =>
      rw [sameHistory (DocumentUse.written?_eq_none (Or.inl sameUnrecorded))]
      apply invariant.quiet lostStays sameVersion
      intro task
      by_cases same : task = turn.task
      · rw [same, sameUnrecorded]
      · rw [others task same]
  | @writes uri event sameVersion looked before afterwards =>
      have written : (use turn.task).written? (use' turn.task) = some (uri, event) := by
        unfold DocumentUse.written?
        rw [before, afterwards]
      have noneBefore (other : TaskId) : (use other).unrecorded? = none := by
        cases unrecorded : (use other).unrecorded? with
        | none => rfl
        | some told =>
            rw [onlyMover looked other told unrecorded, before] at unrecorded
            cases unrecorded
      have onlyAfterwards (other : TaskId) (told : String × SyncEvent) :
          (use' other).unrecorded? = some told ↔ other = turn.task ∧ told = (uri, event) := by
        by_cases same : other = turn.task
        · rw [same, afterwards]
          simp [eq_comm]
        · rw [others other same, noneBefore]
          simp [same]
      refine invariant.writes (alive _ written)
        (shelfInvariant.leads turn.task uri event looked).2 noneBefore onlyAfterwards sameVersion ?_
      intro other
      rw [grows, written]
      by_cases same : other = uri
      · simp [SyncEvent.about?, same]
      · simp [SyncEvent.about?, same, Ne.symm same]
  | @records uri event drop message tells gone version =>
      have unrecorded : (use turn.task).unrecorded? = some (uri, event) := by
        rw [tells]
        rfl
      have looked := DocumentUse.subject?_of_unrecorded? unrecorded
      rw [sameHistory (DocumentUse.written?_eq_none (Or.inr (by rw [gone]; rfl)))]
      refine invariant.settles lostStays ?_ ?_ (noneAfterwards looked gone) version
      · intro found
        exact invariant.unrecorded turn.task uri event unrecorded fun isLost =>
          found (lostStays uri isLost)
      · intro task told unrecorded'
        rw [onlyMover looked task told unrecorded', unrecorded] at unrecorded'
        cases unrecorded'
        rfl
  | @drops uri event frame client' error tells step gone version =>
      have isLost := drops uri event frame client' error tells step gone
      have looked : (use turn.task).subject? = some (uri, event) := by
        rw [tells]
        rfl
      rw [sameHistory (DocumentUse.written?_eq_none (Or.inr (by rw [gone]; rfl)))]
      refine invariant.settles lostStays (absurd isLost) ?_ (noneAfterwards looked gone) version
      intro task told unrecorded
      rw [onlyMover looked task told unrecorded, tells,
        DocumentUse.unrecorded?_of_error step] at unrecorded
      cases unrecorded

end ToldInvariant

/-! ## Runs -/

private theorem WriterMove.unbroken_of_completed?
    {task : TaskId} {outlet outlet' : Outlet} {before after : WriterUse} {message : Outgoing}
    (move : WriterMove task outlet before outlet' after)
    (completed : before.completed? after = some message) :
    outlet.pipe.isBroken = false ∧ ∃ rest, before = .writing message rest := by
  have finished := (move.completed?_eq_some_iff.mp completed).1
  cases move with
  | rest =>
      rw [WriterUse.completed?_self] at completed
      cases completed
  | put message' bytes rest unbroken nonempty fits =>
      injection finished with sameMessage
      subst sameMessage
      exact ⟨unbroken, _, rfl⟩
  | leave => cases finished
  | _ => cases completed

namespace Run

variable {client : Client} {session : Session} {past : List Transition}

/-- When a document is lost, the stream is dead. -/
theorem isDead_of_isLost
    (run : Run (Session.connect client) past session) {uri : String} (isLost : IsLost past uri) :
    session.client.outlet.IsDead := by
  induction run with
  | refl =>
      obtain ⟨transition, member, _⟩ := isLost
      cases member
  | @step past session after action run applied inductionHypothesis =>
      apply ((Session.effect_of_apply applied).wire run.hasFreshTask).isDead
      obtain ⟨transition, member, drops⟩ := isLost
      rcases List.mem_append.mp member with earlier | latest
      · exact inductionHypothesis ⟨transition, earlier, drops⟩
      · obtain rfl := List.mem_singleton.mp latest
        obtain ⟨turn, operation, event, frame, client', error, _, _, _, _, step, _⟩ := drops
        exact Sending.isDead_of_error step

/-- A task that writes finds the stream alive, so that no document is lost. -/
private theorem nothingLost
    (run : Run (Session.connect client) past session) (fresh : client.HasFreshOutlet)
    {task : TaskId} {outlet' : Outlet} {after : WriterUse} {message : Outgoing}
    (move : WriterMove task session.client.outlet (session.use task) outlet' after)
    (completed : (session.use task).completed? after = some message) (uri : String) :
    ¬ IsLost past uri := by
  intro isLost
  obtain ⟨unbroken, rest, writes⟩ := move.unbroken_of_completed? completed
  rcases run.isDead_of_isLost isLost with broken | closed
  · exact nomatch unbroken.symm.trans broken
  · exact nomatch (run.isInputOpen_of_writing fresh writes).symm.trans closed

/-- In a run in which nobody is dropped in the middle of telling the server, and in which
users send no such notices themselves, the table agrees with the histories. -/
theorem toldInvariant
    (run : Run (Session.connect client) past session) (fresh : client.HasFreshOutlet)
    (freshTable : client.shelf = ⟨[], .free⟩)
    (kept : ∀ transition, transition ∈ past →
      transition.before.dropsNotice transition.action = false)
    (unrelated : ∀ transition, transition ∈ past → ∀ method params,
      transition.action = .start (.notify method params) → IsUnrelated method) :
    ToldInvariant (IsLost past) (fun uri => Segment.history uri (wireLog past))
      session.client.version? session.documentUse := by
  induction run with
  | refl =>
      have noVersion (uri : String) : client.version? uri = none := by
        have noDocuments : client.documents = [] := congrArg Shelf.documents freshTable
        simp [Client.version?, noDocuments]
      constructor
      · intro uri
        exact ⟨none, rfl⟩
      · intro uri _ _
        exact congrArg some (noVersion uri).symm
      · intro task uri event unrecorded
        cases unrecorded
  | @step past session after action run applied inductionHypothesis =>
      let latest : Transition := ⟨session, action, after⟩
      have isLatest : latest ∈ past ++ [latest] := List.mem_append_right _ List.mem_cons_self
      have invariant := inductionHypothesis
        (fun transition member => kept transition (List.mem_append_left _ member))
        (fun transition member => unrelated transition (List.mem_append_left _ member))
      have effect := Session.effect_of_apply applied
      have notDropped : session.dropsNotice action = false := kept latest isLatest
      have lostStays : ∀ uri, IsLost past uri → IsLost (past ++ [latest]) uri := by
        rintro uri ⟨transition, member, drops⟩
        exact ⟨transition, List.mem_append_left _ member, drops⟩
      have documents : Session.DocumentEffect False session action after :=
        effect.documents run.hasFreshTask fun drops => nomatch notDropped.symm.trans drops
      have isProper : session.IsProper IsUnrelated :=
        run.isProper fun transition member => unrelated transition (List.mem_append_left _ member)
      have isProper' : after.IsProper IsUnrelated :=
        isProper.effect run.hasFreshTask effect (unrelated latest isLatest)
      cases documents with
      | moved turn isAction move others =>
          -- The notice that a move writes whole is the one that it makes known, so the log and
          -- the table change together.
          have isTask : action.task? = some turn.task :=
            Action.task?_of_turn (isAction.imp_right And.left)
          have wire := run.wireInvariant fresh
          have writerMove := ((effect.wire run.hasFreshTask).of_task isTask).1
          have written := writerMove.completed?_sync? isProper isProper'
          refine invariant.moved (run.shelfInvariant (congrArg Shelf.lock freshTable)) move.sync
            others ?_ ?_ lostStays ?_
          · intro uri
            rw [wireLog_concat, Transition.record, isTask, ← written, Option.bind_assoc]
            exact wire.history_record writerMove uri
          · intro told tells uri
            rw [← written] at tells
            obtain ⟨message, completed, _⟩ := Option.bind_eq_some_iff.mp tells
            exact run.nothingLost fresh writerMove completed uri
          · intro uri event frame client' error tells step gone
            have advances : action = .advance turn.task turn.portion := by
              rcases isAction with advances | ⟨_, notTelling⟩
              · exact advances
              · exact (notTelling (by rw [tells]; rfl)).elim
            exact ⟨latest, isLatest, isProper.dropsUntold advances tells step gone⟩
      | quiet noTask sameShelf sameUse =>
          have sameLog : wireLog (past ++ [latest]) = wireLog past := by
            rw [wireLog_concat, Transition.record, noTask]
          have sameVersion (uri : String) : after.client.version? uri = session.client.version? uri :=
            congrArg (fun shelf => shelf.version? uri) sameShelf
          rw [sameLog]
          apply invariant.quiet lostStays sameVersion
          intro task
          rw [sameUse]

end Run

end LanguageClient
