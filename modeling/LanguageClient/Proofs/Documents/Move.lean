import LanguageClient.Operation.Basic
import LanguageClient.Proofs.Client.Lock
import LanguageClient.Proofs.Operation.Untouched

/-!
# Moves on the open documents

An operation on a document waits for the lock of the documents, looks at the table,
tells the server, and then brings the table up to date.  Opening a session, closing
a client and preloading do the same for many documents; every operation is seen
through the part it takes in these moves.
-/

namespace LanguageClient

/-- What the server is told about a document. -/
inductive SyncEvent where
  | opened (version : Int)
  | changed (version : Int)
  | closed
deriving DecidableEq

/-- The side of a client that keeps the open documents. -/
structure Shelf where
  documents : List (String × Int)
  lock : Lock

namespace Shelf

def version? (shelf : Shelf) (uri : String) : Option Int :=
  (shelf.documents.find? fun entry => entry.1 = uri).map Prod.snd

def without (shelf : Shelf) (uri : String) : List (String × Int) :=
  shelf.documents.filter fun entry => entry.1 ≠ uri

/-- The documents when the server has been told about one of them. -/
def record (shelf : Shelf) (uri : String) : SyncEvent → List (String × Int)
  | .opened version | .changed version => shelf.without uri ++ [(uri, version)]
  | .closed => shelf.without uri

end Shelf

/-- The side of a client that keeps the open documents. -/
def Client.shelf (client : Client) : Shelf :=
  ⟨client.documents, client.documentsLock⟩

/-- What a task has to do with the open documents. -/
inductive DocumentUse where
  | apart
  /-- It waits for the lock of the documents. -/
  | queued (mode : LockMode)
  /-- It reads a document that is to be opened. -/
  | opening (uri : String)
  /-- It reads a document that is open, and whose next version is given. -/
  | changing (uri : String) (version : Int)
  /-- It tells the server; `drop` tells that the document leaves the table in any case. -/
  | telling (uri : String) (event : SyncEvent) (drop : Bool) (frame : Sending)

/-- Whether the server is being told something. -/
def DocumentUse.isTelling : DocumentUse → Bool
  | .telling _ _ _ _ => true
  | _ => false

/-- What a task does to the documents in one step.  It may be dropped in the middle of
telling the server only when something allows that. -/
inductive DocumentMove (turn : Turn) (client : Client) (mayDrop : Prop) :
    DocumentUse → Shelf → DocumentUse → Prop
  | rests (use : DocumentUse) : DocumentMove turn client mayDrop use client.shelf use
  | asks (mode : LockMode) :
      DocumentMove turn client mayDrop .apart
        { client.shelf with lock := client.documentsLock.ask turn.task mode } (.queued mode)
  | leaves {use : DocumentUse} :
      use.isTelling = false →
      DocumentMove turn client mayDrop use
        { client.shelf with lock := client.documentsLock.release turn.task } .apart
  | looksToOpen {uri : String} :
      client.documentsLock.isHeldBy turn.task = true →
      client.version? uri = none →
      DocumentMove turn client mayDrop (.queued .exclusive) client.shelf (.opening uri)
  | looksToChange {uri : String} {version : Int} :
      client.documentsLock.isHeldBy turn.task = true →
      client.version? uri = some version →
      DocumentMove turn client mayDrop (.queued .exclusive) client.shelf
        (.changing uri (version + 1))
  | looksToClose {uri : String} {drop : Bool} (message : Outgoing) :
      client.documentsLock.isHeldBy turn.task = true →
      (client.version? uri).isSome = true →
      DocumentMove turn client mayDrop (.queued .exclusive) client.shelf
        (.telling uri .closed drop (.start message))
  | tellsOpening {uri : String} (message : Outgoing) :
      DocumentMove turn client mayDrop (.opening uri) client.shelf
        (.telling uri (.opened 1) false (.start message))
  | tellsChange {uri : String} {version : Int} (message : Outgoing) :
      DocumentMove turn client mayDrop (.changing uri version) client.shelf
        (.telling uri (.changed version) false (.start message))
  | sends {uri : String} {event : SyncEvent} {drop : Bool} {frame frame' : Sending}
      {client' : Client} :
      frame.step turn client = .running client' frame' →
      DocumentMove turn client mayDrop (.telling uri event drop frame) client.shelf
        (.telling uri event drop frame')
  | commits {uri : String} {event : SyncEvent} {drop : Bool} {frame : Sending}
      {client' : Client} :
      frame.step turn client = .finished client' (.ok ()) →
      DocumentMove turn client mayDrop (.telling uri event drop frame)
        ⟨client.shelf.record uri event, client.documentsLock.release turn.task⟩ .apart
  | fails {uri : String} {event : SyncEvent} {drop : Bool} {frame : Sending}
      {client' : Client} {error : ClientError} :
      frame.step turn client = .finished client' (.error error) →
      DocumentMove turn client mayDrop (.telling uri event drop frame)
        ⟨if drop then client.shelf.without uri else client.documents,
          client.documentsLock.release turn.task⟩ .apart
  | dropped {use : DocumentUse} :
      mayDrop →
      DocumentMove turn client mayDrop use
        { client.shelf with lock := client.documentsLock.release turn.task } .apart

/-! ## What an operation has to do with the documents -/

def Opening.documentUse : Opening → DocumentUse
  | .starting _ => .apart
  | .locking _ _ => .queued .exclusive
  | .reading _ uri => .opening uri
  | .sending uri frame => .telling uri (.opened 1) false frame

def Changing.documentUse : Changing → DocumentUse
  | .starting _ => .apart
  | .locking _ _ => .queued .exclusive
  | .reading _ uri version => .changing uri version
  | .sending uri version frame => .telling uri (.changed version) false frame

def ClosingDocument.documentUse : ClosingDocument → DocumentUse
  | .starting _ _ => .apart
  | .locking _ _ => .queued .exclusive
  | .sending uri drop frame => .telling uri .closed drop frame

def ClosingAll.documentUse : ClosingAll → DocumentUse
  | .listing => .queued .shared
  | .closing document _ _ => document.documentUse
  | .starting | .next _ _ => .apart

def Preloading.documentUse : Preloading → DocumentUse
  | .opening document _ => document.documentUse
  | .starting _ _ | .finding _ | .next _ => .apart

def Operation.documentUse : Operation → DocumentUse
  | .openSession (.preloading _ files) => files.documentUse
  | .openFile stage => stage.documentUse
  | .changeFile stage => stage.documentUse
  | .closeDocument stage => stage.documentUse
  | .closeAll stage => stage.documentUse
  | .close (.closingFiles files) => files.stage.documentUse
  | .preload stage => stage.documentUse
  | _ => .apart

/-- Whether a step of an operation is the end of its time, at which it drops a notice that
it was sending. -/
def Operation.dropsNotice (turn : Turn) (client : Client) : Operation → Bool
  | .close (.closingFiles (.underway _ stage)) =>
      stage.documentUse.isTelling &&
        match stage.step turn client with
        | .blocked => true
        | _ => false
  | _ => false

/-! ## Steps as moves -/

def Step.DocumentMoves
    {σ α : Type} (turn : Turn) (client : Client) (mayDrop : Prop) (before : DocumentUse)
    (use : σ → DocumentUse) (step : Step σ α) : Prop :=
  step.Holds
    (fun client' stage =>
      DocumentMove turn client mayDrop before client'.shelf (use stage))
    (fun client' _ => DocumentMove turn client mayDrop before client'.shelf .apart)

namespace Step.DocumentMoves

variable {σ τ α β : Type} {turn : Turn} {client : Client} {mayDrop : Prop}
  {before : DocumentUse} {use : σ → DocumentUse} {step : Step σ α}

/-- What moves as a part moves as the whole, if nothing happens to the documents between
the end of the part and what follows it. -/
theorem lift
    {use' : τ → DocumentUse} {stage : σ → τ}
    {next : Client → Except ClientError α → Step τ β}
    (moves : step.DocumentMoves turn client mayDrop before use)
    (sameUse : ∀ inner, use' (stage inner) = use inner)
    (quiet : ∀ client result,
      (next client result).Holds
        (fun client' stage' => client'.shelf = client.shelf ∧ use' stage' = .apart)
        (fun client' _ => client'.shelf = client.shelf)) :
    (step.lift stage next).DocumentMoves turn client mayDrop before use' := by
  unfold Step.DocumentMoves
  rw [Step.holds_lift]
  apply moves.mono
  · intro client' inner move
    rw [sameUse]
    exact move
  · intro client' result move
    apply (quiet client' result).mono
    · rintro client'' stage' ⟨sameShelf, isApart⟩
      rw [sameShelf, isApart]
      exact move
    · intro client'' _ sameShelf
      rw [sameShelf]
      exact move

theorem map
    {use' : τ → DocumentUse} {stage : σ → τ} {value : α → β}
    (moves : step.DocumentMoves turn client mayDrop before use)
    (sameUse : ∀ inner, use' (stage inner) = use inner) :
    (step.map stage value).DocumentMoves turn client mayDrop before use' :=
  moves.lift sameUse fun _ _ => rfl

/-- Operations that have nothing to do with documents leave them alone. -/
theorem of_fixes
    (fixes : step.Fixes Client.shelf client) :
    step.DocumentMoves turn client mayDrop .apart fun _ => .apart := by
  apply fixes.mono
  · intro client' _ same
    rw [same]
    exact .rests .apart
  · intro client' _ same
    rw [same]
    exact .rests .apart

end Step.DocumentMoves

theorem ignoresOutlet_shelf : IgnoresOutlet Client.shelf :=
  fun _ _ _ _ => rfl

theorem ignoresCalls_shelf : IgnoresCalls Client.shelf :=
  fun _ _ => rfl

variable (turn : Turn) (task : TaskId) (client : Client) (mayDrop : Prop)

/-- How telling the server goes on: with the frame, or to the end of it. -/
private theorem Sending.telling_moves
    {σ : Type} {use : σ → DocumentUse} {stage : Sending → σ} {uri : String} {event : SyncEvent}
    {drop : Bool} {α : Type} {next : Client → Except ClientError Unit → Step σ α}
    (frame : Sending) (sameUse : ∀ inner, use (stage inner) = .telling uri event drop inner)
    (ends : ∀ client', client'.shelf = client.shelf →
      (next client' (.ok ())).Holds (fun _ _ => False) fun client'' _ =>
        client''.shelf =
          ⟨client.shelf.record uri event, client.documentsLock.release turn.task⟩)
    (fails : ∀ client' error, client'.shelf = client.shelf →
      (next client' (.error error)).Holds (fun _ _ => False) fun client'' _ =>
        client''.shelf =
          ⟨if drop then client.shelf.without uri else client.documents,
            client.documentsLock.release turn.task⟩) :
    ((frame.step turn client).lift stage next).DocumentMoves turn client mayDrop
      (.telling uri event drop frame) use := by
  have fixes : (frame.step turn client).Fixes Client.shelf client :=
    frame.step_fixes ignoresOutlet_shelf
  unfold Step.DocumentMoves
  rw [Step.holds_lift]
  cases step : frame.step turn client with
  | blocked => trivial
  | running client' frame' =>
      have same : client'.shelf = client.shelf := fixes.of_running step
      simp only [Step.holds_running, sameUse, same]
      exact .sends step
  | finished client' result =>
      have same : client'.shelf = client.shelf := fixes.of_finished step
      rw [Step.holds_finished]
      cases result with
      | ok value =>
          apply (ends client' same).mono
          · intros
            contradiction
          · intro client'' _ shelf
            rw [shelf]
            exact .commits step
      | error error =>
          apply (fails client' error same).mono
          · intros
            contradiction
          · intro client'' _ shelf
            rw [shelf]
            exact .fails step

private theorem release_shelf
    {client client' : Client} (same : client'.shelf = client.shelf) (task : TaskId) :
    (client'.releaseDocuments task).shelf =
      { client.shelf with lock := client.documentsLock.release task } := by
  have documents : client'.documents = client.documents := congrArg Shelf.documents same
  have lock : client'.documentsLock = client.documentsLock := congrArg Shelf.lock same
  simp [Client.shelf, Client.releaseDocuments, documents, lock]

private theorem setVersion_shelf
    {client client' : Client} (same : client'.shelf = client.shelf) (uri : String)
    (version : Int) (task : TaskId) :
    ((client'.setVersion uri version).releaseDocuments task).shelf =
      ⟨client.shelf.without uri ++ [(uri, version)], client.documentsLock.release task⟩ := by
  have documents : client'.documents = client.documents := congrArg Shelf.documents same
  have lock : client'.documentsLock = client.documentsLock := congrArg Shelf.lock same
  simp [Client.shelf, Client.releaseDocuments, Client.setVersion, Shelf.without, documents, lock]

private theorem dropDocument_shelf
    {client client' : Client} (same : client'.shelf = client.shelf) (uri : String)
    (task : TaskId) :
    ((client'.dropDocument uri).releaseDocuments task).shelf =
      ⟨client.shelf.without uri, client.documentsLock.release task⟩ := by
  have documents : client'.documents = client.documents := congrArg Shelf.documents same
  have lock : client'.documentsLock = client.documentsLock := congrArg Shelf.lock same
  simp [Client.shelf, Client.releaseDocuments, Client.dropDocument, Shelf.without, documents,
    lock]

theorem Opening.step_documentMoves (document : Opening) :
    (document.step turn client).DocumentMoves turn client mayDrop document.documentUse
      documentUse := by
  cases document with
  | starting path =>
      simp only [step]
      split
      · exact .rests .apart
      · exact .asks .exclusive
  | locking path uri =>
      simp only [step]
      split
      · rename_i held
        split
        · exact .leaves rfl
        · rename_i absent
          exact .looksToOpen held (by simpa using absent)
      · trivial
  | reading path uri =>
      simp only [step]
      split
      · exact .leaves rfl
      · exact .tellsOpening _
  | sending uri frame =>
      apply frame.telling_moves turn client mayDrop
      · intro inner
        rfl
      · intro client' same
        exact setVersion_shelf same uri 1 turn.task
      · intro client' error same
        exact release_shelf same turn.task

theorem Changing.step_documentMoves (document : Changing) :
    (document.step turn client).DocumentMoves turn client mayDrop document.documentUse
      documentUse := by
  cases document with
  | starting path =>
      simp only [step]
      split
      · exact .rests .apart
      · exact .asks .exclusive
  | locking path uri =>
      simp only [step]
      split
      · rename_i held
        split
        · exact .leaves rfl
        · rename_i version present
          exact .looksToChange held present
      · trivial
  | reading path uri version =>
      simp only [step]
      split
      · exact .leaves rfl
      · exact .tellsChange _
  | sending uri version frame =>
      apply frame.telling_moves turn client mayDrop
      · intro inner
        rfl
      · intro client' same
        exact setVersion_shelf same uri version turn.task
      · intro client' error same
        exact release_shelf same turn.task

theorem ClosingDocument.step_documentMoves (document : ClosingDocument) :
    (document.step turn client).DocumentMoves turn client mayDrop document.documentUse
      documentUse := by
  cases document with
  | starting uri drop => exact .asks .exclusive
  | locking uri drop =>
      simp only [step]
      split
      · rename_i held
        split
        · rename_i present
          exact .looksToClose _ held present
        · exact .leaves rfl
      · trivial
  | sending uri drop frame =>
      apply frame.telling_moves turn client mayDrop
      · intro inner
        rfl
      · intro client' same
        exact dropDocument_shelf same uri turn.task
      · intro client' error same
        cases drop with
        | true => exact dropDocument_shelf same uri turn.task
        | false => exact release_shelf same turn.task

theorem ClosingAll.step_documentMoves (stage : ClosingAll) :
    (stage.step turn client).DocumentMoves turn client mayDrop stage.documentUse
      documentUse := by
  cases stage with
  | starting => exact .asks .shared
  | listing =>
      simp only [step]
      split
      · exact .leaves rfl
      · trivial
  | next left closed =>
      cases left with
      | nil => exact .rests .apart
      | cons uri left => exact .rests .apart
  | closing document left closed =>
      apply (document.step_documentMoves turn client mayDrop).lift
      · intro inner
        rfl
      · intro client' result
        rcases result with error | sent
        · exact ⟨rfl, rfl⟩
        · cases sent <;> exact ⟨rfl, rfl⟩

theorem Preloading.step_documentMoves (files : Preloading) :
    (files.step turn client).DocumentMoves turn client mayDrop files.documentUse
      documentUse := by
  cases files with
  | starting family workspace => cases family <;> exact .rests .apart
  | finding workspace => exact .rests .apart
  | next left => cases left <;> exact .rests .apart
  | opening document left =>
      apply (document.step_documentMoves turn client mayDrop).lift
      · intro inner
        rfl
      · intro client' result
        exact ⟨rfl, rfl⟩

theorem Initializing.step_documentMoves (stage : Initializing) :
    (stage.step turn client).DocumentMoves turn client mayDrop
      (Operation.openSession stage).documentUse
      fun stage => (Operation.openSession stage).documentUse := by
  cases stage with
  | starting workspace custom =>
      simp only [step]
      split
      · exact .rests .apart
      · exact .rests .apart
  | preparing workspace custom =>
      simp only [step, prepare]
      split
      · exact .rests .apart
      · exact .rests .apart
  | registering workspace rootUri options registered =>
      simp only [step, register]
      split
      · exact .rests .apart
      · exact .rests .apart
  | calling workspace call =>
      apply (Step.DocumentMoves.of_fixes
        (TimedCall.step_fixes ignoresOutlet_shelf ignoresCalls_shelf call)).lift
      · intro inner
        rfl
      · intro client' answer
        unfold announce
        split
        · exact ⟨rfl, rfl⟩
        · split
          · exact ⟨rfl, rfl⟩
          · exact ⟨rfl, rfl⟩
  | announcing workspace result frame =>
      apply (Step.DocumentMoves.of_fixes (frame.step_fixes ignoresOutlet_shelf)).lift
      · intro inner
        rfl
      · intro client' sent
        cases sent <;> exact ⟨rfl, rfl⟩
  | settling workspace result =>
      simp only [step]
      split
      · exact .rests .apart
      · exact .rests .apart
  | preloading result files =>
      apply (files.step_documentMoves turn client mayDrop).lift
      · intro inner
        rfl
      · intro client' loaded
        cases loaded with
        | ok value => rfl
        | error error => exact ⟨rfl, rfl⟩
  | failing error => exact .rests .apart

private theorem dropped_or_leaves
    {use : DocumentUse} {turn : Turn} {client : Client} {mayDrop : Prop}
    (allowed : use.isTelling = true → mayDrop) :
    DocumentMove turn client mayDrop use
      { client.shelf with lock := client.documentsLock.release turn.task } .apart := by
  cases telling : use.isTelling with
  | true => exact .dropped (allowed telling)
  | false => exact .leaves telling

/-- An operation on documents that is given up gives their lock back. -/
private theorem Opening.abandon_documentMove
    (document : Opening) (allowed : document.documentUse.isTelling = true → mayDrop) :
    DocumentMove turn client mayDrop document.documentUse
      (document.abandon turn.task client).shelf .apart := by
  cases document with
  | starting path => exact .rests .apart
  | locking path uri => exact dropped_or_leaves allowed
  | reading path uri => exact dropped_or_leaves allowed
  | sending uri frame => exact dropped_or_leaves allowed

private theorem Changing.abandon_documentMove
    (document : Changing) (allowed : document.documentUse.isTelling = true → mayDrop) :
    DocumentMove turn client mayDrop document.documentUse
      (document.abandon turn.task client).shelf .apart := by
  cases document with
  | starting path => exact .rests .apart
  | locking path uri => exact dropped_or_leaves allowed
  | reading path uri version => exact dropped_or_leaves allowed
  | sending uri version frame => exact dropped_or_leaves allowed

private theorem ClosingDocument.abandon_documentMove
    (document : ClosingDocument) (allowed : document.documentUse.isTelling = true → mayDrop) :
    DocumentMove turn client mayDrop document.documentUse
      (document.abandon turn.task client).shelf .apart := by
  cases document with
  | starting uri drop => exact .rests .apart
  | locking uri drop => exact dropped_or_leaves allowed
  | sending uri drop frame => exact dropped_or_leaves allowed

private theorem ClosingAll.abandon_documentMove
    (stage : ClosingAll) (allowed : stage.documentUse.isTelling = true → mayDrop) :
    DocumentMove turn client mayDrop stage.documentUse
      (stage.abandon turn.task client).shelf .apart := by
  cases stage with
  | starting => exact .rests .apart
  | listing => exact dropped_or_leaves allowed
  | next left closed => exact .rests .apart
  | closing document left closed =>
      exact document.abandon_documentMove turn client mayDrop allowed

private theorem Preloading.abandon_documentMove
    (files : Preloading) (allowed : files.documentUse.isTelling = true → mayDrop) :
    DocumentMove turn client mayDrop files.documentUse
      (files.abandon turn.task client).shelf .apart := by
  cases files with
  | opening document left => exact document.abandon_documentMove turn client mayDrop allowed
  | _ => exact .rests .apart

theorem Closing.step_documentMoves
    (stage : Closing)
    (allowed : (Operation.close stage).dropsNotice turn client = true → mayDrop) :
    (stage.step turn client).DocumentMoves turn client mayDrop
      (Operation.close stage).documentUse
      fun stage => (Operation.close stage).documentUse := by
  cases stage with
  | starting =>
      simp only [step]
      split
      · exact .rests .apart
      · exact .rests .apart
  | closingFiles files =>
      have inside :
          (Timed.step (ClosingAll.step turn) (ClosingAll.abandon turn.task)
            (.timedOut "textDocument/didClose") client files).DocumentMoves turn client mayDrop
              files.stage.documentUse fun files => files.stage.documentUse := by
        apply Timed.step_holds
        · rintro limit stage rfl
          exact .rests _
        · rintro deadline stage rfl
          exact stage.step_documentMoves turn client mayDrop
        · rintro deadline stage rfl blocked _
          apply stage.abandon_documentMove turn client mayDrop
          intro telling
          apply allowed
          simp [Operation.dropsNotice, telling, blocked]
      apply inside.lift
      · intro inner
        rfl
      · intro client' result
        exact ⟨rfl, rfl⟩
  | shuttingDown call =>
      apply (Step.DocumentMoves.of_fixes
        (TimedCall.step_fixes ignoresOutlet_shelf ignoresCalls_shelf call)).lift
      · intro inner
        rfl
      · intro client' result
        exact ⟨rfl, rfl⟩
  | exiting notice =>
      apply (Step.DocumentMoves.of_fixes (Exiting.step_fixes ignoresOutlet_shelf notice)).lift
      · intro inner
        rfl
      · intro client' result
        exact ⟨rfl, rfl⟩
  | closingInput input =>
      have inside :
          (Timed.step (ClosingInput.step turn) (ClosingInput.abandon turn.task)
            (.timedOut "exit") client input).Fixes Client.shelf client :=
        .timed (fun stage => stage.step_fixes ignoresOutlet_shelf) fun stage =>
          stage.abandon_fixes ignoresOutlet_shelf
      apply (Step.DocumentMoves.of_fixes inside).lift
      · intro inner
        rfl
      · intro client' result
        exact ⟨rfl, rfl⟩
  | reaping =>
      simp only [step]
      split
      · exact .rests .apart
      · exact .rests .apart
  | awaiting deadline =>
      simp only [step]
      split
      · exact .rests .apart
      · exact .rests .apart
      · split
        · exact .rests .apart
        · trivial
  | settling status => exact .rests .apart

namespace Operation

/-- Every step of an operation is a move on the documents. -/
theorem step_documentMoves
    (operation : Operation) (allowed : operation.dropsNotice turn client = true → mayDrop) :
    (operation.step turn client).DocumentMoves turn client mayDrop operation.documentUse
      documentUse := by
  cases operation with
  | openSession stage =>
      exact (stage.step_documentMoves turn client mayDrop).map fun _ => rfl
  | call stage =>
      exact (Step.DocumentMoves.of_fixes
        (stage.step_fixes ignoresOutlet_shelf ignoresCalls_shelf)).map fun _ => rfl
  | timedCall stage =>
      exact (Step.DocumentMoves.of_fixes
        (TimedCall.step_fixes ignoresOutlet_shelf ignoresCalls_shelf stage)).map fun _ => rfl
  | notify frame =>
      exact (Step.DocumentMoves.of_fixes
        (frame.step_fixes ignoresOutlet_shelf)).map fun _ => rfl
  | openFile stage => exact (stage.step_documentMoves turn client mayDrop).map fun _ => rfl
  | changeFile stage => exact (stage.step_documentMoves turn client mayDrop).map fun _ => rfl
  | closeFile path =>
      simp only [step]
      split
      · exact .rests .apart
      · exact .rests .apart
  | closeDocument stage =>
      exact (stage.step_documentMoves turn client mayDrop).map fun _ => rfl
  | closeAll stage => exact (stage.step_documentMoves turn client mayDrop).map fun _ => rfl
  | waitReady stage => exact (Step.DocumentMoves.of_fixes stage.step_fixes).map fun _ => rfl
  | shutdown stage =>
      exact (Step.DocumentMoves.of_fixes
        (TimedCall.step_fixes ignoresOutlet_shelf ignoresCalls_shelf stage)).map fun _ => rfl
  | exit notice =>
      exact (Step.DocumentMoves.of_fixes
        (Exiting.step_fixes ignoresOutlet_shelf notice)).map fun _ => rfl
  | close stage =>
      exact (stage.step_documentMoves turn client mayDrop allowed).map fun _ => rfl
  | preload stage => exact (stage.step_documentMoves turn client mayDrop).map fun _ => rfl
  | answer stage =>
      exact (Step.DocumentMoves.of_fixes
        (stage.step_fixes ignoresOutlet_shelf fun _ _ => rfl)).map fun _ => rfl

/-- An operation that is given up is dropped wherever it stands. -/
theorem abandon_documentMove
    (operation : Operation) (allowed : operation.documentUse.isTelling = true → mayDrop) :
    DocumentMove turn client mayDrop operation.documentUse
      (operation.abandon turn.task client).shelf .apart := by
  have apart {client' : Client} (same : client'.shelf = client.shelf) :
      DocumentMove turn client mayDrop .apart client'.shelf .apart := by
    rw [same]
    exact .rests .apart
  cases operation with
  | openSession stage =>
      cases stage with
      | calling workspace timed =>
          exact apart (timed.stage.abandon_fixes ignoresOutlet_shelf ignoresCalls_shelf)
      | announcing workspace result frame =>
          exact apart (frame.abandon_fixes ignoresOutlet_shelf)
      | preloading result files =>
          exact files.abandon_documentMove turn client mayDrop allowed
      | _ => exact .rests .apart
  | call stage => exact apart (stage.abandon_fixes ignoresOutlet_shelf ignoresCalls_shelf)
  | timedCall timed =>
      exact apart (timed.stage.abandon_fixes ignoresOutlet_shelf ignoresCalls_shelf)
  | notify frame => exact apart (frame.abandon_fixes ignoresOutlet_shelf)
  | openFile stage => exact stage.abandon_documentMove turn client mayDrop allowed
  | changeFile stage => exact stage.abandon_documentMove turn client mayDrop allowed
  | closeFile path => exact .rests .apart
  | closeDocument stage => exact stage.abandon_documentMove turn client mayDrop allowed
  | closeAll stage => exact stage.abandon_documentMove turn client mayDrop allowed
  | waitReady stage => exact .rests .apart
  | shutdown timed =>
      exact apart (timed.stage.abandon_fixes ignoresOutlet_shelf ignoresCalls_shelf)
  | exit notice => exact apart (notice.stage.abandon_fixes ignoresOutlet_shelf)
  | close stage =>
      cases stage with
      | closingFiles files => exact files.stage.abandon_documentMove turn client mayDrop allowed
      | shuttingDown timed =>
          exact apart (timed.stage.abandon_fixes ignoresOutlet_shelf ignoresCalls_shelf)
      | exiting notice => exact apart (notice.stage.abandon_fixes ignoresOutlet_shelf)
      | closingInput input => exact apart (input.stage.abandon_fixes ignoresOutlet_shelf)
      | _ => exact .rests .apart
  | preload stage => exact stage.abandon_documentMove turn client mayDrop allowed
  | answer stage => exact apart (stage.abandon_fixes ignoresOutlet_shelf)

/-- An operation begins apart from the documents. -/
theorem documentUse_begin (command : Command) :
    (command.begin client).documentUse = .apart := by
  cases command <;> rfl

end Operation

end LanguageClient
