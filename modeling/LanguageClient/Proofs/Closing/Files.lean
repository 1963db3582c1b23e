import LanguageClient.Proofs.Closing.Course
import LanguageClient.Proofs.Closing.Silence
import LanguageClient.Proofs.Documents.Synchronization

/-!
# Documents behind the closing

The closing of a client looks at the table of the documents once, and takes every document
that it finds there from the table.  What is open behind it was opened since, or was left
when the time to close the documents was over.
-/

namespace LanguageClient

/-! ## Opening a document -/

/-- A document is open behind a transition that was not open before. -/
def Transition.Opens (transition : Transition) (uri : String) : Prop :=
  uri ∉ transition.before.client.uris ∧ uri ∈ transition.after.client.uris

/-- A document gets open only by the record of a notice. -/
theorem DocumentMove.telling_of_opens
    {turn : Turn} {client : Client} {mayDrop : Prop} {before after : DocumentUse} {shelf : Shelf}
    {uri : String} (move : DocumentMove turn client mayDrop before shelf after)
    (absent : client.shelf.version? uri = none) (present : (shelf.version? uri).isSome = true) :
    ∃ event drop message, before = .telling uri event drop (.writing message []) := by
  have notAbsent (same : shelf.version? uri = client.shelf.version? uri) : False := by
    rw [same, absent] at present
    cases present
  cases move with
  | @commits uri' event drop frame client' step =>
      obtain ⟨message, rfl⟩ := Sending.eq_of_finished step
      by_cases same : uri = uri'
      · exact ⟨event, drop, message, by rw [same]⟩
      · refine (notAbsent ?_).elim
        rw [Shelf.version?_record, if_neg same]
  | @fails uri' event drop frame client' error step =>
      cases drop with
      | false => exact (notAbsent rfl).elim
      | true =>
          have without := client.shelf.version?_without uri' uri
            (client.documentsLock.release turn.task)
          rw [absent, ite_self] at without
          exact absurd present (by rw [if_pos rfl, without]; exact Bool.false_ne_true)
  | _ => exact (notAbsent rfl).elim

/-- A document is opened only by the record of the notice that opens it. -/
theorem Run.records_of_opens
    {client : Client} {session after : Session} {past : List Transition} {action : Action}
    (run : Run (Session.connect client) past session) (noLock : client.documentsLock = .free)
    (applied : session.apply action = some after) {uri : String}
    (opens : Transition.Opens ⟨session, action, after⟩ uri) :
    Transition.Records ⟨session, action, after⟩ uri (.opened 1) := by
  obtain ⟨notOpen, isOpen⟩ := opens
  have absent : session.client.shelf.version? uri = none :=
    Option.not_isSome_iff_eq_none.mp fun present => notOpen (Client.mem_uris_iff.mpr present)
  have present : (after.client.shelf.version? uri).isSome = true := Client.mem_uris_iff.mp isOpen
  have effect := Session.effect_of_apply applied
  cases effect.documents run.hasFreshTask (fun _ => True.intro) with
  | quiet noTask sameShelf sameUse =>
      rw [sameShelf, absent] at present
      cases present
  | moved turn isAction move others =>
      rcases isAction with advances | ⟨gives, _⟩
      · obtain ⟨event, drop, message, tells⟩ := move.telling_of_opens absent present
        have leads := (run.shelfInvariant noLock).leads turn.task uri event (by rw [tells]; rfl)
        have follows := leads.2
        rw [absent] at follows
        cases event with
        | opened version =>
            obtain ⟨_, rfl⟩ := follows
            exact ⟨turn, drop, message, advances, tells⟩
        | changed version => cases follows
        | closed => cases follows
      · -- Who gives up leaves the table as it is.
        subst gives
        cases effect with
        | @abandoned task operation found noAnswer =>
            have sameUris :
                (operation.abandon turn.task session.client).uris = session.client.uris :=
              operation.abandon_fixes (fun _ _ _ _ => rfl) (fun _ _ => rfl) fun _ _ => rfl
            exact absurd (sameUris ▸ isOpen) notOpen
        | handled handlers noTask => cases noTask

/-! ## Steps of closing the documents -/

namespace ClosingDocument

def uri : ClosingDocument → String
  | .starting uri _ | .locking uri _ | .sending uri _ _ => uri

/-- Whether the document leaves the table even when the server cannot be told. -/
def drops : ClosingDocument → Bool
  | .starting _ drop | .locking _ drop | .sending _ drop _ => drop

theorem step_leaves
    (turn : Turn) (client : Client) {document : ClosingDocument} (drops : document.drops = true) :
    (document.step turn client).Holds
      (fun _ next => next.uri = document.uri ∧ next.drops = true)
      (fun client' _ => document.uri ∉ client'.uris) := by
  have gone (client : Client) (uri : String) :
      uri ∉ ((client.dropDocument uri).releaseDocuments turn.task).uris := by
    have sameUris : ((client.dropDocument uri).releaseDocuments turn.task).uris =
        (client.dropDocument uri).uris := rfl
    simp [sameUris, Client.uris_dropDocument]
  cases document with
  | starting uri drop => exact ⟨rfl, drops⟩
  | locking uri drop =>
      simp only [step]
      split
      · split
        · exact ⟨rfl, drops⟩
        · rename_i absent
          exact fun isOpen => absent (Client.mem_uris_iff.mp isOpen)
      · trivial
  | sending uri drop frame =>
      obtain rfl : drop = true := drops
      simp only [step, Step.holds_lift]
      cases frame.step turn client with
      | blocked => trivial
      | running client' frame' => exact ⟨rfl, rfl⟩
      | finished client' result =>
          rcases result with error | sent
          · exact gone client' uri
          · exact gone client' uri

end ClosingDocument

namespace ClosingAll

def left (client : Client) : ClosingAll → List String
  | .starting | .listing => client.uris
  | .next left _ => left
  | .closing document left _ => document.uri :: left

/-- Whether the documents that are to be closed are listed, and each of them leaves the table
even when the server cannot be told. -/
def DropsListed : ClosingAll → Prop
  | .starting | .listing => False
  | .next _ _ => True
  | .closing document _ _ => document.drops = true

/-- Of the listed documents those that are open stay to be closed. -/
theorem step_leaves
    {turn : Turn} {client : Client} {stage : ClosingAll} (listed : stage.DropsListed) :
    (stage.step turn client).Holds
      (fun client' next => next.DropsListed ∧
        ∀ uri, uri ∈ stage.left client → uri ∈ client'.uris → uri ∈ next.left client')
      (fun client' _ => ∀ uri, uri ∈ stage.left client → uri ∉ client'.uris) := by
  cases stage with
  | starting | listing => cases listed
  | next left closed =>
      cases left with
      | nil => exact fun uri isLeft => nomatch isLeft
      | cons uri left => exact ⟨rfl, fun uri isLeft _ => isLeft⟩
  | closing document left closed =>
      have others {client' : Client} (gone : document.uri ∉ client'.uris) (uri : String)
          (isLeft : uri ∈ document.uri :: left) (isOpen : uri ∈ client'.uris) : uri ∈ left := by
        rcases List.mem_cons.mp isLeft with rfl | isOther
        · exact absurd isOpen gone
        · exact isOther
      have inside := document.step_leaves turn client listed
      simp only [step, Step.holds_lift]
      apply inside.mono
      · rintro client' document' ⟨sameUri, drops⟩
        refine ⟨drops, fun uri isLeft _ => ?_⟩
        simpa only [ClosingAll.left, sameUri] using isLeft
      · intro client' result gone
        rcases result with error | sent
        · exact ⟨trivial, others gone⟩
        · cases sent <;> exact ⟨trivial, others gone⟩

/-- A task that has not listed the documents yet goes on to do so. -/
theorem of_unlisted
    {turn : Turn} {client client' : Client} {stage next : ClosingAll}
    (unlisted : stage = .starting ∨ stage = .listing)
    (step : stage.step turn client = .running client' next) :
    next = .listing ∨
      stage = .listing ∧ next = .next client.uris 0 ∧ client'.uris = client.uris := by
  rcases unlisted with rfl | rfl
  · cases step
    exact Or.inl rfl
  · simp only [ClosingAll.step] at step
    split at step
    · cases step
      exact Or.inr ⟨rfl, rfl, rfl⟩
    · cases step

/-- It has not come to an end. -/
theorem not_finished_of_unlisted
    {turn : Turn} {client client' : Client} {stage : ClosingAll} {result : Except ClientError Nat}
    (unlisted : stage = .starting ∨ stage = .listing) :
    stage.step turn client ≠ .finished client' result := by
  rcases unlisted with rfl | rfl
  · exact nofun
  · intro step
    simp only [ClosingAll.step] at step
    split at step <;> cases step

/-- What is left to be closed is settled when it is listed. -/
theorem left_of_listed
    {stage : ClosingAll} (listed : stage.DropsListed) (client client' : Client) :
    stage.left client' = stage.left client := by
  cases stage with
  | starting | listing => cases listed
  | next | closing => rfl

/-- Before that it is all that is open. -/
theorem left_of_unlisted
    {stage : ClosingAll} (unlisted : stage = .starting ∨ stage = .listing) (client : Client) :
    stage.left client = client.uris := by
  rcases unlisted with rfl | rfl <;> rfl

end ClosingAll

/-! ## The account of the documents -/

/-- The closing of a client at its way through the documents. -/
def Operation.closingFiles (deadline : Nat) (stage : ClosingAll) : Operation :=
  .close (.closingFiles (.underway deadline stage))

def Transition.Lists (transition : Transition) (closer : TaskId) : Prop :=
  ∃ portion deadline, transition.action = .advance closer portion ∧
    transition.before.task? closer = some (.closingFiles deadline .listing) ∧
      transition.after.task? closer =
        some (.closingFiles deadline (.next transition.before.client.uris 0))

/-- The time to close the documents is over when some of them are left. -/
def Transition.CutsShort
    (transition : Transition) (closer : TaskId) (left : List String) : Prop :=
  ∃ portion deadline stage, transition.action = .advance closer portion ∧
    transition.before.task? closer = some (.closingFiles deadline stage) ∧
      deadline ≤ transition.before.client.now ∧
        stage.step ⟨closer, portion⟩ transition.before.client = .blocked ∧
          left = stage.left transition.before.client

/-- Every document that is open is one that the closing of the client still has to close, or
was opened behind its look at the table, or was left when its time was over. -/
def AccountsForOpen
    (closer : TaskId) (past : List Transition) (client : Client) (pending : List String) : Prop :=
  ∃ before looked since, past = before ++ looked :: since ∧
    (looked.Lists closer ∨ ∃ left, looked.CutsShort closer left) ∧
      ∀ uri, uri ∈ client.uris →
        uri ∈ pending ∨ (∃ opens, opens ∈ since ∧ opens.Opens uri) ∨
          ∃ cut left, cut ∈ past ∧ cut.CutsShort closer left ∧ uri ∈ left

/-- Behind one more transition the account is as good, if no document is forgotten. -/
theorem AccountsForOpen.concat
    {closer : TaskId} {past : List Transition} {pending pending' : List String}
    (transition : Transition)
    (accounts : AccountsForOpen closer past transition.before.client pending)
    (stays : ∀ uri, uri ∈ pending → uri ∈ transition.after.client.uris →
      uri ∈ pending' ∨ ∃ left, transition.CutsShort closer left ∧ uri ∈ left) :
    AccountsForOpen closer (past ++ [transition]) transition.after.client pending' := by
  obtain ⟨before, looked, since, rfl, looks, explained⟩ := accounts
  refine ⟨before, looked, since ++ [transition], by simp, looks, fun uri isOpen => ?_⟩
  by_cases wasOpen : uri ∈ transition.before.client.uris
  · rcases explained uri wasOpen with
      isPending | ⟨opens, member, isOpened⟩ | ⟨cut, left, member, cuts, isLeft⟩
    · rcases stays uri isPending isOpen with stillPending | ⟨left, cuts, isLeft⟩
      · exact Or.inl stillPending
      · exact Or.inr (Or.inr ⟨transition, left, by simp, cuts, isLeft⟩)
    · exact Or.inr (Or.inl ⟨opens, List.mem_append_left _ member, isOpened⟩)
    · exact Or.inr (Or.inr ⟨cut, left, List.mem_append_left _ member, cuts, isLeft⟩)
  · -- What was not open before is opened with this very transition.
    exact Or.inr (Or.inl ⟨transition, by simp, wasOpen, isOpen⟩)

/-- Before the closing has listed the documents there is nothing to account for; then all is
accounted for up to those that are left, and behind the closing of the documents all is. -/
inductive FilesAccount (closer : TaskId) (past : List Transition) (client : Client) : Closing → Prop
  | unlisted {files : Timed ClosingAll} :
      files.stage = .starting ∨ files.stage = .listing →
      FilesAccount closer past client (.closingFiles files)
  | listed {files : Timed ClosingAll} :
      files.stage.DropsListed →
      AccountsForOpen closer past client (files.stage.left client) →
      FilesAccount closer past client (.closingFiles files)
  | finished {stage : Closing} :
      1 < stage.phase →
      AccountsForOpen closer past client [] →
      FilesAccount closer past client stage

namespace FilesAccount

variable {closer : TaskId} {past : List Transition} (transition : Transition)
  {stage next : Closing}

/-- What others do leaves the account as good as it was. -/
theorem kept (account : FilesAccount closer past transition.before.client stage) :
    FilesAccount closer (past ++ [transition]) transition.after.client stage := by
  cases account with
  | unlisted unlisted => exact .unlisted unlisted
  | listed listed accounts =>
      refine .listed listed (accounts.concat transition fun uri isLeft _ => Or.inl ?_)
      rwa [ClosingAll.left_of_listed listed transition.before.client]
  | finished behind accounts =>
      exact .finished behind (accounts.concat transition fun uri isLeft => nomatch isLeft)

/-- The closing of the documents that is over where it has to wait is cut short. -/
private theorem cutsShort
    {files : Timed ClosingAll} {portion deadline : Nat}
    (advances : transition.action = .advance closer portion)
    (found : transition.before.task? closer = some (.close (.closingFiles files)))
    (same : files = .underway deadline files.stage)
    (blocked : files.stage.step ⟨closer, portion⟩ transition.before.client = .blocked)
    (due : deadline ≤ transition.before.client.now) :
    transition.CutsShort closer (files.stage.left transition.before.client) := by
  refine ⟨portion, deadline, files.stage, advances, ?_, due, blocked, rfl⟩
  rw [found, Operation.closingFiles, ← same]

theorem step
    {portion : Nat} (account : FilesAccount closer past transition.before.client stage)
    (advances : transition.action = .advance closer portion)
    (found : transition.before.task? closer = some (.close stage))
    (found' : transition.after.task? closer = some (.close next))
    (step : stage.step ⟨closer, portion⟩ transition.before.client =
      .running transition.after.client next) :
    FilesAccount closer (past ++ [transition]) transition.after.client next := by
  cases account with
  | finished behind accounts =>
      refine .finished ?_ (accounts.concat transition fun uri isLeft => nomatch isLeft)
      exact behind.trans_le (stage.step_phase.of_running step)
  | @unlisted files unlisted =>
      rcases Step.lift_eq_running_iff.mp step with ⟨files', inside, rfl⟩ | ⟨_, _, ended, behind⟩
      · rcases Timed.of_step_running inside with
          ⟨limit, isWaiting⟩ | ⟨deadline, same, isNext, stepped⟩
        · rw [isWaiting] at unlisted
          exact .unlisted unlisted
        · rcases ClosingAll.of_unlisted unlisted stepped with listing | ⟨listing, lists, sameUris⟩
          · exact .unlisted (Or.inr listing)
          · rw [same, listing] at found
            rw [isNext, lists] at found'
            refine .listed (lists ▸ trivial) ⟨past, transition, [], rfl,
              Or.inl ⟨portion, deadline, advances, found, found'⟩, fun uri isOpen => Or.inl ?_⟩
            rw [lists]
            exact sameUris ▸ isOpen
      · cases behind
        rcases Timed.of_step_finished ended with
          finished | ⟨deadline, same, blocked, due, isAbandoned, _⟩
        · exact absurd finished (ClosingAll.not_finished_of_unlisted unlisted)
        · have cuts := cutsShort transition advances found same blocked due
          have sameUris : transition.after.client.uris = transition.before.client.uris := by
            rw [isAbandoned]
            exact files.stage.abandon_fixes (fun _ _ _ _ => rfl) fun _ _ => rfl
          refine .finished (by simp only [Closing.phase]; omega) ⟨past, transition, [], rfl,
            Or.inr ⟨_, cuts⟩, fun uri isOpen =>
              Or.inr (Or.inr ⟨transition, _, by simp, cuts, ?_⟩)⟩
          rw [ClosingAll.left_of_unlisted unlisted, ← sameUris]
          exact isOpen
  | @listed files listed accounts =>
      rcases Step.lift_eq_running_iff.mp step with ⟨files', inside, rfl⟩ | ⟨_, _, ended, behind⟩
      · rcases Timed.stage_of_step_running inside with ⟨_, sameStage⟩ | stepped
        · refine .listed (sameStage ▸ listed)
            (accounts.concat transition fun uri isLeft _ => Or.inl ?_)
          rwa [sameStage, ClosingAll.left_of_listed listed transition.before.client]
        · obtain ⟨listed', stays⟩ := (ClosingAll.step_leaves listed).of_running stepped
          exact .listed listed' (accounts.concat transition fun uri isLeft isOpen =>
            Or.inl (stays uri isLeft isOpen))
      · cases behind
        refine .finished (by simp only [Closing.phase]; omega)
          (accounts.concat transition fun uri isLeft isOpen => ?_)
        -- By itself the closing of the documents ends only when none of them is left.
        rcases Timed.of_step_finished ended with finished | ⟨deadline, same, blocked, due, _⟩
        · exact absurd isOpen ((ClosingAll.step_leaves listed).of_finished finished uri isLeft)
        · exact Or.inr ⟨_, cutsShort transition advances found same blocked due, isLeft⟩

end FilesAccount

namespace Run

variable {client : Client} {session : Session} {past : List Transition}

/-- While a client is being closed there is an account of its documents. -/
theorem filesAccount
    (run : Run (Session.connect client) past session) {closer : TaskId} {stage : Closing}
    (found : session.task? closer = some (.close stage)) (beyond : stage ≠ .starting) :
    FilesAccount closer past session.client stage := by
  induction run generalizing stage with
  | refl => cases found
  | @step past session after action run applied inductionHypothesis =>
      rcases (Session.effect_of_apply applied).closing_cases run.hasFreshTask found with
        same | first | ⟨portion, before, isAction, found', inside⟩
      · exact (inductionHypothesis same beyond).kept ⟨session, action, after⟩
      · exact absurd first beyond
      · by_cases first : before = .starting
        · subst first
          simp only [Closing.step] at inside
          split at inside
          · cases inside
          · obtain ⟨_, rfl⟩ := Step.running.inj inside
            exact .unlisted (Or.inl rfl)
        · exact (inductionHypothesis found' first).step ⟨session, action, after⟩
            isAction found' found inside

/-- Behind its look at the table the closing of a client has passed the gate. -/
theorem isClosing_of_looked
    {before since : List Transition} {looked opens : Transition} {closer : TaskId}
    (run : Run (Session.connect client) (before ++ looked :: since) session)
    (looks : looked.Lists closer ∨ ∃ left, looked.CutsShort closer left)
    (member : opens ∈ since) : opens.before.client.state.isClosing = true := by
  obtain ⟨deadline, stage, found⟩ : ∃ deadline stage,
      looked.before.task? closer = some (.closingFiles deadline stage) := by
    rcases looks with ⟨_, deadline, _, found, _⟩ | ⟨_, _, deadline, stage, _, found, _⟩
    · exact ⟨deadline, .listing, found⟩
    · exact ⟨deadline, stage, found⟩
  have passed : closer ∈ closers before :=
    run.before_transition.1.mem_closers found (by simp)
  obtain ⟨middle, rest, _, runBefore, _⟩ := run.before_later member
  exact runBefore.isClosing_of_closers (closers_subset before _ passed)

/-- No document is opened on a stream that was closed with a transition. -/
theorem not_opens_of_closed
    {earlier later : List Transition} {transition : Transition}
    (run : Run (Session.connect client) (earlier ++ transition :: later) session)
    (fresh : client.HasFreshOutlet) (closed : transition.after.client.isInputOpen = false) :
    (∀ latest, latest ∈ later → ∀ uri, ¬ latest.Opens uri) ∧
      ∀ uri, uri ∈ session.client.uris → uri ∈ transition.after.client.uris := by
  have notOpened {past : List Transition} {session after : Session} {action : Action}
      (run : Run (Session.connect client) past session)
      (closed : session.client.isInputOpen = false) (applied : session.apply action = some after)
      (uri : String) (isOpen : uri ∈ after.client.uris) : uri ∈ session.client.uris := by
    by_contra absent
    rw [Client.mem_uris_iff, Option.not_isSome_iff_eq_none] at absent
    rw [Client.mem_uris_iff, run.version?_of_closed fresh closed applied absent] at isOpen
    cases isOpen
  constructor
  · rintro latest member uri ⟨absent, isOpen⟩
    obtain ⟨middle, rest, _, runBefore, applied⟩ := run.before_later member
    exact absent (notOpened runBefore (runBefore.of_closed fresh closed).1 applied uri isOpen)
  · refine (run.from_transition
      (motive := fun _ session => session.client.isInputOpen = false ∧
        ∀ uri, uri ∈ session.client.uris → uri ∈ transition.after.client.uris)
      ⟨closed, fun _ isOpen => isOpen⟩ ?_).2
    rintro past session action after run applied ⟨closed, stays⟩
    exact ⟨(run.quiet_of_closed fresh applied closed).2.2, fun uri isOpen =>
      stays uri (notOpened run closed applied uri isOpen)⟩

/-- When the closing of a client returns there is an account of all documents, and there is
one ever after. -/
theorem accounts_of_returnsClosed
    {earlier later : List Transition} {returned : Transition} {closer : TaskId}
    (run : Run (Session.connect client) (earlier ++ returned :: later) session)
    (returns : returned.ReturnsClosed closer) :
    AccountsForOpen closer (earlier ++ returned :: later) session.client [] := by
  obtain ⟨runBefore, applied⟩ := run.before_transition
  obtain ⟨status, found, _⟩ := returns.settles applied
  have account : AccountsForOpen closer earlier returned.before.client [] := by
    cases runBefore.filesAccount found (by simp) with
    | finished behind accounts => exact accounts
  refine run.from_transition
    (motive := fun past session => AccountsForOpen closer past session.client [])
    (account.concat returned fun uri isLeft => nomatch isLeft) ?_
  intro past session action after run applied account
  exact account.concat ⟨session, action, after⟩ fun uri isLeft => nomatch isLeft

end Run

theorem Client.mem_uris_of_mem_openDocuments
    {client : Client} {document : String × Int} (member : document ∈ client.openDocuments) :
    document.1 ∈ client.uris :=
  List.mem_map_of_mem (List.mem_mergeSort.mp member)

theorem Client.openDocuments_eq_nil
    {client : Client} (noneOpen : ∀ uri, uri ∉ client.uris) : client.openDocuments = [] :=
  List.eq_nil_iff_forall_not_mem.mpr fun document member =>
    noneOpen document.1 (mem_uris_of_mem_openDocuments member)

/-- What is open when the closing of a client has returned, and ever after. -/
structure ClosesDocuments
    (closer : TaskId) (earlier : List Transition) (returned : Transition)
    (later : List Transition) (session : Session) : Prop where
  /-- The closing looked at the table of the documents, or its time was over before it could.
  Every document that is open was opened behind that, or was left to be closed when the time
  to close the documents was over. -/
  accounted : ∃ before looked since, earlier ++ returned :: later = before ++ looked :: since ∧
    (looked.Lists closer ∨ ∃ left, looked.CutsShort closer left) ∧
      ∀ document, document ∈ session.client.openDocuments →
        (∃ opens, opens ∈ since ∧ opens.Opens document.1) ∨
          ∃ cut left, cut ∈ earlier ++ returned :: later ∧ cut.CutsShort closer left ∧
            document.1 ∈ left
  /-- No document is open, if none was opened while the client was being closed or behind
  that, and if the time to close the documents was enough. -/
  empty : (∀ opens, opens ∈ earlier ++ returned :: later →
      opens.before.client.state.isClosing = true → ∀ uri, ¬ opens.Opens uri) →
    (∀ cut left, cut ∈ earlier ++ returned :: later → ¬ cut.CutsShort closer left) →
      session.client.openDocuments = []
  /-- A document is opened with the record of the notice that opens it, and with nothing
  else. -/
  opened : ∀ opens, opens ∈ earlier ++ returned :: later → ∀ uri, opens.Opens uri →
    opens.Records uri (.opened 1)
  /-- Behind the closing no document is opened, and if none is open none will be, unless the
  time to close the stream was over before the writer could be had. -/
  stays : (∃ missed, missed ∈ earlier ∧ missed.LeavesOpen closer) ∨
    (∀ latest, latest ∈ later → ∀ uri, ¬ latest.Opens uri) ∧
      (returned.after.client.openDocuments = [] → session.client.openDocuments = [])

/-- When the closing of a client has returned, no document is open but those that were opened
behind its look at the table, and those that were left when its time was over. -/
theorem Run.closesDocuments
    {options : ClientOptions} {capacity : Nat} {files : FileTree} {directory : List EntryName}
    {session : Session} {earlier later : List Transition} {returned : Transition}
    {closer : TaskId}
    (run : Run (Session.connect (.connect options capacity files directory))
      (earlier ++ returned :: later) session)
    (returns : returned.ReturnsClosed closer) :
    ClosesDocuments closer earlier returned later session := by
  have fresh := Client.hasFreshOutlet_connect options capacity files directory
  obtain ⟨before, looked, since, split, looks, explained⟩ := run.accounts_of_returnsClosed returns
  constructor
  case accounted =>
    refine ⟨before, looked, since, split, looks, fun document member => ?_⟩
    exact (explained _ (Client.mem_uris_of_mem_openDocuments member)).resolve_left nofun
  case empty =>
    intro noneOpened noneCut
    refine Client.openDocuments_eq_nil fun uri isOpen => ?_
    rcases explained uri isOpen with
      isLeft | ⟨opens, member, isOpened⟩ | ⟨cut, left, member, cuts, _⟩
    · cases isLeft
    · rw [split] at run noneOpened
      have isClosing := run.isClosing_of_looked looks member
      exact noneOpened opens (by simp [member]) isClosing uri isOpened
    · exact noneCut cut left member cuts
  case opened =>
    intro opens member uri isOpened
    obtain ⟨front, rest, split⟩ := List.append_of_mem member
    rw [split] at run
    obtain ⟨runBefore, applied⟩ := run.before_transition
    exact runBefore.records_of_opens rfl applied isOpened
  case stays =>
    rcases run.closed_of_returnsClosed fresh returns with closed | missed
    · obtain ⟨noneOpened, noMore⟩ := run.not_opens_of_closed fresh closed
      refine Or.inr ⟨noneOpened, fun noneOpen => Client.openDocuments_eq_nil fun uri isOpen => ?_⟩
      obtain ⟨document, member, _⟩ := List.mem_map.mp (noMore uri isOpen)
      have isOpenDocument : document ∈ returned.after.client.openDocuments :=
        List.mem_mergeSort.mpr member
      rw [noneOpen] at isOpenDocument
      cases isOpenDocument
    · exact Or.inl missed

/-- A document is open when the client is closed, and is opened once more while the server is
waited for. -/
def reopening : List Action :=
  .start (.openFile (.ofString "/a")) :: List.replicate 7 (.advance 0 1024) ++
    .start .close :: List.replicate 18 (.advance 1 1024) ++
      .start (.openFile (.ofString "/a")) :: List.replicate 7 (.advance 2 1024) ++
        .elapse 500 :: List.replicate 10 (.advance 1 1024)

/-- The document is open when the closing returns. -/
private theorem Run.reopened :
    ∃ earlier returned later session,
      Run (Session.connect .withFile) (earlier ++ returned :: later) session ∧
        returned.ReturnsClosed 1 ∧ earlier.map Transition.action = reopening ∧
          returned.after.client.openDocuments = [("file:///a", 1)] := by
  obtain ⟨earlier, returned, later, session, run, returns, actions, _, checked⟩ :=
    Run.of_settling .withFile reopening [] 1 1024
      (fun after _ => after.client.openDocuments = [("file:///a", 1)]) (by decide +kernel)
  exact ⟨earlier, returned, later, session, run, returns, actions, of_decide_eq_true checked⟩

theorem Run.closesDocuments_reopening :
    ∃ earlier returned later session,
      Run (Session.connect .withFile) (earlier ++ returned :: later) session ∧
        returned.ReturnsClosed 1 ∧ earlier.map Transition.action = reopening ∧
          ClosesDocuments 1 earlier returned later session := by
  obtain ⟨earlier, returned, later, session, run, returns, actions, _⟩ := Run.reopened
  exact ⟨earlier, returned, later, session, run, returns, actions, run.closesDocuments returns⟩

/-- A document that is opened while the client is being closed stays open. -/
theorem Run.not_closesAll_reopening :
    ¬ ∀ earlier returned later session closer,
      Run (Session.connect .withFile) (earlier ++ returned :: later) session →
        returned.ReturnsClosed closer →
          returned.after.client.openDocuments = [] ∧ session.client.openDocuments = [] := by
  intro closesAll
  obtain ⟨earlier, returned, later, session, run, returns, _, isOpen⟩ := Run.reopened
  have noneOpen := (closesAll earlier returned later session 1 run returns).1
  rw [isOpen] at noneOpen
  cases noneOpen

end LanguageClient
