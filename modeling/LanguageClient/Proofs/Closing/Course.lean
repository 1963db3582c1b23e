import LanguageClient.Proofs.Calls.Table
import LanguageClient.Proofs.Closing.Deadline
import LanguageClient.Proofs.Closing.Shut
import LanguageClient.Proofs.Lifecycle.Gate
import LanguageClient.Proofs.Wire.Course

/-!
# The course of closing

How far the closing of a client has come when nothing goes wrong on its own side: which
documents are still open, and which frames it has written.
-/

namespace LanguageClient

/-! ## The documents that are open -/

namespace Client

def uris (client : Client) : List String :=
  client.documents.map Prod.fst

theorem uris_dropDocument (client : Client) (uri : String) :
    (client.dropDocument uri).uris = client.uris.filter (· ≠ uri) := by
  unfold uris dropDocument
  rw [List.filter_map]
  rfl

theorem mem_uris_iff {client : Client} {uri : String} :
    uri ∈ client.uris ↔ (client.version? uri).isSome = true := by
  unfold uris version?
  rw [Option.isSome_map, List.find?_isSome, List.mem_map]
  simp

end Client

/-! ## Closing the documents -/

/-- The document that the server is being told is closed. -/
def DocumentUse.closing? : DocumentUse → Option String
  | .telling uri .closed _ _ => some uri
  | _ => none

def closingNotices (uris : List String) : List Outgoing :=
  uris.map fun uri => (DocumentNotice.closed uri).message

theorem closingNotices_concat (uris : List String) (uri : String) :
    closingNotices (uris ++ [uri]) = closingNotices uris ++ [(DocumentNotice.closed uri).message] := by
  simp [closingNotices]

/-- What the log says of a task that has tried to tell the server of documents one after the
other, and of which of them it has told it. -/
inductive TellsOf (task : TaskId) : List String → List String → List Segment → Prop
  | nothing : TellsOf task [] [] []
  | told {tried told : List String} {segments : List Segment} (uri : String) :
      TellsOf task tried told segments →
      TellsOf task (tried ++ [uri]) (told ++ [uri])
        (Segment.whole task (DocumentNotice.closed uri).message :: segments)
  | unsent {tried told : List String} {segments : List Segment} (uri : String) :
      TellsOf task tried told segments →
      TellsOf task (tried ++ [uri]) told segments
  | cut {tried told : List String} {segments : List Segment} (uri : String)
      {written rest : List UInt8} :
      (DocumentNotice.closed uri).message.frame = written ++ rest →
      rest ≠ [] →
      TellsOf task tried told segments →
      TellsOf task (tried ++ [uri]) told
        (⟨task, (DocumentNotice.closed uri).message, written⟩ :: segments)

namespace TellsOf

variable {task : TaskId} {tried told : List String} {segments : List Segment}

theorem sublist (tells : TellsOf task tried told segments) : told.Sublist tried := by
  induction tells with
  | nothing => exact List.Sublist.refl _
  | told uri _ inductionHypothesis => exact inductionHypothesis.append (List.Sublist.refl _)
  | unsent uri _ inductionHypothesis | cut uri _ _ _ inductionHypothesis =>
      exact inductionHypothesis.trans (List.sublist_append_left _ _)

/-- Nothing else is sent than that documents are closed which were tried. -/
theorem exists_of_mem
    (tells : TellsOf task tried told segments) {segment : Segment} (member : segment ∈ segments) :
    ∃ uri, uri ∈ tried ∧ segment.message = (DocumentNotice.closed uri).message := by
  have later {tried : List String} (uri : String)
      (found : ∃ uri, uri ∈ tried ∧ segment.message = (DocumentNotice.closed uri).message) :
      ∃ other, other ∈ tried ++ [uri] ∧
        segment.message = (DocumentNotice.closed other).message := by
    obtain ⟨other, isTried, same⟩ := found
    exact ⟨other, List.mem_append_left _ isTried, same⟩
  induction tells with
  | nothing => cases member
  | told uri _ inductionHypothesis | cut uri _ _ _ inductionHypothesis =>
      rcases List.mem_cons.mp member with rfl | member
      · exact ⟨uri, List.mem_append_right _ List.mem_cons_self, rfl⟩
      · exact later uri (inductionHypothesis member)
  | unsent uri _ inductionHypothesis => exact later uri (inductionHypothesis member)

/-- The frames that were written whole are the notices of the documents that the server was
told of. -/
theorem filter_isWhole (tells : TellsOf task tried told segments) :
    segments.filter Segment.isWhole = Segment.wholes task (closingNotices told) := by
  induction tells with
  | nothing => rfl
  | told uri _ inductionHypothesis =>
      have isWhole : (Segment.whole task (DocumentNotice.closed uri).message).isWhole = true := by
        simp [Segment.isWhole, Segment.whole]
      rw [List.filter_cons_of_pos isWhole, inductionHypothesis, closingNotices_concat,
        Segment.wholes_concat]
  | unsent uri _ inductionHypothesis => exact inductionHypothesis
  | cut uri parts unfinished _ inductionHypothesis =>
      rw [List.filter_cons_of_neg (by simp [Segment.isWhole, parts, unfinished]),
        inductionHypothesis]

/-- If the server was told of all of them, there is nothing else in the log. -/
theorem eq_wholes (tells : TellsOf task tried tried segments) :
    segments = Segment.wholes task (closingNotices tried) := by
  generalize isTold : tried = told at tells
  have tells' : TellsOf task tried told segments := isTold.symm ▸ tells
  clear tells
  induction tells' with
  | nothing => rfl
  | told uri _ inductionHypothesis =>
      have isTold := (List.append_inj' isTold rfl).1
      rw [inductionHypothesis isTold, closingNotices_concat, Segment.wholes_concat]
  | unsent uri tells _ | cut uri _ _ tells _ =>
      have shorter := tells.sublist.length_le
      rw [← isTold, List.length_append, List.length_singleton] at shorter
      omega

end TellsOf

/-- How far a task has come that closes documents: those that it has tried to tell the server
of are not open any more, and those that it has told it of are counted. -/
inductive FilesCourse (task : TaskId) (uris : List String) :
    List String → ClosingAll → List String → List String → List Segment → Prop
  | listing {stage : ClosingAll} :
      stage = .starting ∨ stage = .listing →
      FilesCourse task uris uris stage [] [] []
  | next {tried told left : List String} {segments : List Segment} :
      uris = tried ++ left →
      TellsOf task tried told segments →
      FilesCourse task uris left (.next left told.length) tried told segments
  | locking {tried told left : List String} {uri : String} {document : ClosingDocument}
      {segments : List Segment} :
      uris = tried ++ uri :: left →
      document = .starting uri true ∨ document = .locking uri true →
      TellsOf task tried told segments →
      FilesCourse task uris (uri :: left) (.closing document left told.length) tried told segments
  | telling {tried told left : List String} {uri : String} {frame : Sending}
      {said segments : List Segment} :
      uris = tried ++ uri :: left →
      TellsOf task tried told said →
      FrameCourse task (DocumentNotice.closed uri).message said frame segments →
      FilesCourse task uris (uri :: left) (.closing (.sending uri true frame) left told.length)
        tried told segments

namespace FilesCourse

variable {task : TaskId} {portion : Nat} {uris tried told : List String} {client client' : Client}
  {stage next : ClosingAll} {segments : List Segment}

/-- The documents are turned to in the order in which they were listed. -/
theorem isPrefix
    {opens : List String} (course : FilesCourse task uris opens stage tried told segments) :
    tried ++ stage.documentUse.closing?.toList <+: uris := by
  have noneTold {left : List String} (parts : uris = tried ++ left) : tried ++ [] <+: uris :=
    ⟨left, by rw [List.append_nil, parts]⟩
  cases course with
  | listing first => rcases first with rfl | rfl <;> exact List.nil_prefix
  | next parts => exact noneTold parts
  | locking parts first => rcases first with rfl | rfl <;> exact noneTold parts
  | telling parts => exact ⟨_, (parts.trans (List.append_cons _ _ _)).symm⟩

/-- The document that is closed is not open any more, and the others are. -/
private theorem uris_of_closed
    (task : TaskId) {uri : String} {left : List String} (isOpen : client.uris = uri :: left)
    (distinct : client.uris.Nodup) :
    ((client.dropDocument uri).releaseDocuments task).uris = left := by
  have sameUris : ((client.dropDocument uri).releaseDocuments task).uris =
      (client.dropDocument uri).uris := rfl
  rw [isOpen] at distinct
  have others : ∀ other, other ∈ left → decide (other ≠ uri) = true := by
    intro other member
    have different : other ≠ uri := fun same => (List.nodup_cons.mp distinct).1 (same ▸ member)
    exact decide_eq_true different
  rw [sameUris, Client.uris_dropDocument, isOpen, List.filter_cons_of_neg (by simp)]
  exact List.filter_eq_self.mpr others

/-- A document whose send fails is passed over. -/
private theorem unsent
    {uri : String} {left : List String} {frame : Sending} {said : List Segment}
    {error : ClientError} (parts : uris = tried ++ uri :: left)
    (tells : TellsOf task tried told said)
    (course : FrameCourse task (DocumentNotice.closed uri).message said frame segments)
    (sends : frame.step ⟨task, portion⟩ client = .finished client' (.error error)) :
    FilesCourse task uris left (.next left told.length) (tried ++ [uri]) told segments := by
  have parts := parts.trans (List.append_cons tried uri left)
  rcases course.failed sends with rfl | ⟨written, rest, isFrame, unfinished, rfl⟩
  · exact .next parts (.unsent uri tells)
  · exact .next parts (.cut uri isFrame unfinished tells)

/-- The course goes on with each step, in which at most one document is turned to.  If no
write fails, the server is told of all that it is tried to be told of. -/
theorem step
    (course : FilesCourse task uris client.uris stage tried told segments)
    (step : stage.step ⟨task, portion⟩ client = .running client' next)
    (distinct : client.uris.Nodup) :
    ∃ tried' told', FilesCourse task uris client'.uris next tried' told'
        (Segment.record task stage.use next.use segments) ∧
      tried' ++ next.documentUse.closing?.toList =
        tried ++ (stage.documentUse.closing?.or next.documentUse.closing?).toList ∧
      (client.isInputOpen = true → stage.use.Flows client → told = tried → told' = tried') := by
  generalize isOpens : client.uris = opens at course
  cases course with
  | listing first =>
      rcases first with rfl | rfl
      · cases step
        exact ⟨[], [], isOpens ▸ .listing (Or.inr rfl), rfl, fun _ _ _ => rfl⟩
      · simp only [ClosingAll.step] at step
        split at step
        · cases step
          have sameUris : (client.releaseDocuments task).uris = uris := isOpens
          have listed : client.documents.map Prod.fst = uris := isOpens
          rw [sameUris, listed]
          exact ⟨[], [], .next (List.nil_append uris).symm .nothing, rfl, fun _ _ _ => rfl⟩
        · cases step
  | next parts tells =>
      cases opens with
      | nil => cases step
      | cons uri left =>
          cases step
          rw [isOpens]
          exact ⟨tried, told, .locking parts (Or.inl rfl) tells, rfl, fun _ _ same => same⟩
  | @locking tried told left uri document segments parts first tells =>
      have isOpen : (client.version? uri).isSome = true :=
        Client.mem_uris_iff.mp (isOpens ▸ List.mem_cons_self)
      rcases first with rfl | rfl
      · cases step
        have sameUris : (client.askDocuments task .exclusive).uris = uri :: left := isOpens
        rw [sameUris]
        exact ⟨tried, told, .locking parts (Or.inr rfl) tells, rfl, fun _ _ same => same⟩
      · simp only [ClosingAll.step, ClosingDocument.step, isOpen, if_true] at step
        split at step
        · cases step
          exact ⟨tried, told, isOpens ▸ .telling parts tells (FrameCourse.start _ _ _), rfl,
            fun _ _ same => same⟩
        · cases step
  | @telling tried told left uri frame said segments parts tells course =>
      rcases Step.lift_eq_running_iff.mp step with
        ⟨document, inside, rfl⟩ | ⟨client'', result, ended, behind⟩
      · rcases Step.lift_eq_running_iff.mp inside with ⟨frame', sends, rfl⟩ | ⟨_, result, _, same⟩
        · have sameDocuments : client'.documents = client.documents :=
            (frame.step_fixes fun _ _ _ _ => rfl).of_running sends
          have sameUris : client'.uris = uri :: left :=
            (congrArg (List.map Prod.fst) sameDocuments).trans isOpens
          rw [sameUris]
          exact ⟨tried, told, .telling parts tells (course.step sends), rfl,
            fun _ _ same => same⟩
        · cases result <;> cases same
      · obtain ⟨sender, sent, sends, same⟩ := Step.lift_eq_finished_iff.mp ended
        have sameDocuments : sender.documents = client.documents :=
          (frame.step_fixes fun _ _ _ _ => rfl).of_finished sends
        have sameUris : sender.uris = client.uris := congrArg (List.map Prod.fst) sameDocuments
        have isLeft := uris_of_closed task (sameUris.trans isOpens) (sameUris ▸ distinct)
        have isLeft : client'.uris = left := by
          rw [← isLeft]
          rcases sent with error | sent <;> cases same <;> cases behind <;> rfl
        rw [isLeft]
        rcases sent with error | sent
        · cases same
          cases behind
          refine ⟨tried ++ [uri], told, ?_, List.append_nil _, fun isOpen flows _ => ?_⟩
          · exact (Segment.record_apart task _ _).symm ▸ unsent parts tells course sends
          · cases Sending.eq_ok_of_finished isOpen flows sends
        · cases same
          cases behind
          refine ⟨tried ++ [uri], told ++ [uri], ?_, List.append_nil _, fun _ _ same => by rw [same]⟩
          rw [course.finished sends]
          have counted : told.length + 1 = (told ++ [uri]).length := by simp
          refine (Segment.record_apart task _ _).symm ▸ ?_
          exact counted ▸ .next (parts.trans (List.append_cons tried uri left)) (.told uri tells)

/-- When all documents are closed the server was told of those that are counted. -/
theorem finished
    {result : Except ClientError Nat}
    (course : FilesCourse task uris client.uris stage tried told segments)
    (step : stage.step ⟨task, portion⟩ client = .finished client' result) :
    stage = .next [] told.length ∧ client'.documents = [] ∧ tried = uris ∧
      result = .ok told.length ∧ TellsOf task uris told segments := by
  generalize isOpens : client.uris = opens at course
  cases course with
  | listing first =>
      rcases first with rfl | rfl
      · cases step
      · simp only [ClosingAll.step] at step
        split at step <;> cases step
  | next parts tells =>
      cases opens with
      | nil =>
          cases step
          obtain rfl : tried = uris := by rw [parts, List.append_nil]
          exact ⟨rfl, List.map_eq_nil_iff.mp isOpens, rfl, rfl, tells⟩
      | cons uri left => cases step
  | locking | telling =>
      obtain ⟨_, result, _, same⟩ := Step.lift_eq_finished_iff.mp step
      rcases result with error | sent
      · cases same
      · cases sent <;> cases same

end FilesCourse

/-- Who closes documents waits for nothing but their lock and the stream. -/
theorem ClosingAll.not_blocked_of_apart
    {turn : Turn} {client : Client} {stage : ClosingAll} (apart : stage.documentUse = .apart) :
    stage.step turn client ≠ .blocked := by
  cases stage with
  | starting => exact Step.running_ne_blocked _ _
  | listing => cases apart
  | next left closed =>
      cases left with
      | nil => exact Step.finished_ne_blocked _ _
      | cons uri left => exact Step.running_ne_blocked _ _
  | closing document left closed =>
      cases document with
      | starting uri drop => exact Step.running_ne_blocked _ _
      | locking | sending => cases apart

/-! ## Closing the client -/

/-- The request to shut down, which no token cancels. -/
def shutdownRequest : CallRequest := { method := "shutdown", params := none }

/-- The request to shut down as a message, if it is sent. -/
def shutdownMessages (id? : Option Nat) : List Outgoing :=
  (id?.map fun id => Outgoing.request id "shutdown" none).toList

/-- All that is sent when a client is closed. -/
def closingMessages (uris : List String) (id? : Option Nat) : List Outgoing :=
  closingNotices uris ++ shutdownMessages id? ++ [.notification "exit" none]

/-- Whether the next step of the closing asks for a number for the request to shut down. -/
def Closing.asksToShutDown : Closing → Bool
  | .shuttingDown (.underway _ (.starting _)) => true
  | _ => false

/-- No limit of closing a client that has no process of a server is over at once. -/
structure CloseLimits.ArePositive (limits : CloseLimits) : Prop where
  closeFiles : 0 < limits.closeFiles
  shutdownRequest : 0 < limits.shutdownRequest
  exitNotification : 0 < limits.exitNotification

/-- How far a task has come that closes a client, which it began to do at some time.  The
request to shut down is sent if the table of calls was open when it asked for a number. -/
inductive ClosingCourse (task : TaskId) (uris : List String) (limits : CloseLimits) (start : Nat)
    (client : Client) : List Transition → Closing → List Segment → Prop
  | closingFiles {files : Timed ClosingAll} {told : List String} {segments : List Segment} :
      client.now = start →
      files.latest client.now = start + limits.closeFiles →
      FilesCourse task uris client.uris files.stage told told segments →
      ClosingCourse task uris limits start client [] (.closingFiles files) segments
  | asking {call : TimedCall} :
      client.documents = [] →
      client.now = start →
      call.latest client.now = start + limits.shutdownRequest →
      call.stage = .starting shutdownRequest →
      ClosingCourse task uris limits start client [] (.shuttingDown call)
        (Segment.wholes task (closingNotices uris))
  | sending {asked : Transition} {call : TimedCall} {id : Nat} {frame : Sending}
      {segments : List Segment} :
      client.documents = [] →
      client.now = start →
      call.latest client.now = start + limits.shutdownRequest →
      call.stage = .sending shutdownRequest id frame →
      asked.before.client.calls.isClosed = false →
      FrameCourse task (.request id "shutdown" none) (Segment.wholes task (closingNotices uris))
        frame segments →
      ClosingCourse task uris limits start client [asked] (.shuttingDown call) segments
  | waiting {asked : Transition} {id : Nat} :
      client.documents = [] →
      asked.before.client.calls.isClosed = false →
      ClosingCourse task uris limits start client [asked]
        (.shuttingDown (.underway (start + limits.shutdownRequest) (.waiting shutdownRequest id)))
        (Segment.wholes task (closingNotices uris ++ shutdownMessages (some id)))
  | exiting {asked : Transition} {notice : Exiting} {id? : Option Nat} {segments : List Segment} :
      client.documents = [] →
      client.now < notice.latest client.now →
      id?.isSome = !asked.before.client.calls.isClosed →
      FrameCourse task (.notification "exit" none)
        (Segment.wholes task (closingNotices uris ++ shutdownMessages id?)) notice.stage segments →
      ClosingCourse task uris limits start client [asked] (.exiting notice) segments
  | closingInput {asked : Transition} {input : Timed ClosingInput} {id? : Option Nat} :
      client.documents = [] →
      client.now < input.latest client.now →
      id?.isSome = !asked.before.client.calls.isClosed →
      ClosingCourse task uris limits start client [asked] (.closingInput input)
        (Segment.wholes task (closingMessages uris id?))
  | leaving {asked : Transition} {stage : Closing} {id? : Option Nat} :
      client.documents = [] →
      client.isInputOpen = false →
      id?.isSome = !asked.before.client.calls.isClosed →
      stage = .reaping ∨ stage = .settling none →
      ClosingCourse task uris limits start client [asked] stage
        (Segment.wholes task (closingMessages uris id?))

namespace ClosingCourse

variable {task : TaskId} {portion : Nat} {uris : List String} {limits : CloseLimits} {start : Nat}
  {client client' : Client} {asked : List Transition} {stage next : Closing}
  {segments : List Segment}

theorem ne_starting
    (course : ClosingCourse task uris limits start client asked stage segments) :
    stage ≠ .starting := by
  rintro rfl
  cases course with
  | leaving noDocuments closed isAsked isStage => rcases isStage with same | same <;> cases same

/-- What others do leaves the course as it is, if no time passes unless the answer of the
server is waited for. -/
theorem kept
    (course : ClosingCourse task uris limits start client asked stage segments)
    (sameDocuments : client'.documents = client.documents)
    (staysClosed : client.isInputOpen = false → client'.isInputOpen = false)
    (sameTime : client'.now = client.now ∨
      ∃ deadline request id, stage = .shuttingDown (.underway deadline (.waiting request id))) :
    ClosingCourse task uris limits start client' asked stage segments := by
  have noTime
      (moves : ∀ deadline request id,
        stage ≠ .shuttingDown (.underway deadline (.waiting request id))) :
      client'.now = client.now := by
    rcases sameTime with same | ⟨deadline, request, id, waits⟩
    · exact same
    · exact absurd waits (moves deadline request id)
  cases course with
  | closingFiles isStart latest course =>
      rw [← noTime (by simp)] at isStart latest
      have sameUris : client'.uris = client.uris := congrArg (List.map Prod.fst) sameDocuments
      exact .closingFiles isStart latest (sameUris ▸ course)
  | asking noDocuments isStart latest isStage =>
      have same := noTime fun deadline request id waits => by
        cases waits
        cases isStage
      rw [← same] at isStart latest
      exact .asking (sameDocuments.trans noDocuments) isStart latest isStage
  | sending noDocuments isStart latest isStage isOpen course =>
      have same := noTime fun deadline request id waits => by
        cases waits
        cases isStage
      rw [← same] at isStart latest
      exact .sending (sameDocuments.trans noDocuments) isStart latest isStage isOpen course
  | waiting noDocuments isOpen => exact .waiting (sameDocuments.trans noDocuments) isOpen
  | exiting noDocuments early isAsked course =>
      rw [← noTime (by simp)] at early
      exact .exiting (sameDocuments.trans noDocuments) early isAsked course
  | closingInput noDocuments early isAsked =>
      rw [← noTime (by simp)] at early
      exact .closingInput (sameDocuments.trans noDocuments) early isAsked
  | leaving noDocuments closed isAsked isStage =>
      exact .leaving (sameDocuments.trans noDocuments) (staysClosed closed) isAsked isStage

/-! ## Steps of the closing -/

private theorem step_closingFiles
    {files : Timed ClosingAll} {told : List String} (isStart : client.now = start)
    (latest : files.latest client.now = start + limits.closeFiles)
    (course : FilesCourse task uris client.uris files.stage told told segments)
    (step : (Closing.closingFiles files).step ⟨task, portion⟩ client = .running client' next)
    (sameTime : client'.now = client.now) (sameLimits : client'.options.limits = limits)
    (positive : 0 < limits.closeFiles) (distinct : client.uris.Nodup)
    (isOpen : client.isInputOpen = true) (flows : files.stage.use.Flows client) :
    ClosingCourse task uris limits start client' [] next
      (Segment.record task files.stage.use next.use segments) := by
  have early : client.now < files.latest client.now := by omega
  rcases Step.lift_eq_running_iff.mp step with ⟨files', inside, rfl⟩ | ⟨_, result, ended, behind⟩
  · have sameLatest : files'.latest client.now = files.latest client.now :=
      (Timed.latest_of_step_running inside early.le).1
    have latest' : files'.latest client'.now = start + limits.closeFiles := by
      rw [sameTime, sameLatest, latest]
    rcases Timed.stage_of_step_running inside with ⟨rfl, same⟩ | stepped
    · simp only [Closing.use, same, Segment.record_rest]
      exact .closingFiles (sameTime.trans isStart) latest' (same ▸ course)
    · obtain ⟨tried', told', course', _, lossless⟩ := course.step stepped distinct
      obtain rfl := lossless isOpen flows rfl
      exact .closingFiles (sameTime.trans isStart) latest' course'
  · cases behind
    obtain ⟨_, noDocuments, rfl, _, tells⟩ :=
      course.finished (Timed.step_finished_of_early early ended)
    obtain rfl := tells.eq_wholes
    refine (Segment.record_apart task _ _).symm ▸
      .asking noDocuments (sameTime.trans isStart) ?_ rfl
    change client'.now + client'.options.limits.shutdownRequest = _
    rw [sameTime, isStart, sameLimits]

private theorem step_asking
    {call : TimedCall} {asking : Transition} (noDocuments : client.documents = [])
    (isStart : client.now = start)
    (latest : call.latest client.now = start + limits.shutdownRequest)
    (isStage : call.stage = .starting shutdownRequest)
    (step : (Closing.shuttingDown call).step ⟨task, portion⟩ client = .running client' next)
    (isAsking : asking.before.client = client) (sameLimits : client.options.limits = limits)
    (positive : 0 < limits.exitNotification) :
    ClosingCourse task uris limits start client'
      (if (Closing.shuttingDown call).asksToShutDown then [asking] else []) next
      (Segment.record task call.stage.use next.use
        (Segment.wholes task (closingNotices uris))) := by
  cases call with
  | waiting limit stage =>
      subst isStage
      cases step
      exact .asking noDocuments isStart latest rfl
  | underway deadline stage =>
      subst isStage
      have notCancelled : Calling.isCancelled client shutdownRequest = false := rfl
      simp only [Closing.step, TimedCall.step, Timed.step, Calling.step, notCancelled] at step
      cases registers : client.calls.register with
      | none =>
          simp only [registers] at step
          cases step
          have closed := client.calls.register_eq_none_iff.mp registers
          have isAsked : (none : Option Nat).isSome = !asking.before.client.calls.isClosed := by
            rw [isAsking, closed]
            rfl
          refine .exiting noDocuments ?_ isAsked ?_
          · exact Timed.lt_latest_waiting (sameLimits ▸ positive) _ _
          · exact (List.append_nil (closingNotices uris)).symm ▸ FrameCourse.start task _ _
      | some registered =>
          simp only [registers] at step
          cases step
          have isOpen := ((client.calls.register_eq_some_iff _ _).mp registers).1
          exact .sending noDocuments isStart latest rfl (isAsking ▸ isOpen)
            (FrameCourse.start task _ _)

private theorem step_sending
    {call : TimedCall} {asking : Transition} {id : Nat} {frame : Sending}
    (noDocuments : client.documents = []) (isStart : client.now = start)
    (latest : call.latest client.now = start + limits.shutdownRequest)
    (isStage : call.stage = .sending shutdownRequest id frame)
    (isAsked : asking.before.client.calls.isClosed = false)
    (course : FrameCourse task (.request id "shutdown" none)
      (Segment.wholes task (closingNotices uris)) frame segments)
    (step : (Closing.shuttingDown call).step ⟨task, portion⟩ client = .running client' next)
    (sameTime : client'.now = client.now) (positive : 0 < limits.shutdownRequest)
    (isOpen : client.isInputOpen = true) (flows : call.stage.use.Flows client) :
    ClosingCourse task uris limits start client' [asking] next
      (Segment.record task call.stage.use next.use segments) := by
  have early : client.now < call.latest client.now := by omega
  have sameUse : call.stage.use = frame.use := by rw [isStage]; rfl
  rw [sameUse] at flows ⊢
  rcases Step.lift_eq_running_iff.mp step with ⟨call', inside, rfl⟩ | ⟨_, result, ended, behind⟩
  · have noMoreDocuments : client'.documents = [] := by
      have fixes : (call.step ⟨task, portion⟩ client).Fixes Client.documents client :=
        call.step_fixes (fun _ _ _ _ => rfl) fun _ _ => rfl
      exact (fixes.of_running inside).trans noDocuments
    have latest' : call'.latest client'.now = start + limits.shutdownRequest := by
      rw [sameTime, (Timed.latest_of_step_running inside early.le).1, latest]
    rcases Timed.of_step_running inside with ⟨limit, isWaiting⟩ | ⟨deadline, _, isNext, stepped⟩
    · have same : call'.stage = .sending shutdownRequest id frame := by
        rw [isWaiting] at isStage
        exact isStage
      have sameUse' : (Closing.shuttingDown call').use = frame.use := by
        change call'.stage.use = frame.use
        rw [same]
        rfl
      rw [sameUse', Segment.record_rest]
      exact .sending noMoreDocuments (sameTime.trans isStart) latest' same isAsked course
    · rw [isStage] at stepped
      rcases Step.lift_eq_running_iff.mp stepped with ⟨frame', sends, same⟩ | ⟨_, sent, sends, same⟩
      · have sameUse' : (Closing.shuttingDown call').use = frame'.use := by
          change call'.stage.use = frame'.use
          rw [← same]
          rfl
        rw [sameUse']
        exact .sending noMoreDocuments (sameTime.trans isStart) latest' same.symm isAsked
          (course.step sends)
      · obtain rfl := Sending.eq_ok_of_finished isOpen flows sends
        obtain ⟨rfl, isWaiting⟩ := Step.running.inj same
        rw [isNext, ← isWaiting] at latest' ⊢
        obtain rfl : deadline = start + limits.shutdownRequest := latest'
        rw [course.finished sends, ← Segment.wholes_concat]
        exact (Segment.record_apart task _ _).symm ▸ .waiting noMoreDocuments isAsked
  · -- A send that ends without an error leads to the wait for the answer.
    have stepped := Timed.step_finished_of_early early ended
    rw [isStage] at stepped
    obtain ⟨_, sent, sends, same⟩ := Step.lift_eq_finished_iff.mp stepped
    obtain rfl := Sending.eq_ok_of_finished isOpen flows sends
    cases same

private theorem step_waiting
    {asking : Transition} {deadline id : Nat} (noDocuments : client.documents = [])
    (isAsked : asking.before.client.calls.isClosed = false)
    (step : (Closing.shuttingDown (.underway deadline (.waiting shutdownRequest id))).step
      ⟨task, portion⟩ client = .running client' next)
    (sameLimits : client'.options.limits = limits) (positive : 0 < limits.exitNotification) :
    ClosingCourse task uris limits start client' [asking] next
      (Segment.record task .apart next.use
        (Segment.wholes task (closingNotices uris ++ shutdownMessages (some id)))) := by
  rcases Step.lift_eq_running_iff.mp step with ⟨call, inside, _⟩ | ⟨_, result, ended, behind⟩
  · rcases Timed.of_step_running inside with ⟨limit, isWaiting⟩ | ⟨_, _, _, stepped⟩
    · cases isWaiting
    · simp only [Timed.stage, Calling.step] at stepped
      split at stepped
      · cases stepped
      · cases stepped
      · cases stepped
      · split at stepped <;> cases stepped
  · cases behind
    have noMoreDocuments : client'.documents = [] := by
      have fixes : (TimedCall.step ⟨task, portion⟩ client
          (.underway deadline (.waiting shutdownRequest id))).Fixes Client.documents client :=
        TimedCall.step_fixes (fun _ _ _ _ => rfl) (fun _ _ => rfl) _
      exact (fixes.of_finished ended).trans noDocuments
    have isAsked' : (some id).isSome = !asking.before.client.calls.isClosed := by
      rw [isAsked]
      rfl
    exact .exiting noMoreDocuments (Timed.lt_latest_waiting (sameLimits ▸ positive) _ _) isAsked'
      (FrameCourse.start task _ _)

private theorem step_exiting
    {notice : Exiting} {asking : Transition} {id? : Option Nat}
    (noDocuments : client.documents = []) (early : client.now < notice.latest client.now)
    (isAsked : id?.isSome = !asking.before.client.calls.isClosed)
    (course : FrameCourse task (.notification "exit" none)
      (Segment.wholes task (closingNotices uris ++ shutdownMessages id?)) notice.stage segments)
    (step : (Closing.exiting notice).step ⟨task, portion⟩ client = .running client' next)
    (sameTime : client'.now = client.now) (sameLimits : client'.options.limits = limits)
    (positive : 0 < limits.exitNotification) (isOpen : client.isInputOpen = true)
    (flows : notice.stage.use.Flows client) :
    ClosingCourse task uris limits start client' [asking] next
      (Segment.record task notice.stage.use next.use segments) := by
  have fixes : (notice.step ⟨task, portion⟩ client).Fixes Client.documents client :=
    notice.step_fixes fun _ _ _ _ => rfl
  rcases Step.lift_eq_running_iff.mp step with ⟨notice', inside, rfl⟩ | ⟨_, result, ended, behind⟩
  · have sameLatest := (Timed.latest_of_step_running inside early.le).1
    refine .exiting ((fixes.of_running inside).trans noDocuments) ?_ isAsked ?_
    · rw [sameTime, sameLatest]
      exact early
    · rcases Timed.stage_of_step_running inside with ⟨rfl, same⟩ | stepped
      · simp only [Closing.use, same, Segment.record_rest]
        exact course
      · exact course.step stepped
  · cases behind
    have sends := Timed.step_finished_of_early early ended
    obtain rfl := Sending.eq_ok_of_finished isOpen flows sends
    rw [course.finished sends, ← Segment.wholes_concat]
    exact (Segment.record_apart task _ _).symm ▸
      .closingInput ((fixes.of_finished ended).trans noDocuments)
        (Timed.lt_latest_waiting (sameLimits ▸ positive) _ _) isAsked

private theorem step_closingInput
    {input : Timed ClosingInput} {asking : Transition} {id? : Option Nat}
    (noDocuments : client.documents = []) (early : client.now < input.latest client.now)
    (isAsked : id?.isSome = !asking.before.client.calls.isClosed)
    (step : (Closing.closingInput input).step ⟨task, portion⟩ client = .running client' next)
    (sameTime : client'.now = client.now) :
    ClosingCourse task uris limits start client' [asking] next
      (Segment.record task input.stage.use next.use
        (Segment.wholes task (closingMessages uris id?))) := by
  have noFrame (use : WriterUse) (segments : List Segment) :
      Segment.record task input.stage.use use segments = segments := by
    cases input.stage <;> rfl
  have fixes : (Timed.step (ClosingInput.step ⟨task, portion⟩) (ClosingInput.abandon task)
      (.timedOut "exit") client input).Fixes Client.documents client :=
    .timed (fun stage => stage.step_fixes fun _ _ _ _ => rfl)
      fun stage => stage.abandon_fixes fun _ _ _ _ => rfl
  rw [noFrame]
  rcases Step.lift_eq_running_iff.mp step with ⟨input', inside, rfl⟩ | ⟨_, result, ended, behind⟩
  · have sameLatest := (Timed.latest_of_step_running inside early.le).1
    refine .closingInput ((fixes.of_running inside).trans noDocuments) ?_ isAsked
    rw [sameTime, sameLatest]
    exact early
  · cases behind
    have shuts := Timed.step_finished_of_early early ended
    have closed : client'.isInputOpen = false := by
      cases stage : input.stage with
      | asking =>
          rw [stage] at shuts
          cases shuts
      | queued =>
          rw [stage] at shuts
          simp only [ClosingInput.step] at shuts
          split at shuts
          · split at shuts
            · cases shuts
              rfl
            · rename_i closed
              cases shuts
              exact Bool.eq_false_iff.mpr closed
          · cases shuts
    exact .leaving ((fixes.of_finished ended).trans noDocuments) closed isAsked (Or.inl rfl)

theorem step
    {latest : Transition} (course : ClosingCourse task uris limits start client asked stage segments)
    (step : stage.step ⟨task, portion⟩ client = .running client' next)
    (isLatest : latest.before.client = client) (sameLimits : client.options.limits = limits)
    (positive : limits.ArePositive) (noServer : client.server = none)
    (distinct : client.uris.Nodup) (isOpen : stage.phase ≤ 10 → client.isInputOpen = true)
    (flows : stage.use.Flows client) :
    ClosingCourse task uris limits start client'
      (asked ++ if stage.asksToShutDown then [latest] else []) next
      (Segment.record task stage.use next.use segments) := by
  have sameTime : client'.now = client.now :=
    (stage.step_fixes (fun _ _ _ _ => rfl) (fun _ _ _ => rfl) (fun _ _ => rfl) (fun _ _ => rfl)
      fun _ _ => rfl).of_running step
  have sameOptions : client'.options = client.options :=
    (stage.step_fixes (fun _ _ _ _ => rfl) (fun _ _ _ => rfl) (fun _ _ => rfl) (fun _ _ => rfl)
      fun _ _ => rfl).of_running step
  have sameLimits' : client'.options.limits = limits := by rw [sameOptions, sameLimits]
  cases course with
  | closingFiles isStart latest course =>
      exact step_closingFiles isStart latest course step sameTime sameLimits' positive.closeFiles
        distinct (isOpen (by simp [Closing.phase])) flows
  | asking noDocuments isStart latest isStage =>
      exact step_asking noDocuments isStart latest isStage step isLatest sameLimits
        positive.exitNotification
  | @sending asking call id frame segments noDocuments isStart latest isStage isAsked course =>
      have notAsking : (Closing.shuttingDown call).asksToShutDown = false := by
        cases call <;> cases isStage <;> rfl
      have early : (Closing.shuttingDown call).phase ≤ 10 := by
        have bound := call.stage.phase_le
        simp only [Closing.phase]
        omega
      rw [notAsking]
      exact step_sending noDocuments isStart latest isStage isAsked course step sameTime
        positive.shutdownRequest (isOpen early) flows
  | waiting noDocuments isAsked =>
      exact step_waiting noDocuments isAsked step sameLimits' positive.exitNotification
  | @exiting asking notice id? segments noDocuments early isAsked course =>
      have early' : (Closing.exiting notice).phase ≤ 10 := by
        have bound := notice.stage.phase_le
        simp only [Closing.phase]
        omega
      exact step_exiting noDocuments early isAsked course step sameTime sameLimits'
        positive.exitNotification (isOpen early') flows
  | closingInput noDocuments early isAsked =>
      exact step_closingInput noDocuments early isAsked step sameTime
  | leaving noDocuments closed isAsked isStage =>
      rcases isStage with rfl | rfl
      · simp only [Closing.step, noServer] at step
        cases step
        exact .leaving noDocuments closed isAsked (Or.inr rfl)
      · cases step

/-- The closing ends when all is sent and the stream is closed. -/
theorem finished
    {result : Except ClientError (Option ExitStatus)}
    (course : ClosingCourse task uris limits start client asked stage segments)
    (step : stage.step ⟨task, portion⟩ client = .finished client' result) :
    result = .ok none ∧ client'.state = .closed ∧ client'.documents = [] ∧
      client'.isInputOpen = false ∧ ∃ asking id?, asked = [asking] ∧
        id?.isSome = !asking.before.client.calls.isClosed ∧
          segments = Segment.wholes task (closingMessages uris id?) := by
  obtain ⟨status, rfl, rfl, rfl⟩ := Closing.eq_settling_of_finished step course.ne_starting
  cases course with
  | leaving noDocuments closed isAsked isStage =>
      rcases isStage with same | same
      · cases same
      · cases same
        exact ⟨rfl, rfl, noDocuments, closed, _, _, rfl, isAsked, rfl⟩

/-- The closing waits for the answer of the server only, if it need not wait for the documents
nor for the stream. -/
theorem waiting_of_blocked
    (course : ClosingCourse task uris limits start client asked stage segments)
    (blocked : stage.step ⟨task, portion⟩ client = .blocked) (noServer : client.server = none)
    (apart : stage.use = .apart) (apartDocuments : (Operation.close stage).documentUse = .apart) :
    client.now < start + limits.shutdownRequest ∧ ∃ id, client.calls.mailbox? id = some .empty ∧
      stage = .shuttingDown
        (.underway (start + limits.shutdownRequest) (.waiting shutdownRequest id)) := by
  cases course with
  | @closingFiles files segments isStart latest course =>
      obtain ⟨_, _, inside, _⟩ := Timed.underway_of_lift blocked
      exact absurd inside (ClosingAll.not_blocked_of_apart apartDocuments)
  | @asking call noDocuments isStart latest isStage =>
      obtain ⟨_, _, inside, _⟩ := Timed.underway_of_lift blocked
      rw [isStage] at inside
      simp only [Calling.step] at inside
      split at inside
      · cases inside
      · split at inside <;> cases inside
  | @sending asking call id frame segments noDocuments isStart latest isStage isAsked course =>
      obtain ⟨_, _, inside, _⟩ := Timed.underway_of_lift blocked
      change call.stage.use = .apart at apart
      rw [isStage] at inside apart
      refine absurd (Step.eq_blocked_of_lift inside ?_) (frame.not_blocked_of_apart apart)
      intro client' sent
      cases sent <;> simp
  | @waiting asking id noDocuments isAsked =>
      obtain ⟨deadline, same, inside, early⟩ := Timed.underway_of_lift blocked
      cases same
      refine ⟨early, id, ?_, rfl⟩
      simp only [Timed.stage, Calling.step] at inside
      split at inside
      · cases inside
      · cases inside
      · cases inside
      · assumption
  | @exiting asking notice id? segments noDocuments early isAsked course =>
      obtain ⟨_, _, inside, _⟩ := Timed.underway_of_lift blocked
      exact absurd inside (notice.stage.not_blocked_of_apart apart)
  | @closingInput asking input id? noDocuments early isAsked =>
      obtain ⟨_, _, inside, _⟩ := Timed.underway_of_lift blocked
      change input.stage.use = .apart at apart
      cases stage : input.stage with
      | asking =>
          rw [stage] at inside
          cases inside
      | queued =>
          rw [stage] at apart
          cases apart
  | leaving noDocuments closed isAsked isStage =>
      rcases isStage with rfl | rfl
      · simp only [Closing.step, noServer] at blocked
        cases blocked
      · cases blocked

end ClosingCourse

end LanguageClient
