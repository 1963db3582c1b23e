import LanguageClient.Proofs.Dispatch.Reading
import LanguageClient.Proofs.Edits.Progress
import LanguageClient.Proofs.Frame.Stream
import LanguageClient.Proofs.Operation.Step
import LanguageClient.Proofs.Wire.Trace
import Mathlib.Logic.Hydra

/-!
# Sessions come to rest

Left to itself a client takes finitely many steps.  The closing of a client and the answers
to the server end after finitely many steps each, in whatever clients these are taken.  The
read loop uses up the bytes that are there, and only it begins new answers.  Operations are
compared as in the game of the hydra: a step cuts one of them off and grows one that has
less to do.
-/

namespace LanguageClient

namespace Step

variable {σ τ α β : Type}

/-- A stage comes right behind another in some client. -/
def Leads (step : Turn → Client → σ → Step σ α) (next stage : σ) : Prop :=
  ∃ turn client client', step turn client stage = .running client' next

/-- Behind a stage there come finitely many others. -/
def Settles (step : Turn → Client → σ → Step σ α) (stage : σ) : Prop :=
  Acc (Leads step) stage

namespace Settles

variable {inner : Turn → Client → σ → Step σ α} {outer : Turn → Client → τ → Step τ β}

/-- A stage settles if all do that come right behind it. -/
theorem of_steps
    {stage : τ} (steps : ∀ turn client client' next,
      outer turn client stage = .running client' next → Settles outer next) :
    Settles outer stage := by
  constructor
  rintro next ⟨turn, client, client', step⟩
  exact steps turn client client' next step

/-- A whole settles if its part does and all that may follow the part. -/
theorem lift
    {next : Turn → Client → Except ClientError α → Step τ β} {part : σ}
    (settles : Settles inner part) (stage : σ → τ)
    (isLift : ∀ turn client part,
      outer turn client (stage part) = (inner turn client part).lift stage (next turn))
    (behind : ∀ turn client result client' whole,
      next turn client result = .running client' whole → Settles outer whole) :
    Settles outer (stage part) := by
  induction settles with
  | intro part _ inductionHypothesis =>
      constructor
      rintro whole ⟨turn, client, client', step⟩
      rw [isLift] at step
      rcases Step.lift_eq_running_iff.mp step with ⟨part', inside, rfl⟩ | ⟨_, result, _, same⟩
      · exact inductionHypothesis part' ⟨turn, client, client', inside⟩
      · exact behind _ _ _ _ _ same

/-- A whole that is over with its part settles if the part does. -/
theorem map
    {value : α → β} {part : σ} (settles : Settles inner part) (stage : σ → τ)
    (isMap : ∀ turn client part,
      outer turn client (stage part) = (inner turn client part).map stage value) :
    Settles outer (stage part) := by
  have isLift (turn : Turn) (client : Client) (part : σ) :
      outer turn client (stage part) = (inner turn client part).lift stage
        fun client result => .finished client (result.map value) :=
    isMap turn client part
  refine settles.lift stage isLift ?_
  intro turn client result client' whole step
  cases step

/-- A limit of time lets nothing go on for longer. -/
theorem timed
    {outer : Turn → Client → Timed σ → Step (Timed σ) α}
    (isTimed : ∀ turn client timed, ∃ abandon error,
      outer turn client timed = Timed.step (inner turn) abandon error client timed)
    (settles : ∀ stage, Settles inner stage) (timed : Timed σ) : Settles outer timed := by
  have underway (deadline : Nat) (stage : σ) : Settles outer (.underway deadline stage) := by
    induction settles stage with
    | intro stage _ inductionHypothesis =>
        constructor
        rintro next ⟨turn, client, client', step⟩
        obtain ⟨abandon, error, same⟩ := isTimed turn client (.underway deadline stage)
        rw [same] at step
        rcases Timed.of_step_running step with ⟨limit, isWaiting⟩ | ⟨_, isStage, isNext, inside⟩
        · cases isWaiting
        · cases isStage
          rw [isNext]
          exact inductionHypothesis _ ⟨turn, client, client', inside⟩
  cases timed with
  | underway deadline stage => exact underway deadline stage
  | waiting limit stage =>
      constructor
      rintro next ⟨turn, client, client', step⟩
      obtain ⟨abandon, error, same⟩ := isTimed turn client (.waiting limit stage)
      rw [same] at step
      cases step
      exact underway _ stage

end Settles

end Step

/-! ## Operations -/

def Sending.left : Sending → Nat
  | .asking message => message.frame.length + 2
  | .queued message => message.frame.length + 1
  | .writing _ rest => rest.length

theorem Sending.left_lt
    {turn : Turn} {client client' : Client} {frame next : Sending}
    (step : frame.step turn client = .running client' next) : next.left < frame.left := by
  cases frame with
  | asking message =>
      cases step
      exact Nat.lt_succ_self _
  | queued message =>
      simp only [Sending.step] at step
      split at step
      · split at step
        · cases step
          exact Nat.lt_succ_self _
        · cases step
      · cases step
  | writing message rest =>
      cases rest with
      | nil => cases step
      | cons byte rest =>
          simp only [Sending.step] at step
          split at step
          · cases step
          · split at step
            · cases step
            · rename_i some
              cases step
              simp only [left, List.length_drop, List.length_cons]
              omega

theorem Sending.settles (frame : Sending) : Step.Settles Sending.step frame := by
  have wellFounded := (measure Sending.left).wf
  refine Subrelation.accessible ?_ (wellFounded.apply frame)
  rintro next frame ⟨turn, client, client', step⟩
  exact left_lt step

theorem Calling.settles (call : Calling) : Step.Settles Calling.step call := by
  have waiting (request : CallRequest) (id : Nat) :
      Step.Settles Calling.step (.waiting request id) := by
    refine .of_steps fun turn client client' next step => ?_
    simp only [Calling.step] at step
    split at step
    · cases step
    · cases step
    · cases step
    · split at step <;> cases step
  have sending (request : CallRequest) (id : Nat) (frame : Sending) :
      Step.Settles Calling.step (.sending request id frame) := by
    refine frame.settles.lift (Calling.sending request id) (fun _ _ _ => rfl) ?_
    intro turn client result client' whole step
    cases result with
    | error error => cases step
    | ok value =>
        cases step
        exact waiting request id
  cases call with
  | waiting request id => exact waiting request id
  | sending request id frame => exact sending request id frame
  | starting request =>
      refine .of_steps fun turn client client' next step => ?_
      simp only [Calling.step] at step
      split at step
      · cases step
      · split at step
        · cases step
        · cases step
          exact sending request _ _

theorem Opening.settles (document : Opening) : Step.Settles Opening.step document := by
  have sending (uri : String) (frame : Sending) :
      Step.Settles Opening.step (.sending uri frame) := by
    refine frame.settles.lift (Opening.sending uri) (fun _ _ _ => rfl) ?_
    intro turn client result client' whole step
    cases result <;> cases step
  have reading (path : Path) (uri : String) : Step.Settles Opening.step (.reading path uri) := by
    refine .of_steps fun turn client client' next step => ?_
    simp only [Opening.step] at step
    split at step
    · cases step
    · cases step
      exact sending uri _
  have locking (path : Path) (uri : String) : Step.Settles Opening.step (.locking path uri) := by
    refine .of_steps fun turn client client' next step => ?_
    simp only [Opening.step] at step
    split at step
    · split at step
      · cases step
      · cases step
        exact reading path uri
    · cases step
  cases document with
  | sending uri frame => exact sending uri frame
  | reading path uri => exact reading path uri
  | locking path uri => exact locking path uri
  | starting path =>
      refine .of_steps fun turn client client' next step => ?_
      simp only [Opening.step] at step
      split at step
      · cases step
      · cases step
        exact locking path _

theorem Preloading.settles (stage : Preloading) : Step.Settles Preloading.step stage := by
  have opening {left : List Path} (next : Step.Settles Preloading.step (.next left))
      (document : Opening) : Step.Settles Preloading.step (.opening document left) := by
    refine document.settles.lift (Preloading.opening · left) (fun _ _ _ => rfl) ?_
    intro turn client result client' whole step
    cases step
    exact next
  have next (left : List Path) : Step.Settles Preloading.step (.next left) := by
    induction left with
    | nil =>
        refine .of_steps fun turn client client' next step => ?_
        cases step
    | cons path left inductionHypothesis =>
        refine .of_steps fun turn client client' next step => ?_
        cases step
        exact opening inductionHypothesis _
  have finding (workspace : Path) : Step.Settles Preloading.step (.finding workspace) := by
    refine .of_steps fun turn client client' stage step => ?_
    cases step
    exact next _
  cases stage with
  | next left => exact next left
  | opening document left => exact opening (next left) document
  | finding workspace => exact finding workspace
  | starting family workspace =>
      refine .of_steps fun turn client client' stage step => ?_
      cases family <;> cases step
      exact finding workspace

theorem ClosingDocument.settles (document : ClosingDocument) :
    Step.Settles ClosingDocument.step document := by
  have sending (uri : String) (drop : Bool) (frame : Sending) :
      Step.Settles ClosingDocument.step (.sending uri drop frame) := by
    refine frame.settles.lift (ClosingDocument.sending uri drop) (fun _ _ _ => rfl) ?_
    intro turn client result client' whole step
    cases result <;> cases step
  have locking (uri : String) (drop : Bool) :
      Step.Settles ClosingDocument.step (.locking uri drop) := by
    refine .of_steps fun turn client client' next step => ?_
    simp only [ClosingDocument.step] at step
    split at step
    · split at step
      · cases step
        exact sending uri drop _
      · cases step
    · cases step
  cases document with
  | sending uri drop frame => exact sending uri drop frame
  | locking uri drop => exact locking uri drop
  | starting uri drop =>
      refine .of_steps fun turn client client' next step => ?_
      cases step
      exact locking uri drop

theorem ClosingAll.settles (stage : ClosingAll) : Step.Settles ClosingAll.step stage := by
  have closing {left : List String} (next : ∀ closed, Step.Settles ClosingAll.step (.next left closed))
      (document : ClosingDocument) (closed : Nat) :
      Step.Settles ClosingAll.step (.closing document left closed) := by
    refine document.settles.lift (ClosingAll.closing · left closed) (fun _ _ _ => rfl) ?_
    intro turn client result client' whole step
    rcases result with error | sent
    · cases step
      exact next closed
    · cases sent with
      | true | false =>
          cases step
          exact next _
  have next (left : List String) : ∀ closed, Step.Settles ClosingAll.step (.next left closed) := by
    induction left with
    | nil =>
        intro closed
        refine .of_steps fun turn client client' next step => ?_
        cases step
    | cons uri left inductionHypothesis =>
        intro closed
        refine .of_steps fun turn client client' next step => ?_
        cases step
        exact closing inductionHypothesis _ closed
  have listing : Step.Settles ClosingAll.step .listing := by
    refine .of_steps fun turn client client' stage step => ?_
    simp only [ClosingAll.step] at step
    split at step
    · cases step
      exact next _ 0
    · cases step
  cases stage with
  | next left closed => exact next left closed
  | closing document left closed => exact closing (next left) document closed
  | listing => exact listing
  | starting =>
      refine .of_steps fun turn client client' stage step => ?_
      cases step
      exact listing

theorem ClosingInput.settles (input : ClosingInput) : Step.Settles ClosingInput.step input := by
  have queued : Step.Settles ClosingInput.step .queued := by
    refine .of_steps fun turn client client' next step => ?_
    simp only [ClosingInput.step] at step
    split at step
    · split at step <;> cases step
    · cases step
  cases input with
  | queued => exact queued
  | asking =>
      refine .of_steps fun turn client client' next step => ?_
      cases step
      exact queued

/-- The closing of a client ends after finitely many steps, whatever clients these are
taken in. -/
theorem Closing.settles (stage : Closing) : Step.Settles Closing.step stage := by
  have settling (status : Option ExitStatus) : Step.Settles Closing.step (.settling status) := by
    refine .of_steps fun turn client client' next step => ?_
    cases step
  have awaiting (deadline : Nat) : Step.Settles Closing.step (.awaiting deadline) := by
    refine .of_steps fun turn client client' next step => ?_
    simp only [Closing.step] at step
    split at step
    · cases step
      exact settling _
    · cases step
      exact settling _
    · split at step
      · cases step
        exact settling _
      · cases step
  have reaping : Step.Settles Closing.step .reaping := by
    refine .of_steps fun turn client client' next step => ?_
    simp only [Closing.step] at step
    split at step
    · cases step
      exact settling _
    · cases step
      exact awaiting _
  have closingInput (input : Timed ClosingInput) : Step.Settles Closing.step (.closingInput input) := by
    have parts : Step.Settles (fun turn client => Timed.step (ClosingInput.step turn)
        (ClosingInput.abandon turn.task) (.timedOut "exit") client) input :=
      Step.Settles.timed (fun _ _ _ => ⟨_, _, rfl⟩) ClosingInput.settles input
    refine parts.lift Closing.closingInput (fun _ _ _ => rfl) ?_
    intro turn client result client' whole step
    cases step
    exact reaping
  have exiting (notice : Exiting) : Step.Settles Closing.step (.exiting notice) := by
    have parts : Step.Settles Exiting.step notice :=
      Step.Settles.timed (fun _ _ _ => ⟨_, _, rfl⟩) Sending.settles notice
    refine parts.lift Closing.exiting (fun _ _ _ => rfl) ?_
    intro turn client result client' whole step
    cases step
    exact closingInput _
  have shuttingDown (call : TimedCall) : Step.Settles Closing.step (.shuttingDown call) := by
    have parts : Step.Settles TimedCall.step call :=
      Step.Settles.timed (fun _ _ _ => ⟨_, _, rfl⟩) Calling.settles call
    refine parts.lift Closing.shuttingDown (fun _ _ _ => rfl) ?_
    intro turn client result client' whole step
    cases step
    exact exiting _
  have closingFiles (files : Timed ClosingAll) : Step.Settles Closing.step (.closingFiles files) := by
    have parts : Step.Settles (fun turn client => Timed.step (ClosingAll.step turn)
        (ClosingAll.abandon turn.task) (.timedOut "textDocument/didClose") client) files :=
      Step.Settles.timed (fun _ _ _ => ⟨_, _, rfl⟩) ClosingAll.settles files
    refine parts.lift Closing.closingFiles (fun _ _ _ => rfl) ?_
    intro turn client result client' whole step
    cases step
    exact shuttingDown _
  cases stage with
  | settling status => exact settling status
  | awaiting deadline => exact awaiting deadline
  | reaping => exact reaping
  | closingInput input => exact closingInput input
  | exiting notice => exact exiting notice
  | shuttingDown call => exact shuttingDown call
  | closingFiles files => exact closingFiles files
  | starting =>
      refine .of_steps fun turn client client' next step => ?_
      simp only [Closing.step] at step
      split at step
      · cases step
      · cases step
        exact closingFiles _

/-- An answer to the server is sent after finitely many steps. -/
theorem Answering.settles (stage : Answering) : Step.Settles Answering.step stage := by
  have sending (frame : Sending) : Step.Settles Answering.step (.sending frame) :=
    frame.settles.map Answering.sending fun _ _ _ => rfl
  have resting (id : Json) (wakeTime : Nat) (answer : Answer) :
      Step.Settles Answering.step (.resting id wakeTime answer) := by
    refine .of_steps fun turn client client' next step => ?_
    simp only [Answering.step] at step
    split at step
    · cases step
      exact sending _
    · cases step
  have editing (id : Json) (progress : WorkspaceEdit.Progress) :
      Step.Settles Answering.step (.working id (.editing progress)) := by
    induction amount : progress.remaining using Nat.strong_induction_on generalizing progress with
    | _ amount inductionHypothesis =>
        subst amount
        refine .of_steps fun turn client client' next step => ?_
        simp only [Answering.step] at step
        split at step
        · cases step
          exact sending _
        · rename_i underWay
          cases step
          exact inductionHypothesis _
            (WorkspaceEdit.Progress.remaining_step_lt underWay (some turn.portion) client.files) _ rfl
  cases stage with
  | sending frame => exact sending frame
  | resting id wakeTime answer => exact resting id wakeTime answer
  | working id work =>
      cases work with
      | editing progress => exact editing id progress
      | answered answer =>
          refine .of_steps fun turn client client' next step => ?_
          cases step
          exact sending _
      | delayed milliseconds answer =>
          refine .of_steps fun turn client client' next step => ?_
          cases step
          exact resting id _ answer

/-! ## Sessions -/

namespace Operation

theorem settles_close (stage : Closing) : Step.Settles Operation.step (.close stage) :=
  stage.settles.map Operation.close fun _ _ _ => rfl

theorem settles_closeAll (stage : ClosingAll) :
    Step.Settles Operation.step (.closeAll stage) :=
  stage.settles.map Operation.closeAll fun _ _ _ => rfl

theorem settles_answer (stage : Answering) : Step.Settles Operation.step (.answer stage) :=
  stage.settles.map Operation.answer fun _ _ _ => rfl

/-- An operation comes right behind one that settles. -/
def Follows (next operation : Operation) : Prop :=
  Step.Leads Operation.step next operation ∧ Step.Settles Operation.step operation

theorem wellFounded_follows : WellFounded Follows := by
  constructor
  intro operation
  constructor
  rintro next ⟨leads, settles⟩
  exact Subrelation.accessible And.left (settles.inv leads)

end Operation

namespace Session

/-- The client takes a step by itself: an operation does, or the read loop. -/
def GoesOn (after session : Session) : Prop :=
  ∃ action, (action = .read ∨ ∃ task portion, action = .advance task portion) ∧
    session.apply action = some after

/-- How much is left to the read loop. -/
def readingLeft (session : Session) : Nat :=
  match session.loop with
  | .reading => session.inbound.bytes.length + 3
  | .lost _ => 2
  | .leaving _ => 1
  | .finished => 0

/-- The operations under way, in no order. -/
def underway (session : Session) : Multiset Operation :=
  ((List.range session.nextTask).filterMap session.task? : List Operation)

/-- All operations under way settle. -/
def Settles (session : Session) : Prop :=
  ∀ task operation, session.task? task = some operation → Step.Settles Operation.step operation

variable {session after : Session} {action : Action}

theorem underway_eq
    {task : TaskId} (old : task < session.nextTask) :
    session.underway = ((session.task? task).toList : Multiset Operation) +
      (((List.range session.nextTask).erase task).filterMap session.task? : List Operation) := by
  have isOld : task ∈ List.range session.nextTask := List.mem_range.mpr old
  have split := (List.perm_cons_erase isOld).filterMap session.task?
  rw [underway, Multiset.coe_add, Multiset.coe_eq_coe]
  refine split.trans ?_
  cases found : session.task? task with
  | none => rw [List.filterMap_cons_none found]; rfl
  | some operation => rw [List.filterMap_cons_some found]; rfl

/-- The read loop uses up what there is to read. -/
theorem Effect.readingLeft_lt
    (effect : Effect session action after) (isRead : action = .read) :
    after.readingLeft < session.readingLeft := by
  have uses {rest : List UInt8} (goesOn : (Frame.read session.inbound).rest? = some rest) :
      rest.length + 3 < session.inbound.bytes.length + 3 :=
    Nat.add_lt_add_right (Frame.length_lt_of_rest? goesOn) 3
  cases effect with
  | @dispatched value rest reading read =>
      let passed : Session := { session with inbound := ⟨rest, session.inbound.ending⟩ }
      have sameLoop : (passed.dispatch value).loop = .reading :=
        (passed.dispatch_leaves value).1.trans reading
      have sameInbound : (passed.dispatch value).inbound = passed.inbound :=
        passed.dispatch_inbound value
      change (passed.dispatch value).readingLeft < _
      simp only [readingLeft, reading, sameLoop, sameInbound]
      exact uses (by rw [read]; rfl)
  | skipped reading read =>
      simp only [readingLeft, reading]
      exact uses (by rw [read]; rfl)
  | lost reason reading noFrame =>
      simp only [readingLeft, reading]
      omega
  | drained lost => simp [readingLeft, lost]
  | left leaving => simp [readingLeft, leaving]
  | handled handlers noTask notRead => exact absurd isRead notRead
  | _ => cases isRead

/-- A step of an operation leaves the others and the read loop as they are. -/
theorem Effect.of_advance
    (effect : Effect session action after) {task : TaskId} {portion : Nat}
    (advances : action = .advance task portion) :
    after.nextTask = session.nextTask ∧ after.readingLeft = session.readingLeft := by
  subst advances
  cases effect with
  | advanced | ended => exact ⟨rfl, rfl⟩
  | handled handlers noTask => cases noTask

theorem Effect.leads
    (effect : Effect session action after) {task : TaskId} {portion : Nat}
    (advances : action = .advance task portion) {operation next : Operation}
    (found : session.task? task = some operation) (foundNext : after.task? task = some next) :
    Step.Leads Operation.step next operation := by
  subst advances
  cases effect with
  | @advanced _ _ _ next' client found' step =>
      have isOn : ({ session with client } : Session).task? task = some operation := found
      rw [task?_setTask, if_pos rfl, isOn] at foundNext
      obtain rfl := Option.some.inj foundNext
      obtain rfl := Option.some.inj (found.symm.trans found')
      exact ⟨_, _, _, step⟩
  | @ended _ _ _ client result found' step =>
      have isOver := ({ session with client } : Session).task?_dropTask task task
      rw [if_pos rfl] at isOver
      cases isOver.symm.trans foundNext
  | handled handlers noTask => cases noTask

/-- A step of an operation leaves less of that operation, and the others as they are. -/
theorem Effect.cutExpand_underway
    (effect : Effect session action after) (fresh : session.HasFreshTask)
    (settles : session.Settles) {task : TaskId} {portion : Nat} (advances : action = .advance task portion) :
    Relation.CutExpand Operation.Follows after.underway session.underway := by
  have isTask : action.task? = some task := by rw [advances]; rfl
  obtain ⟨operation, found⟩ := effect.exists_operation isTask
  have old := fresh.lt found
  have sameNext := (effect.of_advance advances).1
  have sameOthers : ((List.range session.nextTask).erase task).filterMap after.task? =
      ((List.range session.nextTask).erase task).filterMap session.task? := by
    apply List.filterMap_congr
    intro other member
    obtain ⟨different, isOld⟩ := List.nodup_range.mem_erase_iff.mp member
    apply effect.task?_of_ne fresh (List.mem_range.mp isOld)
    rw [isTask]
    exact fun same => different (Option.some.inj same).symm
  have before := underway_eq old
  have afterwards := underway_eq (sameNext ▸ old)
  rw [sameNext, sameOthers] at afterwards
  refine ⟨(after.task? task).toList, operation, ?_, ?_⟩
  · intro next isNext
    have foundNext : after.task? task = some next := by simpa using isNext
    exact ⟨effect.leads advances found foundNext, settles task operation found⟩
  · rw [afterwards, before, found, Option.toList_some, Multiset.coe_singleton, add_comm,
      ← add_assoc, add_right_comm]

theorem Settles.goesOn
    (settles : session.Settles) (fresh : session.HasFreshTask) (goesOn : GoesOn after session) :
    after.Settles ∧ after.HasFreshTask := by
  obtain ⟨action, own, applied⟩ := goesOn
  have effect := effect_of_apply applied
  refine ⟨fun task operation found => ?_, fresh.effect effect⟩
  cases effect.origin fresh found with
  | kept same => exact settles task operation same
  | begun command isAction new =>
      rcases own with rfl | ⟨_, _, rfl⟩ <;> cases isAction
  | asked id work new => exact Operation.settles_answer _
  | stepped isAction before step => exact (settles task _ before).inv ⟨_, _, _, step⟩

/-- Every step of the client leaves less to read, or as much to read and less to do. -/
theorem Settles.lex_of_goesOn
    (settles : session.Settles) (fresh : session.HasFreshTask) (goesOn : GoesOn after session) :
    Prod.Lex (· < ·) (Relation.CutExpand Operation.Follows)
      (after.readingLeft, after.underway) (session.readingLeft, session.underway) := by
  obtain ⟨action, own, applied⟩ := goesOn
  have effect := effect_of_apply applied
  rcases own with rfl | ⟨task, portion, rfl⟩
  · exact .left _ _ (effect.readingLeft_lt rfl)
  · rw [(effect.of_advance rfl).2]
    exact .right _ (effect.cutExpand_underway fresh settles rfl)

/-- A client whose operations settle comes to rest. -/
theorem Settles.acc_goesOn
    (settles : session.Settles) (fresh : session.HasFreshTask) : Acc GoesOn session := by
  have wellFounded : WellFounded (Prod.Lex (fun left right : Nat => left < right)
      (Relation.CutExpand Operation.Follows)) :=
    WellFounded.prod_lex Nat.lt_wfRel.wf Operation.wellFounded_follows.cutExpand
  induction size : (session.readingLeft, session.underway) using wellFounded.induction
    generalizing session with
  | _ size inductionHypothesis =>
      subst size
      constructor
      intro after goesOn
      obtain ⟨settlesOn, freshOn⟩ := settles.goesOn fresh goesOn
      exact inductionHypothesis _ (settles.lex_of_goesOn fresh goesOn) settlesOn freshOn rfl

end Session

end LanguageClient
