import LanguageClient.Proofs.Documents.Shelf
import LanguageClient.Proofs.Documents.Sync
import LanguageClient.Proofs.Session.Rest

/-!
# Open documents at rest

Whoever holds the lock of the documents waits for nothing but the stream.  So at rest, when
nobody is in the middle of a frame, nobody waits for the stream nor for the documents.
-/

namespace LanguageClient

/-- What keeps a task from its next step on the documents: somebody else has the lock, or
the notice cannot be sent. -/
def DocumentUse.IsHeldUp (turn : Turn) (client : Client) : DocumentUse → Prop
  | .apart => True
  | .queued _ => client.documentsLock.isHeldBy turn.task = false
  | .opening _ | .changing _ _ => False
  | .telling _ _ _ frame => frame.step turn client = .blocked

variable {turn : Turn} {client : Client}

theorem Opening.document_isHeldUp_of_blocked
    {document : Opening} (blocked : document.step turn client = .blocked) :
    document.documentUse.IsHeldUp turn client := by
  cases document with
  | starting path => trivial
  | locking path uri =>
      simp only [step] at blocked
      split at blocked
      · split at blocked <;> cases blocked
      · rename_i notHeld
        exact Bool.eq_false_iff.mpr notHeld
  | reading path uri =>
      simp only [step] at blocked
      split at blocked <;> cases blocked
  | sending uri frame =>
      refine Step.eq_blocked_of_lift blocked ?_
      intro client' result
      cases result <;> simp

theorem Changing.document_isHeldUp_of_blocked
    {document : Changing} (blocked : document.step turn client = .blocked) :
    document.documentUse.IsHeldUp turn client := by
  cases document with
  | starting path => trivial
  | locking path uri =>
      simp only [step] at blocked
      split at blocked
      · split at blocked <;> cases blocked
      · rename_i notHeld
        exact Bool.eq_false_iff.mpr notHeld
  | reading path uri version =>
      simp only [step] at blocked
      split at blocked <;> cases blocked
  | sending uri version frame =>
      refine Step.eq_blocked_of_lift blocked ?_
      intro client' result
      cases result <;> simp

theorem ClosingDocument.document_isHeldUp_of_blocked
    {document : ClosingDocument} (blocked : document.step turn client = .blocked) :
    document.documentUse.IsHeldUp turn client := by
  cases document with
  | starting uri drop => trivial
  | locking uri drop =>
      simp only [step] at blocked
      split at blocked
      · split at blocked <;> cases blocked
      · rename_i notHeld
        exact Bool.eq_false_iff.mpr notHeld
  | sending uri drop frame =>
      refine Step.eq_blocked_of_lift blocked ?_
      intro client' result
      cases result <;> simp

theorem ClosingAll.document_isHeldUp_of_blocked
    {stage : ClosingAll} (blocked : stage.step turn client = .blocked) :
    stage.documentUse.IsHeldUp turn client := by
  cases stage with
  | listing =>
      simp only [step] at blocked
      split at blocked
      · cases blocked
      · rename_i notHeld
        exact Bool.eq_false_iff.mpr notHeld
  | closing document left closed =>
      apply ClosingDocument.document_isHeldUp_of_blocked
      refine Step.eq_blocked_of_lift blocked ?_
      intro client' result
      rcases result with error | sent
      · simp
      · cases sent <;> simp
  | starting | next => trivial

theorem Preloading.document_isHeldUp_of_blocked
    {files : Preloading} (blocked : files.step turn client = .blocked) :
    files.documentUse.IsHeldUp turn client := by
  cases files with
  | opening document left =>
      apply Opening.document_isHeldUp_of_blocked
      exact Step.eq_blocked_of_lift blocked fun _ _ => Step.running_ne_blocked _ _
  | starting | finding | next => trivial

/-- An operation that has to wait is held up on the documents if it has to do with them. -/
theorem Operation.document_isHeldUp_of_blocked
    {operation : Operation} (blocked : operation.step turn client = .blocked) :
    operation.documentUse.IsHeldUp turn client := by
  cases operation with
  | openSession stage =>
      cases stage with
      | preloading result files =>
          apply Preloading.document_isHeldUp_of_blocked
          refine Step.eq_blocked_of_lift (Step.eq_blocked_of_map blocked) ?_
          intro client' loaded
          cases loaded <;> simp
      | _ => trivial
  | openFile stage => exact Opening.document_isHeldUp_of_blocked (Step.eq_blocked_of_map blocked)
  | changeFile stage =>
      exact Changing.document_isHeldUp_of_blocked (Step.eq_blocked_of_map blocked)
  | closeDocument stage =>
      exact ClosingDocument.document_isHeldUp_of_blocked (Step.eq_blocked_of_map blocked)
  | closeAll stage =>
      exact ClosingAll.document_isHeldUp_of_blocked (Step.eq_blocked_of_map blocked)
  | close stage =>
      cases stage with
      | closingFiles files =>
          obtain ⟨deadline, _, inside, _⟩ :=
            Timed.underway_of_lift (Step.eq_blocked_of_map blocked)
          exact ClosingAll.document_isHeldUp_of_blocked inside
      | _ => trivial
  | preload stage => exact Preloading.document_isHeldUp_of_blocked (Step.eq_blocked_of_map blocked)
  | _ => trivial

/-- The first in the queue of a lock holds it. -/
theorem Lock.isHeldBy_head
    {lock : Lock} {task : TaskId} {mode : LockMode} {others : List (TaskId × LockMode)}
    (queue : lock.queue = (task, mode) :: others) : lock.isHeldBy task = true := by
  cases mode <;> simp [isHeldBy, holders, queue]

namespace Run

variable {client : Client} {session : Session} {past : List Transition}

/-- At rest, when nobody is in the middle of a frame, nobody waits for the writer. -/
theorem use_of_isAtRest
    (run : Run (Session.connect client) past session) (fresh : client.HasFreshOutlet)
    (atRest : session.IsAtRest)
    (nobodyWrites : ∀ task message rest, session.use task ≠ .writing message rest)
    (task : TaskId) : session.use task = .apart := by
  by_contra uses
  obtain ⟨_, _, holder, message, rest, writes, _⟩ := run.exists_stalled_of_isAtRest fresh atRest uses
  exact nobodyWrites holder message rest writes

/-- At rest, when nobody uses the stream, nobody has to do with the documents. -/
theorem documentUse_of_isAtRest
    (run : Run (Session.connect client) past session) (noLock : client.documentsLock = .free)
    (atRest : session.IsAtRest) (unused : ∀ task, session.use task = .apart) (task : TaskId) :
    session.documentUse task = .apart := by
  have invariant := run.shelfInvariant noLock
  have isProper : session.IsProper fun _ => True := run.isProper fun _ _ _ _ _ => trivial
  cases queue : session.client.documentsLock.queue with
  | nil =>
      have noMode : ∀ mode, (session.documentUse task).mode? ≠ some mode := by
        intro mode isMode
        have queued := (invariant.queued task mode).mpr isMode
        have empty : session.client.shelf.lock.queue = [] := queue
        simp [empty] at queued
      cases uses : session.documentUse task with
      | apart => rfl
      | _ => exact absurd (by rw [uses]; rfl) (noMode _)
  | cons first others =>
      -- The first in the queue holds the lock, so that only the stream can hold it up.
      obtain ⟨holder, mode⟩ := first
      have wholeQueue : session.client.shelf.lock.queue = (holder, mode) :: others := queue
      have isMode : (session.documentUse holder).mode? = some mode :=
        (invariant.queued holder mode).mp (by simp [wholeQueue])
      have uses : session.documentUse holder ≠ .apart := by
        intro apart
        rw [apart] at isMode
        cases isMode
      obtain ⟨operation, found, sameUse⟩ := Session.found_of_view rfl uses
      have heldUp := Operation.document_isHeldUp_of_blocked (atRest.step_eq_blocked found 0)
      rw [sameUse] at heldUp
      change (session.documentUse holder).IsHeldUp ⟨holder, 0⟩ session.client at heldUp
      cases held : session.documentUse holder with
      | apart => exact absurd held uses
      | queued mode' =>
          rw [held] at heldUp
          exact absurd (heldUp.symm.trans (Lock.isHeldBy_head queue)) Bool.false_ne_true
      | opening uri => rw [held] at heldUp; exact heldUp.elim
      | changing uri version => rw [held] at heldUp; exact heldUp.elim
      | telling uri event drop frame =>
          rw [held] at heldUp
          have sameStage := (isProper.use_of_telling held).1
          rw [unused holder] at sameStage
          cases frame with
          | asking message => cases heldUp
          | queued message => cases sameStage
          | writing message rest => cases sameStage

end Run

end LanguageClient
