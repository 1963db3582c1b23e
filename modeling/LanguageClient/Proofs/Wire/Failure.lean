import LanguageClient.Proofs.Wire.Log

/-!
# Streams that fail

A stream whose reader has gone or that the client has closed takes no more bytes, and it
stays so.
-/

namespace LanguageClient

/-- Whether the reader of a stream has gone, or the client has closed it. -/
def Outlet.IsDead (outlet : Outlet) : Prop :=
  outlet.pipe.isBroken = true ∨ outlet.isInputOpen = false

/-- A frame that cannot be sent is sent to a dead stream. -/
theorem Sending.isDead_of_error
    {turn : Turn} {client client' : Client} {frame : Sending} {error : ClientError}
    (step : frame.step turn client = .finished client' (.error error)) :
    client.outlet.IsDead := by
  cases frame with
  | asking message => cases step
  | queued message =>
      simp only [Sending.step] at step
      split at step
      · split at step
        · cases step
        · rename_i closed
          exact Or.inr (Bool.not_eq_true _ ▸ closed)
      · cases step
  | writing message rest =>
      cases rest with
      | nil => cases step
      | cons byte rest =>
          simp only [Sending.step] at step
          split at step
          · rename_i broken
            exact Or.inl broken
          · split at step
            · cases step
            · cases step

theorem WriterMove.isDead
    {task : TaskId} {outlet outlet' : Outlet} {before after : WriterUse}
    (move : WriterMove task outlet before outlet' after) (dead : outlet.IsDead) :
    outlet'.IsDead := by
  cases move with
  | shut held isOpen => exact Or.inr rfl
  | _ => exact dead

/-- A dead stream stays dead. -/
theorem Session.WireEffect.isDead
    {session after : Session} {action : Action} (effect : WireEffect session action after)
    (dead : session.client.outlet.IsDead) : after.client.outlet.IsDead := by
  cases effect with
  | moved isTask move others => exact move.isDead dead
  | quiet noTask sameUse sameOutlet => exact sameOutlet ▸ dead
  | taken count noTask sameUse unbroken outlet =>
      rw [outlet]
      exact dead
  | broken noTask sameUse outlet =>
      rw [outlet]
      exact Or.inl rfl

/-- A task that is in the middle of a frame after a move was it before, or has found the
stream open. -/
private theorem WriterMove.isInputOpen_of_writing
    {task : TaskId} {outlet outlet' : Outlet} {before after : WriterUse}
    (move : WriterMove task outlet before outlet' after)
    (isOpen : ∀ {message rest}, before = .writing message rest → outlet.isInputOpen = true)
    {message : Outgoing} {rest : List UInt8} (writes : after = .writing message rest) :
    outlet'.isInputOpen = true := by
  cases move with
  | rest => exact isOpen writes
  | begin message held isInputOpen => exact isInputOpen
  | put message bytes rest unbroken nonempty fits => exact isOpen rfl
  | _ => cases writes

/-- Nobody closes the stream while another task is in the middle of a frame. -/
private theorem WireInvariant.isInputOpen_of_writing
    {log : List Segment} {outlet outlet' : Outlet} {use : TaskId → WriterUse}
    {task other : TaskId} {after : WriterUse} {message : Outgoing} {rest : List UInt8}
    (invariant : WireInvariant log outlet use)
    (move : WriterMove task outlet (use task) outlet' after) (different : other ≠ task)
    (writes : use other = .writing message rest) (isOpen : outlet.isInputOpen = true) :
    outlet'.isInputOpen = true := by
  generalize before : use task = used at move
  cases move with
  | shut held _ =>
      have led := invariant.isLedBy (by simp [before]) held
      have otherLed := (invariant.writing other message rest writes).1
      exact absurd (led.unique otherLed) different
  | _ => exact isOpen

namespace Run

variable {client : Client} {session : Session} {past : List Transition}

/-- Nobody is in the middle of a frame when the client closes the stream, nor later. -/
theorem isInputOpen_of_writing
    (run : Run (Session.connect client) past session) (fresh : client.HasFreshOutlet)
    {task : TaskId} {message : Outgoing} {rest : List UInt8}
    (writes : session.use task = .writing message rest) : session.client.isInputOpen = true := by
  induction run generalizing task message rest with
  | refl => cases writes
  | @step past session after action run applied inductionHypothesis =>
      cases (Session.effect_of_apply applied).wire run.hasFreshTask with
      | @moved mover isTask move others =>
          have invariant := run.wireInvariant fresh
          by_cases same : task = mover
          · subst same
            exact move.isInputOpen_of_writing inductionHypothesis writes
          · rw [others task same] at writes
            exact invariant.isInputOpen_of_writing move same writes (inductionHypothesis writes)
      | quiet noTask sameUse sameOutlet =>
          have sameInput := congrArg Outlet.isInputOpen sameOutlet
          rw [sameUse] at writes
          exact sameInput.trans (inductionHypothesis writes)
      | taken count noTask sameUse unbroken outlet =>
          have sameInput := congrArg Outlet.isInputOpen outlet
          rw [sameUse] at writes
          exact sameInput.trans (inductionHypothesis writes)
      | broken noTask sameUse outlet =>
          have sameInput := congrArg Outlet.isInputOpen outlet
          rw [sameUse] at writes
          exact sameInput.trans (inductionHypothesis writes)

end Run

end LanguageClient
