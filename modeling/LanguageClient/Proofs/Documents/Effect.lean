import LanguageClient.Proofs.Documents.Move
import LanguageClient.Proofs.Session.Effect

/-!
# What happens to the documents of a session

Only operations change the table of the documents, and only those that hold its lock.
-/

namespace LanguageClient

namespace Session

def documentUse (session : Session) : TaskId → DocumentUse :=
  session.view Operation.documentUse .apart

/-- Whether an action drops an operation in the middle of telling the server about a
document, because its user gives it up or because its time is over. -/
def dropsNotice (session : Session) : Action → Bool
  | .advance task portion =>
      session.view (Operation.dropsNotice ⟨task, portion⟩ session.client) false task
  | .abandon task => (session.documentUse task).isTelling
  | _ => false

/-- What an action does to the documents: the operation of a task makes a move, or nothing
happens.  A task may be dropped in the middle of telling the server only when something
allows that. -/
inductive DocumentEffect
    (mayDrop : Prop) (session : Session) (action : Action) (after : Session) : Prop
  | moved (turn : Turn) :
      (action = .advance turn.task turn.portion ∨
        action = .abandon turn.task ∧
          ((session.documentUse turn.task).isTelling = true → mayDrop)) →
      DocumentMove turn session.client mayDrop (session.documentUse turn.task)
        after.client.shelf (after.documentUse turn.task) →
      (∀ other, other ≠ turn.task → after.documentUse other = session.documentUse other) →
      DocumentEffect mayDrop session action after
  | quiet :
      action.task? = none →
      after.client.shelf = session.client.shelf →
      (∀ task, after.documentUse task = session.documentUse task) →
      DocumentEffect mayDrop session action after

/-- A step of a task is a move of that task. -/
theorem DocumentEffect.of_advance
    {session after : Session} {action : Action} {turn : Turn} {mayDrop : Prop}
    (effect : DocumentEffect mayDrop session action after)
    (advances : action = .advance turn.task turn.portion) :
    DocumentMove turn session.client mayDrop (session.documentUse turn.task)
      after.client.shelf (after.documentUse turn.task) := by
  cases effect with
  | moved turn' isAction move others =>
      have sameTurn : turn' = turn := by
        rcases isAction with same | ⟨same, _⟩
        · rw [advances] at same
          cases turn
          cases turn'
          cases same
          rfl
        · rw [advances] at same
          cases same
      exact sameTurn ▸ move
  | quiet noTask sameShelf sameUse =>
      rw [advances] at noTask
      cases noTask

/-- Every action has one of the effects on the documents. -/
theorem Effect.documents
    {session after : Session} {action : Action} {mayDrop : Prop}
    (effect : Effect session action after) (fresh : session.HasFreshTask)
    (allowed : session.dropsNotice action = true → mayDrop) :
    DocumentEffect mayDrop session action after := by
  cases effect with
  | started command =>
      exact .quiet rfl rfl
        (view_spawn_of_nothing fresh (Operation.documentUse_begin session.client command))
  | @advanced task portion operation next client found step =>
      have moves := operation.step_documentMoves ⟨task, portion⟩ session.client mayDrop
        fun drops => allowed ((view_of_found found).trans drops)
      rw [step] at moves
      have found' : ({ session with client } : Session).task? task = some operation := found
      have before : session.documentUse task = operation.documentUse := view_of_found found
      have afterwards :
          (({ session with client } : Session).setTask task next).documentUse task =
            next.documentUse :=
        view_setTask found' next
      refine .moved ⟨task, portion⟩ (Or.inl rfl) ?_
        fun other different => view_setTask_of_ne different next
      rw [before, afterwards]
      exact moves
  | @ended task portion operation client result found step =>
      have moves := operation.step_documentMoves ⟨task, portion⟩ session.client mayDrop
        fun drops => allowed ((view_of_found found).trans drops)
      rw [step] at moves
      have before : session.documentUse task = operation.documentUse := view_of_found found
      have afterwards :
          (({ session with client } : Session).dropTask task).documentUse task = .apart :=
        view_dropTask _ task
      refine .moved ⟨task, portion⟩ (Or.inl rfl) ?_
        fun other different => view_dropTask_of_ne different
      rw [before]
      exact afterwards ▸ moves
  | @abandoned task operation found noAnswer =>
      have before : session.documentUse task = operation.documentUse := view_of_found found
      have afterwards : (session.dropTask task).documentUse task = .apart :=
        view_dropTask session task
      refine .moved ⟨task, 0⟩ (Or.inr ⟨rfl, allowed⟩) ?_
        fun other different => view_dropTask_of_ne different
      have move := operation.abandon_documentMove ⟨task, 0⟩ session.client mayDrop
        (before ▸ allowed)
      rw [before]
      exact afterwards ▸ move
  | @dispatched value rest reading read =>
      let passed : Session := { session with inbound := ⟨rest, session.inbound.ending⟩ }
      have passedFresh : passed.HasFreshTask := fresh
      obtain ⟨_, calls, diagnostics, sameClient⟩ := passed.dispatch_leaves value
      have sameShelf := congrArg Client.shelf sameClient
      exact .quiet rfl sameShelf (view_dispatch passedFresh value fun _ _ => rfl)
  | handled handlers noTask _ => exact .quiet noTask rfl fun _ => rfl
  | _ => exact .quiet rfl rfl fun _ => rfl

end Session

end LanguageClient
