/-!
# Locks

A lock is given to tasks in the order in which they ask for it.  Tasks that share
it may hold it at the same time, as long as nobody before them wants it alone.
-/

namespace LanguageClient

abbrev TaskId := Nat

inductive LockMode where
  | exclusive
  | shared
deriving DecidableEq, Repr

/-- A lock: the tasks that hold it or wait for it, in the order they asked. -/
structure Lock where
  queue : List (TaskId × LockMode)
deriving DecidableEq, Repr

namespace Lock

def free : Lock := ⟨[]⟩

def ask (lock : Lock) (task : TaskId) (mode : LockMode) : Lock :=
  ⟨lock.queue ++ [(task, mode)]⟩

def holders (lock : Lock) : List TaskId :=
  match lock.queue with
  | (task, .exclusive) :: _ => [task]
  | queue => (queue.takeWhile fun entry => entry.2 = .shared).map Prod.fst

def isHeldBy (lock : Lock) (task : TaskId) : Bool :=
  lock.holders.contains task

/-- A task gives the lock back, or stops waiting for it. -/
def release (lock : Lock) (task : TaskId) : Lock :=
  ⟨lock.queue.filter fun entry => entry.1 ≠ task⟩

end Lock

end LanguageClient
