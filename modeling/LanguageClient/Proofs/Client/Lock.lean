import LanguageClient.Client.Lock
import Mathlib.Data.List.Nodup
import Mathlib.Data.List.TakeWhile

/-!
# Locks wanted by one task alone

A task that holds a lock alone is the first in the queue, and stays the first
whatever the other tasks do, until it gives the lock back.
-/

namespace LanguageClient.Lock

/-- No task is twice in the queue. -/
def IsOrderly (lock : Lock) : Prop :=
  (lock.queue.map Prod.fst).Nodup

/-- The first in the queue is a task that wants the lock alone. -/
def IsLedBy (lock : Lock) (task : TaskId) : Prop :=
  ∃ rest, lock.queue = (task, .exclusive) :: rest

theorem isOrderly_free : free.IsOrderly :=
  List.nodup_nil

theorem IsOrderly.ask
    {lock : Lock} {task : TaskId} (orderly : lock.IsOrderly)
    (new : task ∉ lock.queue.map Prod.fst) (mode : LockMode) :
    (lock.ask task mode).IsOrderly := by
  unfold IsOrderly Lock.ask
  rw [List.map_append, List.nodup_append]
  refine ⟨orderly, List.nodup_singleton _, ?_⟩
  intro queued member asking same
  rw [List.map_singleton, List.mem_singleton] at same
  rintro rfl
  subst same
  exact new member

theorem IsOrderly.release
    {lock : Lock} (orderly : lock.IsOrderly) (task : TaskId) :
    (lock.release task).IsOrderly :=
  List.Nodup.sublist (List.filter_sublist.map _) orderly

theorem mem_ask
    (lock : Lock) (task other : TaskId) (mode : LockMode) :
    other ∈ (lock.ask task mode).queue.map Prod.fst ↔
      other ∈ lock.queue.map Prod.fst ∨ other = task := by
  simp [ask]

theorem mem_release
    (lock : Lock) (task other : TaskId) :
    other ∈ (lock.release task).queue.map Prod.fst ↔
      other ∈ lock.queue.map Prod.fst ∧ other ≠ task := by
  unfold release
  simp only [List.mem_map, List.mem_filter, decide_eq_true_eq]
  constructor
  · rintro ⟨entry, ⟨member, different⟩, rfl⟩
    exact ⟨⟨entry, member, rfl⟩, different⟩
  · rintro ⟨⟨entry, member, rfl⟩, different⟩
    exact ⟨entry, ⟨member, different⟩, rfl⟩

theorem IsLedBy.unique
    {lock : Lock} {task other : TaskId} (led : lock.IsLedBy task)
    (alsoLed : lock.IsLedBy other) : other = task := by
  obtain ⟨rest, queue⟩ := led
  obtain ⟨rest', queue'⟩ := alsoLed
  rw [queue] at queue'
  exact (congrArg Prod.fst (List.cons.inj queue').1).symm

theorem IsLedBy.ask
    {lock : Lock} {task : TaskId} (led : lock.IsLedBy task) (other : TaskId)
    (mode : LockMode) : (lock.ask other mode).IsLedBy task := by
  obtain ⟨rest, queue⟩ := led
  exact ⟨rest ++ [(other, mode)], by simp [Lock.ask, queue]⟩

theorem IsLedBy.release
    {lock : Lock} {task other : TaskId} (led : lock.IsLedBy task)
    (different : task ≠ other) : (lock.release other).IsLedBy task := by
  obtain ⟨rest, queue⟩ := led
  exact ⟨rest.filter fun entry => entry.1 ≠ other, by simp [Lock.release, queue, different]⟩

theorem IsLedBy.isHeldBy
    {lock : Lock} {task : TaskId} (led : lock.IsLedBy task) : lock.isHeldBy task = true := by
  obtain ⟨rest, queue⟩ := led
  simp [Lock.isHeldBy, holders, queue]

/-- A task that wants a lock alone holds it only as the first in the queue. -/
theorem isLedBy_of_isHeldBy
    {lock : Lock} {task : TaskId} (orderly : lock.IsOrderly)
    (alone : (task, LockMode.exclusive) ∈ lock.queue)
    (held : lock.isHeldBy task = true) : lock.IsLedBy task := by
  unfold isHeldBy holders at held
  split at held
  · rename_i first rest queue
    have same : task = first := by simpa using held
    exact ⟨rest, by rw [queue, same]⟩
  · rw [List.contains_iff_mem, List.mem_map] at held
    obtain ⟨entry, member, sameTask⟩ := held
    have sharedMode := List.mem_takeWhile_imp member
    have queued : entry ∈ lock.queue := (List.takeWhile_sublist _).subset member
    have sameEntry : entry = (task, LockMode.exclusive) :=
      List.inj_on_of_nodup_map orderly queued alone sameTask
    rw [sameEntry] at sharedMode
    simp at sharedMode

end LanguageClient.Lock
