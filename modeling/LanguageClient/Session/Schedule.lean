import LanguageClient.Session.Basic

/-!
# Running a session

One order in which the operations of a session take their steps, up to the point
where all of them have to wait.  A task runs until it has to wait; those it wakes
queue up behind the others.  Work on files is done when nobody else is ready, and
the tasks that have such work take turns at it.
-/

namespace LanguageClient

inductive Runner where
  | task (id : TaskId)
  | readLoop
  /-- The server. -/
  | server
deriving DecidableEq, Repr

/-- What a server does by itself: the actions it takes next, and the server
afterwards; `none` if it waits. -/
abbrev ServerTurn (σ : Type) := σ → Session → Option (List Action × σ)

structure Schedule (σ : Type) where
  session : Session
  server : σ
  queue : List Runner := []
  /-- The first of the tasks whose turn it is at work on files. -/
  slowFrom : TaskId := 0

namespace Schedule

variable {σ : Type}

/-- The greatest number of bytes written at once. -/
def greatestPortion : Nat := 1073741824

/-- Whether a task is ready for a step that is not slow. -/
def isReady (session : Session) (entry : TaskId × Operation) : Bool :=
  !entry.2.isSlow &&
    match entry.2.step ⟨entry.1, greatestPortion⟩ session.client with
    | .blocked => false
    | _ => true

/-- Puts a runner at the end of the queue unless it is there. -/
def enqueue (schedule : Schedule σ) (runner : Runner) : Schedule σ :=
  if schedule.queue.contains runner then schedule
  else { schedule with queue := schedule.queue ++ [runner] }

/-- Queues the tasks that have become ready, and the server if it is. -/
def wake (turn : ServerTurn σ) (schedule : Schedule σ) : Schedule σ :=
  let idle := schedule.session.tasks.filter fun entry =>
    !schedule.queue.contains (.task entry.1)
  let ready := idle.filter (isReady schedule.session)
  let schedule := { schedule with queue := schedule.queue ++ ready.map fun entry => .task entry.1 }
  if (turn schedule.server schedule.session).isSome then schedule.enqueue .server else schedule

/-- One step of a runner; `none` if it has to wait. -/
def attempt (turn : ServerTurn σ) (schedule : Schedule σ) : Runner → Option (Schedule σ)
  | .task id =>
      if (schedule.session.task? id).any Operation.isSlow then none
      else
        (schedule.session.apply (.advance id greatestPortion)).map fun session =>
          { schedule with session }
  | .readLoop => (schedule.session.apply .read).map fun session => { schedule with session }
  | .server =>
      match turn schedule.server schedule.session with
      | none => none
      | some (actions, server) =>
          (schedule.session.run actions).map fun session =>
            { schedule with session, server }.enqueue .readLoop

/-- The task whose next step is slow and whose turn it is. -/
def slowTask? (schedule : Schedule σ) : Option TaskId :=
  let slow := (schedule.session.tasks.filter fun entry => entry.2.isSlow).map Prod.fst
  (slow.find? (schedule.slowFrom ≤ ·)).or slow.head?

/-- Lets everybody run up to where all have to wait, with no more steps than there
is fuel for. -/
def settle (turn : ServerTurn σ) : (fuel : Nat) → Schedule σ → Schedule σ
  | 0, schedule => schedule
  | fuel + 1, schedule =>
      match schedule.queue with
      | runner :: rest =>
          match schedule.attempt turn runner with
          | some schedule => settle turn fuel (schedule.wake turn)
          | none => settle turn fuel { schedule with queue := rest }
      | [] =>
          match schedule.slowTask? with
          | none => schedule
          | some task =>
              match schedule.session.apply (.advance task greatestPortion) with
              | some session =>
                  let queue := [.task task]
                  settle turn fuel
                    ({ schedule with session, queue, slowFrom := task + 1 }.wake turn)
              | none => schedule

/-- The steps that are taken at most between two actions from outside. -/
def greatestRun : Nat := 1000000

/-- Takes an action from outside, if it can happen, and lets everybody run. -/
def act (turn : ServerTurn σ) (schedule : Schedule σ) (action : Action) : Schedule σ :=
  match schedule.session.apply action with
  | none => schedule
  | some session =>
      settle turn greatestRun (({ schedule with session }.wake turn).enqueue .readLoop)

/-! ## Time -/

/-- The next time up to a bound at which a task wakes. -/
def nextWake? (session : Session) (bound : Nat) : Option Nat :=
  let times := session.tasks.filterMap fun entry => entry.2.wakeTime?
  (times.filter fun time => session.client.now < time && time ≤ bound).min?

/-- Lets time pass up to a bound, and everybody run at each time at which a task
wakes. -/
def passTo (turn : ServerTurn σ) (bound : Nat) : (fuel : Nat) → Schedule σ → Schedule σ
  | 0, schedule => schedule
  | fuel + 1, schedule =>
      let now := schedule.session.client.now
      match nextWake? schedule.session bound with
      | some time => passTo turn bound fuel (schedule.act turn (.elapse (time - now)))
      | none => schedule.act turn (.elapse (bound - now))

def pass (turn : ServerTurn σ) (milliseconds : Nat) (schedule : Schedule σ) : Schedule σ :=
  passTo turn (schedule.session.client.now + milliseconds) greatestRun schedule

end Schedule

end LanguageClient
