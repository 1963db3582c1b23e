/-!
# What ends the host

A signal, or the loss of the parent process.  A process whose parent has gone gets
another one, which tells it.
-/

namespace LanguageClient

abbrev ProcessId := Nat

inductive ShutdownTrigger where
  | signal (name : String)
  | parentExited (was now : ProcessId)
deriving DecidableEq, Repr

def ShutdownTrigger.message : ShutdownTrigger → String
  | .signal name => s!"received {name}"
  | .parentExited was now => s!"parent process {was} exited (now parented by {now})"

namespace ParentWatch

/-- The process that takes in those whose parent has gone. -/
def initialProcess : ProcessId := 1

/-- Whether a change of the parent means that the parent has gone: one of the two
is the initial process. -/
def isOrphaned (first current : ProcessId) : Bool :=
  current ≠ first && (current = initialProcess || first = initialProcess)

/-- The trigger of the first poll that shows the loss of the parent, with the number of
polls up to it. -/
def firstLoss? (first : ProcessId) :
    (polls : Nat) → List ProcessId → Option (ShutdownTrigger × Nat)
  | _, [] => none
  | polls, current :: rest =>
      if isOrphaned first current then some (.parentExited first current, polls + 1)
      else firstLoss? first (polls + 1) rest

/-- What watching the parent comes to, given what the polls find; the first of them
finds the parent that is watched. -/
def run : List ProcessId → Option (ShutdownTrigger × Nat)
  | [] => none
  | first :: rest => firstLoss? first 1 rest

end ParentWatch

end LanguageClient
