/-!
# How processes end
-/

namespace LanguageClient

structure Signal where
  number : Nat
deriving DecidableEq, Repr

namespace Signal

def names : List (Nat × String) := [
    (1, "HUP"), (2, "INT"), (3, "QUIT"), (4, "ILL"), (5, "TRAP"), (6, "ABRT"), (7, "BUS"),
    (8, "FPE"), (9, "KILL"), (10, "USR1"), (11, "SEGV"), (12, "USR2"), (13, "PIPE"), (14, "ALRM"),
    (15, "TERM"), (16, "STKFLT"), (17, "CHLD"), (18, "CONT"), (19, "STOP"), (20, "TSTP"),
    (21, "TTIN"), (22, "TTOU"), (23, "URG"), (24, "XCPU"), (25, "XFSZ"), (26, "VTALRM"),
    (27, "PROF"), (28, "WINCH"), (29, "IO"), (30, "PWR"), (31, "SYS")
]

def kill : Signal := ⟨9⟩

def brokenPipe : Signal := ⟨13⟩

def terminate : Signal := ⟨15⟩

def greatest : Nat := 64

def name? (signal : Signal) : Option String :=
  (names.find? fun entry => entry.1 = signal.number).map Prod.snd

def ofName? (name : String) : Option Signal :=
  (names.find? fun entry => entry.2 = name).map fun entry => ⟨entry.1⟩

/-- What a signal does to a process that has made no arrangement for it. -/
inductive Effect where
  | ends
  | stops
  | nothing
deriving DecidableEq, Repr

/-- The effect of a signal.  Number zero is none that is sent. -/
def effect (signal : Signal) : Effect :=
  if [0, 17, 18, 23, 28].contains signal.number then .nothing
  else if [19, 20, 21, 22].contains signal.number then .stops
  else .ends

end Signal

inductive ExitStatus where
  | code (value : Nat)
  | signalled (signal : Signal)
deriving DecidableEq, Repr

def ExitStatus.describe : ExitStatus → String
  | .code value => s!"exit status: {value}"
  | .signalled signal =>
      match signal.name? with
      | some name => s!"signal: {signal.number} (SIG{name})"
      | none => s!"signal: {signal.number}"

end LanguageClient
