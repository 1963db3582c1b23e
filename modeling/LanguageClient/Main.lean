import LanguageClient.Host.Basic

/-!
# The program

The host on the command line.  It runs in surroundings without files: what its
arguments alone decide is answered, and a workspace is never found.
-/

namespace LanguageClient.Host

/-- Surroundings without files. -/
def emptySurroundings : Surroundings := ⟨.empty, [], []⟩

/-- Prints what running the host comes to, and gives its exit code. -/
def report (outcome : Outcome) : IO UInt32 := do
  IO.print outcome.output
  IO.eprint outcome.errors
  return UInt32.ofNat outcome.code

end LanguageClient.Host

/-- Runs the host with the arguments of the command line. -/
def main (arguments : List String) : IO UInt32 :=
  LanguageClient.Host.report <|
    LanguageClient.Host.run LanguageClient.Host.emptySurroundings
      (arguments.map LanguageClient.Text.Utf8.encode) 0
