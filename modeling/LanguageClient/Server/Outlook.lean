import LanguageClient.Executable
import LanguageClient.ExitStatus

/-!
# Outlook of programs

What a program that serves a client sees of the world, and what it can do next.
-/

namespace LanguageClient

structure Outlook where
  /-- What the client has written and nobody has read. -/
  held : List UInt8
  /-- The client writes nothing more. -/
  isClosed : Bool
  /-- Somebody reads what the program writes. -/
  takesBytes : Bool
  now : Nat
  files : FileTree
  directory : List EntryName

namespace Outlook

def isOver (outlook : Outlook) : Bool := outlook.isClosed && outlook.held.isEmpty

end Outlook

inductive Deed where
  | takes (count : Nat)
  | writes (bytes : List UInt8)
  | closesInput
  | closesOutput
deriving DecidableEq, Repr

inductive ProgramTurn (σ : Type) where
  | waits
  | goesOn (deeds : List Deed) (next : σ)
  | ends (deeds : List Deed) (status : ExitStatus)

def Deed.writing (bytes : List UInt8) : List Deed :=
  if bytes.isEmpty then [] else [.writes bytes]

/-- Takes a number of bytes, if it is not zero. -/
def Deed.taking (count : Nat) : List Deed :=
  if count = 0 then [] else [.takes count]

def lineFeed : UInt8 := 0x0A

end LanguageClient
