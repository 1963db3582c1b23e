/-!
# Pipes

The stream of bytes from the client to the server.  It holds a limited number of
bytes that were written and not yet read.
-/

namespace LanguageClient

structure Pipe where
  capacity : Nat
  /-- The bytes written and not yet read. -/
  held : List UInt8
  /-- The bytes that the reader has taken. -/
  received : List UInt8
  /-- The writer has closed it. -/
  isClosed : Bool
  /-- The reader has gone; what is written fails. -/
  isBroken : Bool
  /-- How the failure of a write without reader reads. -/
  failure : String
deriving DecidableEq, Repr

namespace Pipe

def empty (capacity : Nat) (failure : String) : Pipe :=
  ⟨capacity, [], [], false, false, failure⟩

/-- The number of bytes that it takes at once. -/
def room (pipe : Pipe) : Nat := pipe.capacity - pipe.held.length

def put (pipe : Pipe) (bytes : List UInt8) : Pipe :=
  { pipe with held := pipe.held ++ bytes }

def take (pipe : Pipe) (count : Nat) : Pipe :=
  { pipe with
    held := pipe.held.drop count
    received := pipe.received ++ pipe.held.take count }

def close (pipe : Pipe) : Pipe := { pipe with isClosed := true }

def abandon (pipe : Pipe) : Pipe := { pipe with held := [], isBroken := true }

/-- The failure of a write to a pipe inside one process. -/
def innerFailure : String := "broken pipe"

/-- The failure of a write to a pipe between two processes. -/
def outerFailure : String := "Broken pipe (os error 32)"

end Pipe

end LanguageClient
