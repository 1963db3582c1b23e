import LanguageClient.Json.Decode

/-!
# Positions and ranges

Lines and columns count from zero; columns count UTF-16 code units.
-/

namespace LanguageClient

structure Position where
  line : Nat
  character : Nat
deriving DecidableEq, Repr

/-- The part of a document between two places. -/
structure Range where
  start : Position
  «end» : Position
deriving DecidableEq, Repr

namespace Position

/-- Reads a position; both numbers are below `2 ^ 32`. -/
def decode : Json.Decoder Position :=
  Json.decodeRecord2 "Position" (.required "line" (Json.decodeNat 32))
    (.required "character" (Json.decodeNat 32)) .mk

def toJson (position : Position) : Json :=
  .ofMembers [("line", .nat position.line), ("character", .nat position.character)]

end Position

namespace Range

def decode : Json.Decoder Range :=
  Json.decodeRecord2 "Range" (.required "start" Position.decode)
    (.required "end" Position.decode) .mk

def toJson (range : Range) : Json :=
  .ofMembers [("start", range.start.toJson), ("end", range.end.toJson)]

end Range

end LanguageClient
