import LanguageClient.Json.Decode

/-!
# Response errors

The error member of a response.
-/

namespace LanguageClient

structure ResponseError where
  code : Int
  message : String
  data : Option Json := none
deriving DecidableEq, Repr

/-- The answer to a request: a result or an error. -/
abbrev Answer := Except ResponseError Json

instance : DecidableEq Answer
  | .ok a, .ok b => if same : a = b then isTrue (same ▸ rfl) else isFalse (by simp [same])
  | .error a, .error b => if same : a = b then isTrue (same ▸ rfl) else isFalse (by simp [same])
  | .ok _, .error _ | .error _, .ok _ => isFalse (by simp)

namespace ResponseError

/-- The code for a method without handler. -/
def methodNotFoundCode : Int := -32601

/-- The code for parameters that cannot be used. -/
def invalidParamsCode : Int := -32602

def internalCode : Int := -32603

/-- The error for a method without handler. -/
def methodNotFound (method : String) : ResponseError :=
  { code := methodNotFoundCode, message := s!"Method not found: {method}" }

/-- The error for parameters that cannot be used. -/
def invalidParams (reason : String) : ResponseError :=
  { code := invalidParamsCode, message := s!"Invalid params: {reason}" }

def internal (reason : String) : ResponseError :=
  { code := internalCode, message := reason }

def display (error : ResponseError) : String :=
  s!"{error.message} (code {error.code})"

/-- The members of the error in the order they are written. -/
def members (error : ResponseError) : List (String × Json) :=
  [("code", .int error.code), ("message", .string error.message)] ++
    (error.data.map fun data => ("data", data)).toList

/-- The text of the error with its members in the order above. -/
def text (error : ResponseError) : String :=
  (Json.object error.members).render

def toJson (error : ResponseError) : Json :=
  .ofMembers error.members

/-- Reads an error; data that is null counts as absent. -/
def decode : Json.Decoder ResponseError :=
  Json.decodeRecord3 "ResponseError"
    (.required "code" (Json.decodeInt 64))
    (.required "message" Json.decodeString)
    (.optional "data" Json.decodeAny)
    fun code message data => { code, message, data }

end ResponseError

end LanguageClient
