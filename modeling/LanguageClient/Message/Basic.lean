import LanguageClient.Message.ResponseError

/-!
# Messages

The messages that the client writes, and the classification of those it reads.
A message is told by the presence of an identifier and of a method; the members
that play no part in it are passed over.
-/

namespace LanguageClient

def messageVersion : Json := .string "2.0"

inductive Outgoing where
  | request (id : Nat) (method : String) (params : Option Json)
  | notification (method : String) (params : Option Json)
  | response (id : Json) (answer : Answer)
deriving DecidableEq

/-- A member that is written only when there is a value. -/
private def optionalMember (key : String) (value : Option Json) : List (String × Json) :=
  (value.map fun value => (key, value)).toList

namespace Outgoing

/-- The members of a message in the order they are written.  A result is written
even when it is null. -/
def members : Outgoing → List (String × Json)
  | .request id method params =>
      [("jsonrpc", messageVersion), ("id", .nat id), ("method", .string method)] ++
        optionalMember "params" params
  | .notification method params =>
      [("jsonrpc", messageVersion), ("method", .string method)] ++ optionalMember "params" params
  | .response id (.ok result) => [("jsonrpc", messageVersion), ("id", id), ("result", result)]
  | .response id (.error error) =>
      [("jsonrpc", messageVersion), ("id", id), ("error", .object error.members)]

/-- The text of a message with its members in the order above. -/
def text (message : Outgoing) : String :=
  (Json.object message.members).render

def toJson : Outgoing → Json
  | .request id method params => .ofMembers (Outgoing.request id method params).members
  | .notification method params => .ofMembers (Outgoing.notification method params).members
  | .response id (.ok result) => .ofMembers (Outgoing.response id (.ok result)).members
  | .response id (.error error) =>
      .ofMembers [("jsonrpc", messageVersion), ("id", id), ("error", error.toJson)]

end Outgoing

inductive Incoming where
  | response (id : Json) (answer : Answer)
  | request (id : Json) (method : String) (params : Option Json)
  | notification (method : String) (params : Option Json)
deriving DecidableEq

namespace Incoming

/-- The error of a response; one that cannot be read is an internal error. -/
def readError (error : Json) : ResponseError :=
  match ResponseError.decode error with
  | .ok error => error
  | .error fault => .internal s!"unparsable error object: {fault.message}"

/-- The answer of a response without method: its error unless that is absent or
null, else its result. -/
def readAnswer? (members : Json.Members) : Option Answer :=
  match Json.Members.get? members "error" with
  | some .null | none => (Json.Members.get? members "result").map .ok
  | some error => some (.error (readError error))

/-- Classifies a frame; `none` for a value that is no message. -/
def ofJson? : Json → Option Incoming
  | .object members =>
      let id := Json.Members.get? members "id"
      let params := Json.Members.get? members "params"
      match id, Json.Members.get? members "method" with
      | some id, some (.string method) => some (.request id method params)
      | none, some (.string method) => some (.notification method params)
      | _, some _ => none
      | some id, none => (readAnswer? members).map (.response id)
      | none, none => none
  | _ => none

end Incoming

end LanguageClient
