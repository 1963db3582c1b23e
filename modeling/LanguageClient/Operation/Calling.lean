import LanguageClient.Operation.Sending

/-!
# Calls

A call registers itself, sends its request and waits for the answer.
-/

namespace LanguageClient

/-- What is asked of the server, and the token that the call can be cancelled by. -/
structure CallRequest where
  method : String
  params : Option Json
  token : Option TokenId := none
deriving DecidableEq

inductive Calling where
  | starting (request : CallRequest)
  | sending (request : CallRequest) (id : Nat) (frame : Sending)
  | waiting (request : CallRequest) (id : Nat)
deriving DecidableEq

namespace Calling

def isCancelled (client : Client) (request : CallRequest) : Bool :=
  request.token.any client.cancelled.contains

def leave (client : Client) (id : Nat) : Client :=
  { client with calls := client.calls.abandon id }

def resultOf (request : CallRequest) : Answer → Except ClientError Json
  | .ok value => .ok value
  | .error error => .error (.refused request.method error)

/-- A step of a call.  Its token is looked at before it is registered and while it
waits for the answer; an answer that is there counts more. -/
def step (turn : Turn) (client : Client) : Calling → Step Calling Json
  | .starting request =>
      if isCancelled client request then .finished client (.error (.cancelled request.method))
      else
        match client.calls.register with
        | none => .finished client (.error .connectionClosed)
        | some (id, calls) =>
            .running { client with calls }
              (.sending request id (.start (.request id request.method request.params)))
  | .sending request id frame =>
      (frame.step turn client).lift (.sending request id) fun client result =>
        match result with
        | .ok () => .running client (.waiting request id)
        | .error error => .finished (leave client id) (.error error)
  | .waiting request id =>
      match client.calls.mailbox? id with
      | some (.full answer) => .finished (leave client id) (resultOf request answer)
      | some .closed | none => .finished (leave client id) (.error .connectionClosed)
      | some .empty =>
          if isCancelled client request then
            .finished (leave client id) (.error (.cancelled request.method))
          else .blocked

def abandon (task : TaskId) (client : Client) : Calling → Client
  | .starting _ => client
  | .sending _ id frame => leave (frame.abandon task client) id
  | .waiting _ id => leave client id

end Calling

abbrev TimedCall := Timed Calling

namespace TimedCall

/-- A call that ends with an error when it takes longer than a number of
milliseconds. -/
def start (method : String) (params : Option Json) (limit : Nat) : TimedCall :=
  .waiting limit (.starting { method, params })

def methodOf : Calling → String
  | .starting request | .sending request _ _ | .waiting request _ => request.method

def step (turn : Turn) (client : Client) (call : TimedCall) : Step TimedCall Json :=
  Timed.step (Calling.step turn) (Calling.abandon turn.task) (.timedOut (methodOf call.stage))
    client call

def abandon (task : TaskId) (client : Client) (call : TimedCall) : Client :=
  call.stage.abandon task client

end TimedCall

end LanguageClient
