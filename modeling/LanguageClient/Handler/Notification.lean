import LanguageClient.Diagnostic

/-!
# Handlers of notifications

What the client does with the notifications of the server.
-/

namespace LanguageClient

inductive LogLevel where
  | error
  | warning
  | information
  | debug
deriving DecidableEq, Repr

def LogLevel.name : LogLevel → String
  | .error => "ERROR"
  | .warning => "WARN"
  | .information => "INFO"
  | .debug => "DEBUG"

structure ServerText where
  kind : Nat
  text : String
deriving DecidableEq, Repr

namespace ServerText

def decode : Json.Decoder ServerText :=
  Json.decodeRecord2 "MessageParams" (.required "type" (Json.decodeNat 8))
    (.required "message" Json.decodeString) .mk

def shownLevel (text : ServerText) : LogLevel :=
  match text.kind with
  | 1 => .error
  | 2 => .warning
  | _ => .information

def loggedLevel (text : ServerText) : LogLevel :=
  match text.kind with
  | 1 => .warning
  | _ => .debug

end ServerText

inductive NotificationHandler where
  | publishDiagnostics
  | showMessage
  | logMessage
  /-- A user's handler.  Its calls are recorded under a tag, and some parameters may make
  it fail. -/
  | custom (tag : Json) (failure : Option Json → Option String)

inductive NotificationFault where
  | publication (error : DiagnosticsCache.PublishError)
  | withoutParams
  | unreadable (error : Json.DecodeError)
deriving DecidableEq

def NotificationFault.message : NotificationFault → String
  | .publication error => error.message
  | .withoutParams => "message notification without params"
  | .unreadable error => error.message

inductive NotificationEffect where
  | published (cache : DiagnosticsCache)
  | logged (level : LogLevel) (text : String)
  | recorded (tag : Json) (params : Option Json) (failure : Option String)
deriving DecidableEq

namespace NotificationHandler

def logText (level : ServerText → LogLevel) (params : Option Json) :
    Except NotificationFault NotificationEffect :=
  match params with
  | none => .error .withoutParams
  | some params =>
      match ServerText.decode params with
      | .ok text => .ok (.logged (level text) text.text)
      | .error error => .error (.unreadable error)

def handle (cache : DiagnosticsCache) (params : Option Json) :
    NotificationHandler → Except NotificationFault NotificationEffect
  | .publishDiagnostics =>
      match cache.publish params with
      | .ok cache => .ok (.published cache)
      | .error error => .error (.publication error)
  | .showMessage => logText ServerText.shownLevel params
  | .logMessage => logText ServerText.loggedLevel params
  | .custom tag failure => .ok (.recorded tag params (failure params))

/-- The handler that keeps records, and fails whenever there is a text to fail with. -/
def record (tag : Json) (failure : Option String) : NotificationHandler :=
  .custom tag fun _ => failure

end NotificationHandler

end LanguageClient
