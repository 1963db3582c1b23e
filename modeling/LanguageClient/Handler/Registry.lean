import LanguageClient.Handler.Notification
import LanguageClient.Handler.Request

/-!
# The registry of handlers

For each method the handler that was registered for it last.
-/

namespace LanguageClient

/-- The handlers by method, the latest first. -/
structure HandlerRegistry where
  notifications : List (String × NotificationHandler)
  requests : List (String × RequestHandler)

inductive Registration where
  | notification (method : String) (handler : NotificationHandler)
  | request (method : String) (handler : RequestHandler)

namespace HandlerRegistry

def empty : HandlerRegistry := ⟨[], []⟩

def registerNotification (registry : HandlerRegistry) (method : String)
    (handler : NotificationHandler) : HandlerRegistry :=
  { registry with
    notifications :=
      (method, handler) :: registry.notifications.filter fun entry => entry.1 ≠ method }

def registerRequest (registry : HandlerRegistry) (method : String)
    (handler : RequestHandler) : HandlerRegistry :=
  { registry with
    requests := (method, handler) :: registry.requests.filter fun entry => entry.1 ≠ method }

def register (registry : HandlerRegistry) : Registration → HandlerRegistry
  | .notification method handler => registry.registerNotification method handler
  | .request method handler => registry.registerRequest method handler

def notification? (registry : HandlerRegistry) (method : String) : Option NotificationHandler :=
  (registry.notifications.find? fun entry => entry.1 = method).map Prod.snd

def request? (registry : HandlerRegistry) (method : String) : Option RequestHandler :=
  (registry.requests.find? fun entry => entry.1 = method).map Prod.snd

/-! ## Built-in handlers -/

def builtinNotifications : List (String × NotificationHandler) := [
  ("textDocument/publishDiagnostics", .publishDiagnostics),
  ("window/showMessage", .showMessage),
  ("window/logMessage", .logMessage)]

def builtinRequests (settings : Json) : List (String × RequestHandler) := [
  ("workspace/configuration", .configuration settings),
  ("workspace/applyEdit", .applyEdit),
  ("client/registerCapability", .acknowledge),
  ("window/workDoneProgress/create", .acknowledge)]

/-- The built-in handlers, in the order in which they are registered. -/
def builtins (settings : Json) : List Registration :=
  builtinNotifications.map (fun (method, handler) => .notification method handler) ++
    (builtinRequests settings).map fun (method, handler) => .request method handler

def registerBuiltins (registry : HandlerRegistry) (settings : Json) : HandlerRegistry :=
  (builtins settings).foldl register registry

end HandlerRegistry

end LanguageClient
