import LanguageClient.Message.Basic

/-!
# Notices about documents

The notifications that tell the server of the documents that are open.  A change
sends the whole text.
-/

namespace LanguageClient

inductive DocumentNotice where
  | opened (uri language : String) (version : Int) (text : String)
  | changed (uri : String) (version : Int) (text : String)
  | closed (uri : String)
deriving DecidableEq, Repr

namespace DocumentNotice

def method : DocumentNotice → String
  | .opened .. => "textDocument/didOpen"
  | .changed .. => "textDocument/didChange"
  | .closed _ => "textDocument/didClose"

def params : DocumentNotice → Json
  | .opened uri language version text =>
      .ofMembers [("textDocument", .ofMembers [
        ("uri", .string uri),
        ("languageId", .string language),
        ("version", .int version),
        ("text", .string text)])]
  | .changed uri version text =>
      .ofMembers [
        ("textDocument", .ofMembers [("uri", .string uri), ("version", .int version)]),
        ("contentChanges", .array [.ofMembers [("text", .string text)]])]
  | .closed uri => .ofMembers [("textDocument", .ofMembers [("uri", .string uri)])]

def message (notice : DocumentNotice) : Outgoing :=
  .notification notice.method (some notice.params)

end DocumentNotice

end LanguageClient
