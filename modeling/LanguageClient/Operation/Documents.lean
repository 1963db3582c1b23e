import LanguageClient.DocumentNotice
import LanguageClient.LanguageId
import LanguageClient.Operation.Sending

/-!
# Operations on documents

Opening, changing and closing documents.  Each holds the lock of the documents
from the look at the table to the change of it, over the sending of the notice, so
that the table follows what the server was told.
-/

namespace LanguageClient

/-- The text of the file at a path; bytes that are no text are replaced. -/
def Client.readDocument (client : Client) (path : Path) : Except ClientError String :=
  match client.files.read client.directory path with
  | .ok bytes => .ok (Text.Utf8.decodeLossy bytes)
  | .error error => .error (.io error)

/-! ## Opening -/

inductive Opening where
  | starting (path : Path)
  | locking (path : Path) (uri : String)
  | reading (path : Path) (uri : String)
  | sending (uri : String) (frame : Sending)
deriving DecidableEq

namespace Opening

/-- A step of opening a document; one that is open stays as it is. -/
def step (turn : Turn) (client : Client) : Opening → Step Opening Unit
  | .starting path =>
      match Client.uriOf path with
      | .error error => .finished client (.error error)
      | .ok uri => .running (client.askDocuments turn.task .exclusive) (.locking path uri)
  | .locking path uri =>
      if client.documentsLock.isHeldBy turn.task then
        if (client.version? uri).isSome then
          .finished (client.releaseDocuments turn.task) (.ok ())
        else .running client (.reading path uri)
      else .blocked
  | .reading path uri =>
      match client.readDocument path with
      | .error error => .finished (client.releaseDocuments turn.task) (.error error)
      | .ok text =>
          let notice := DocumentNotice.opened uri (LanguageId.ofPath path) 1 text
          .running client (.sending uri (.start notice.message))
  | .sending uri frame =>
      (frame.step turn client).lift (.sending uri) fun client result =>
        match result with
        | .ok () => .finished ((client.setVersion uri 1).releaseDocuments turn.task) (.ok ())
        | .error error => .finished (client.releaseDocuments turn.task) (.error error)

/-- Gives up: the locks are given back, and the table stays as it is. -/
def abandon (task : TaskId) (client : Client) : Opening → Client
  | .starting _ => client
  | .locking _ _ | .reading _ _ => client.releaseDocuments task
  | .sending _ frame => (frame.abandon task client).releaseDocuments task

end Opening

/-! ## Changing -/

inductive Changing where
  | starting (path : Path)
  | locking (path : Path) (uri : String)
  | reading (path : Path) (uri : String) (version : Int)
  | sending (uri : String) (version : Int) (frame : Sending)
deriving DecidableEq

namespace Changing

/-- A step of sending a changed document, whose version is one more than before. -/
def step (turn : Turn) (client : Client) : Changing → Step Changing Unit
  | .starting path =>
      match Client.uriOf path with
      | .error error => .finished client (.error error)
      | .ok uri => .running (client.askDocuments turn.task .exclusive) (.locking path uri)
  | .locking path uri =>
      if client.documentsLock.isHeldBy turn.task then
        match client.version? uri with
        | none => .finished (client.releaseDocuments turn.task) (.error (.notOpen path))
        | some version => .running client (.reading path uri (version + 1))
      else .blocked
  | .reading path uri version =>
      match client.readDocument path with
      | .error error => .finished (client.releaseDocuments turn.task) (.error error)
      | .ok text =>
          .running client
            (.sending uri version (.start (DocumentNotice.changed uri version text).message))
  | .sending uri version frame =>
      (frame.step turn client).lift (.sending uri version) fun client result =>
        match result with
        | .ok () =>
            .finished ((client.setVersion uri version).releaseDocuments turn.task) (.ok ())
        | .error error => .finished (client.releaseDocuments turn.task) (.error error)

/-- Gives up: the locks are given back, and the table stays as it is. -/
def abandon (task : TaskId) (client : Client) : Changing → Client
  | .starting _ => client
  | .locking _ _ | .reading _ _ _ => client.releaseDocuments task
  | .sending _ _ frame => (frame.abandon task client).releaseDocuments task

end Changing

/-! ## Closing one document -/

/-- The stages of closing a document.  `drop` tells that the document leaves the
table even when the server cannot be told. -/
inductive ClosingDocument where
  | starting (uri : String) (drop : Bool)
  | locking (uri : String) (drop : Bool)
  | sending (uri : String) (drop : Bool) (frame : Sending)
deriving DecidableEq

namespace ClosingDocument

/-- A step of closing a document; the result tells whether a notice was sent. -/
def step (turn : Turn) (client : Client) : ClosingDocument → Step ClosingDocument Bool
  | .starting uri drop =>
      .running (client.askDocuments turn.task .exclusive) (.locking uri drop)
  | .locking uri drop =>
      if client.documentsLock.isHeldBy turn.task then
        if (client.version? uri).isSome then
          .running client (.sending uri drop (.start (DocumentNotice.closed uri).message))
        else .finished (client.releaseDocuments turn.task) (.ok false)
      else .blocked
  | .sending uri drop frame =>
      (frame.step turn client).lift (.sending uri drop) fun client result =>
        match result with
        | .ok () => .finished ((client.dropDocument uri).releaseDocuments turn.task) (.ok true)
        | .error error =>
            let client := if drop then client.dropDocument uri else client
            .finished (client.releaseDocuments turn.task) (.error error)

/-- Gives up: the locks are given back, and the table stays as it is. -/
def abandon (task : TaskId) (client : Client) : ClosingDocument → Client
  | .starting _ _ => client
  | .locking _ _ => client.releaseDocuments task
  | .sending _ _ frame => (frame.abandon task client).releaseDocuments task

end ClosingDocument

/-! ## Closing all documents -/

inductive ClosingAll where
  | starting
  /-- Waits for a look at the table. -/
  | listing
  /-- The documents still to be closed, and the number of those that were. -/
  | next (left : List String) (closed : Nat)
  | closing (document : ClosingDocument) (left : List String) (closed : Nat)
deriving DecidableEq

namespace ClosingAll

/-- A step of closing all documents that are open at the look at the table.  A
document that cannot be closed does not stop the others. -/
def step (turn : Turn) (client : Client) : ClosingAll → Step ClosingAll Nat
  | .starting => .running (client.askDocuments turn.task .shared) .listing
  | .listing =>
      if client.documentsLock.isHeldBy turn.task then
        .running (client.releaseDocuments turn.task) (.next (client.documents.map Prod.fst) 0)
      else .blocked
  | .next [] closed => .finished client (.ok closed)
  | .next (uri :: left) closed => .running client (.closing (.starting uri true) left closed)
  | .closing document left closed =>
      (document.step turn client).lift (fun document => .closing document left closed)
        fun client result =>
          match result with
          | .ok true => .running client (.next left (closed + 1))
          | .ok false | .error _ => .running client (.next left closed)

/-- Gives up; the documents that were not closed stay open. -/
def abandon (task : TaskId) (client : Client) : ClosingAll → Client
  | .starting | .next _ _ => client
  | .listing => client.releaseDocuments task
  | .closing document _ _ => document.abandon task client

end ClosingAll

end LanguageClient
