import LanguageClient.Domain.Basic
import LanguageClient.FileUri.Percent
import LanguageClient.FileUri.Scheme
import LanguageClient.FileUri.Trail
import LanguageClient.Text.Utf8

/-!
# Files and their URIs

A file has one URI, made of the components of its path.  A URI names a file
whatever its scheme, if it has a path from the root and no host but the local
one.
-/

namespace LanguageClient.FileUri

/-!
## Authorities

The part of a URI that names a host: credentials before an `@`, the host itself and the
number of a service behind a colon.
-/

/-- The place of the host of a file or web URI; `none` for a text that names none.  An
address in brackets is never the local host. -/
def hostPlace? (host : List Char) : Option Domain.Place :=
  match host with
  | '[' :: rest =>
      if rest.getLast? = some ']' && Domain.isSixteenByteAddress rest.dropLast then
        some .elsewhere
      else none
  | host => (Text.Utf8.decode? (decodeText host)).bind fun name => Domain.place? name.toList

/-- Whether a text is the number of a service: digits, no more than 65535. -/
def isService (digits : List Char) : Bool :=
  digits.all Char.isDigit &&
    digits.foldl (fun value digit => min 65536 (value * 10 + (digit.toNat - '0'.toNat))) 0 < 65536

/-- What stands before the last `@` of an authority, if it has one, and the text behind,
with the path. -/
def splitCredentials (scheme : Scheme) (text : List Char) : Option (List Char) × List Char :=
  let authority := text.takeWhile (!scheme.isSeparator ·)
  let host := (authority.reverse.takeWhile (· != '@')).reverse
  if host.length = authority.length then (none, text)
  else
    let credentials := authority.take (authority.length - host.length - 1)
    (some credentials, text.drop (credentials.length + 1))

def behindService? (text : List Char) : Option (List Char) :=
  match text with
  | ':' :: rest =>
      let (digits, path) := rest.span Char.isDigit
      let ends := path.head?.all fun c => c == '/' || c == '\\'
      if isService digits && ends then some path else none
  | path => some path

/-- Whether a web or plain URI without credentials, or with some, may name the local host
this way.  Only a plain one may leave it out, if nothing else is named. -/
def isLocal (scheme : Scheme) (hasCredentials hasService : Bool) (host : List Char) : Bool :=
  match scheme with
  | .plain =>
      if host.isEmpty then !hasCredentials && !hasService else host = Domain.localName
  | _ => !host.isEmpty && hostPlace? host = some .here

/-- The path behind the authority of a web or plain URI, if that names the local host.
A colon alone counts as no credentials. -/
def pathOnLocalHost? (scheme : Scheme) (text : List Char) : Option (List Char) :=
  let (credentials, text) := splitCredentials scheme text
  let (host, rest) := text.span fun c => c != ':' && !scheme.isSeparator c
  let hasCredentials := credentials.any (· ≠ [':'])
  if isLocal scheme hasCredentials (rest.head? = some ':') host then behindService? rest else none

/-! ## From a path -/

def componentBytes : Path.Component → List UInt8
  | .root => []
  | .current => [Path.dot]
  | .parent => [Path.dot, Path.dot]
  | .name bytes => bytes

def writeSegments (segments : List (List UInt8)) : List Char :=
  if segments.isEmpty then ['/']
  else segments.flatMap fun segment => '/' :: encodeSegment segment

def ofPath? (path : Path) : Option String :=
  match path.components with
  | .root :: below =>
      some (String.ofList ("file://".toList ++ writeSegments (below.map componentBytes)))
  | _ => none

/-! ## To a path -/

/-- The path of a file URI behind the two separators in front of its host.  A path on
another host is none, unless a drive letter stands for the host. -/
def pathBehindHost? (text : List Char) : Option Path :=
  let (front, path) := text.span (!Scheme.file.isSeparator ·)
  let host := dropBreaks front
  let read := fun start => Trail.ofPath .file start (dropSeparator .file path)
  if isDriveLetter host then some ((Trail.ofPath .file [] text).path .file)
  else if host.isEmpty then some ((read [[]]).path .file)
  else
    match hostPlace? host with
    | none => none
    | some .here => some ((read [[]]).path .file)
    | some .elsewhere =>
        let trail := read []
        if trail.hasDrive then some (trail.path .file) else none

def filePath? (text : List Char) : Option Path :=
  match takeSeparator? .file text with
  | none => some ((Trail.ofPath .file [] text).path .file)
  | some path =>
      match takeSeparator? .file path with
      | none => some ((Trail.ofPath .file [] path).path .file)
      | some rest => pathBehindHost? rest

/-- The path of a web URI behind its colon; slashes in front of the host do not
count. -/
def webPath? (text : List Char) : Option Path :=
  (pathOnLocalHost? .web (text.dropWhile Scheme.web.isSeparator)).map fun path =>
    (Trail.ofPath .web [] (dropSeparator .web path)).path .web

/-- The path of a URI with another scheme behind its colon. -/
def plainPath? (text : List Char) : Option Path :=
  let read := fun path => (Trail.ofPath .plain [] (dropSeparator .plain path)).path .plain
  match text with
  | '/' :: '/' :: rest =>
      ((pathOnLocalHost? .plain rest).filter fun path => !path.isEmpty).map read
  | '/' :: path => some (read ('/' :: path))
  | _ => none

/-- The path that a URI names.  In all but file URIs breaks play no part. -/
def toPath? (uri : String) : Option Path :=
  match splitScheme? (trimOuter uri.toList) with
  | none => none
  | some (scheme, rest) =>
      let text := beforeQuery rest
      match scheme with
      | .file => filePath? text
      | .web => webPath? (dropBreaks text)
      | .plain => plainPath? (dropBreaks text)

end LanguageClient.FileUri
