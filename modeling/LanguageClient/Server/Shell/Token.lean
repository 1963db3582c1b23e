import LanguageClient.Server.Shell.Word

/-!
# Tokens of a shell

A script as words and the marks between them.  The text that a redirection announces
stands behind the end of its line; here it comes right behind its mark.
-/

namespace LanguageClient.Shell

inductive Mark where
  | lineEnd
  | semicolon
  | doubleSemicolon
  | ampersand
  | both
  | either
  | pipe
  | opening
  | closing
deriving DecidableEq, Repr

inductive RedirectionKind where
  | reads
  | writes
  | copies
  /-- The text behind it is read. -/
  | text
deriving DecidableEq, Repr

inductive Token where
  | word (word : Word)
  | mark (mark : Mark)
  /-- A redirection of a descriptor; a word comes behind it. -/
  | redirection (descriptor : Nat) (kind : RedirectionKind)
  /-- The place of a text that comes later. -/
  | announcement (descriptor : Nat)
  /-- The text of an announcement. -/
  | body (word : Word)
  /-- A quotation without end. -/
  | malformed
deriving DecidableEq, Repr

structure Announcement where
  delimiter : List Char
  /-- Nothing is put in its place of parameters. -/
  isQuoted : Bool
  /-- Tabs in front of lines are left out. -/
  stripsTabs : Bool
deriving DecidableEq, Repr

/-- The text up to the line that ends it, and what stands behind. -/
def splitAnnounced (announcement : Announcement) :
    (fuel : Nat) → List Char → List Char × List Char
  | 0, text => ([], text)
  | _ + 1, [] => ([], [])
  | fuel + 1, text =>
      let (line, behind) := text.span (· != '\n')
      let line := if announcement.stripsTabs then line.dropWhile (· = '\t') else line
      if line = announcement.delimiter then ([], behind.drop 1)
      else
        let (body, rest) := splitAnnounced announcement fuel (behind.drop 1)
        (line ++ '\n' :: body, rest)

def readAnnounced : List Announcement → List Char → List Token × List Char
  | [], text => ([], text)
  | announcement :: others, text =>
      let (body, rest) := splitAnnounced announcement (text.length + 1) text
      let word := if announcement.isQuoted then some (Word.quoted body) else Word.ofText? true body
      let (tokens, rest) := readAnnounced others rest
      ((word.map Token.body).getD .malformed :: tokens, rest)

/-- The kind of the redirection that a text starts with, its own descriptor and what
stands behind; the announcement of a text comes without a kind. -/
def redirectionOf? : List Char → Option (Option RedirectionKind × Bool × Nat × List Char)
  | '<' :: '<' :: '-' :: rest => some (none, true, 0, rest)
  | '<' :: '<' :: rest => some (none, false, 0, rest)
  | '<' :: '&' :: rest => some (some .copies, false, 0, rest)
  | '<' :: '>' :: rest => some (some .reads, false, 0, rest)
  | '<' :: rest => some (some .reads, false, 0, rest)
  | '>' :: '>' :: rest => some (some .writes, false, 1, rest)
  | '>' :: '&' :: rest => some (some .copies, false, 1, rest)
  | '>' :: '|' :: rest => some (some .writes, false, 1, rest)
  | '>' :: rest => some (some .writes, false, 1, rest)
  | _ => none

/-- The mark that a text starts with, and what stands behind. -/
def markOf? : List Char → Option (Mark × List Char)
  | '\n' :: rest => some (.lineEnd, rest)
  | ';' :: ';' :: rest => some (.doubleSemicolon, rest)
  | ';' :: rest => some (.semicolon, rest)
  | '&' :: '&' :: rest => some (.both, rest)
  | '&' :: rest => some (.ampersand, rest)
  | '|' :: '|' :: rest => some (.either, rest)
  | '|' :: rest => some (.pipe, rest)
  | '(' :: rest => some (.opening, rest)
  | ')' :: rest => some (.closing, rest)
  | _ => none

def delimiterOf (word : Word) : List Char × Bool :=
  (word.flatMap fun piece => match piece with | .text characters _ => characters | _ => [],
    word.any fun piece => match piece with | .text _ isQuoted => isQuoted | _ => false)

/-- Reads the tokens of a text.  The texts that were announced come behind the next
end of a line. -/
def readTokens : (fuel : Nat) → List Announcement → List Char → List Token
  | 0, _, _ => []
  | _ + 1, _, [] => []
  | fuel + 1, announcements, c :: rest =>
      let text := c :: rest
      if isBlank c then readTokens fuel announcements rest
      else if c = '\\' && rest.head? = some '\n' then readTokens fuel announcements (rest.drop 1)
      else if c = '#' then readTokens fuel announcements (rest.dropWhile (· != '\n'))
      else
        let numbered :=
          if c.isDigit then
            (redirectionOf? rest).map fun (kind, strips, _, behind) =>
              (kind, strips, c.toNat - '0'.toNat, behind)
          else none
        match numbered.or (redirectionOf? text), markOf? text with
        | some (some kind, _, descriptor, behind), _ =>
            .redirection descriptor kind :: readTokens fuel announcements behind
        | some (none, stripsTabs, descriptor, behind), _ =>
            match readWord false (behind.length + 1) (behind.dropWhile isBlank) with
            | none | some ([], _) => [.malformed]
            | some (word, behind) =>
                let (delimiter, isQuoted) := delimiterOf word
                let announcement := Announcement.mk delimiter isQuoted stripsTabs
                .announcement descriptor :: readTokens fuel (announcements ++ [announcement]) behind
        | none, some (.lineEnd, behind) =>
            let (bodies, behind) := readAnnounced announcements behind
            .mark .lineEnd :: bodies ++ readTokens fuel [] behind
        | none, some (mark, behind) => .mark mark :: readTokens fuel announcements behind
        | none, none =>
            match readWord false (text.length + 1) text with
            | none => [.malformed]
            | some (word, behind) => .word word :: readTokens fuel announcements behind

/-- Moves announced texts to their announcements; one that is missing is empty. -/
def placeBodies : (bodies : List Word) → List Token → List Token
  | _, [] => []
  | bodies, .announcement descriptor :: rest =>
      .redirection descriptor .text :: .word (bodies.head?.getD []) ::
        placeBodies (bodies.drop 1) rest
  | bodies, .body _ :: rest => placeBodies bodies rest
  | bodies, token :: rest => token :: placeBodies bodies rest

def tokensOf (script : List Char) : List Token :=
  let tokens := readTokens (script.length + 1) [] script
  let bodies := tokens.filterMap fun token =>
    match token with
    | .body word => some word
    | _ => none
  placeBodies bodies tokens

end LanguageClient.Shell
