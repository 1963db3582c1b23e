import LanguageClient.Text.Printable

/-!
# Quoted texts in messages

A text that a message quotes stands between double quotes, with the quote, the
backslash, the usual control characters and every hidden character escaped.
-/

namespace LanguageClient.Text

/-- The lower-case hexadecimal digits of a number, without leading zeros. -/
def hexadecimal (n : Nat) : String :=
  String.ofList (Nat.toDigits 16 n)

def quoteChar (c : Char) : String :=
  match c with
  | '\x00' => "\\0"
  | '\t' => "\\t"
  | '\n' => "\\n"
  | '\r' => "\\r"
  | '"' => "\\\""
  | '\\' => "\\\\"
  | c => if isHidden c then "\\u\x7b" ++ hexadecimal c.toNat ++ "\x7d" else c.toString

def quote (text : String) : String :=
  text.foldl (fun shown c => shown ++ quoteChar c) "\"" ++ "\""

end LanguageClient.Text
