/-!
# Characters and lines

Sets of characters, the white space among them, and the lines of a text.
-/

namespace LanguageClient.Text

/-!
## Intervals of characters

A set of characters given by intervals of code points, each as its first and its
last one.
-/

def isWithin (intervals : List (Nat × Nat)) (c : Char) : Bool :=
  intervals.any fun (first, last) => first ≤ c.toNat && c.toNat ≤ last

/-!
## White space

The characters with the Unicode property `White_Space`, and the removal of them
from both ends of a text.
-/

/-- The characters with the property `White_Space`. -/
def isBlank (c : Char) : Bool :=
  let n := c.toNat
  (9 ≤ n && n ≤ 13) || n = 0x20 || n = 0x85 || n = 0xA0 || n = 0x1680
    || (0x2000 ≤ n && n ≤ 0x200A) || n = 0x2028 || n = 0x2029 || n = 0x202F
    || n = 0x205F || n = 0x3000

/-- Drops the blanks at both ends. -/
def trimBlanks (text : List Char) : List Char :=
  ((text.dropWhile isBlank).reverse.dropWhile isBlank).reverse

/-- Lower case of the ASCII letters; every other character stays. -/
def lowerAscii (text : List Char) : List Char :=
  text.map Char.toLower

/-!
## Lines

The lines of a text given by its bytes.  A line ends in a line feed, or in a carriage
return and a line feed; the last one may end with the text.
-/

/-- A line without the carriage return in front of its line feed. -/
def dropReturn (line : List UInt8) : List UInt8 :=
  if line.getLast? = some 0x0D then line.dropLast else line

/-- The lines of a text.  Nothing behind the last line feed is no line. -/
def lines (text : List UInt8) : List (List UInt8) :=
  let pieces := text.splitOn 0x0A
  let ended := pieces.dropLast.map dropReturn
  match pieces.getLast? with
  | none | some [] => ended
  | some last => ended ++ [last]

end LanguageClient.Text
