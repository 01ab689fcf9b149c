-- SUMMARY: White space, blanks and trimming.
import Flowchart.Text.Ranges

/-!
# White space

Two notions are in use. *White space* is the Unicode property `White_Space` and is what trimming
removes. A *blank* is a space or a tab and is all that separates the tokens of one line.
-/

namespace Flowchart.Text

/-- The 25 characters with the Unicode property `White_Space`. -/
def whiteRanges : Ranges :=
  [(0x9, 0xD), (0x20, 0x20), (0x85, 0x85), (0xA0, 0xA0), (0x1680, 0x1680), (0x2000, 0x200A),
   (0x2028, 0x2029), (0x202F, 0x202F), (0x205F, 0x205F), (0x3000, 0x3000)]

/-- White space of any kind. U+200B and U+FEFF are not white space. -/
def isWhite (c : Char) : Bool :=
  whiteRanges.contains c

/-- A space or a tab. -/
def isBlank (c : Char) : Bool :=
  c == ' ' || c == '\t'

/-! ## Trimming -/

/-- Drop the longest suffix whose elements all satisfy `p`. -/
def dropEndWhile {α : Type} (p : α → Bool) (s : List α) : List α :=
  (s.reverse.dropWhile p).reverse

/-- Drop the white space at the start. -/
def trimStart (s : List Char) : List Char :=
  s.dropWhile isWhite

/-- Drop the white space at the end. -/
def trimEnd (s : List Char) : List Char :=
  dropEndWhile isWhite s

/-- Drop the white space at both ends. -/
def trim (s : List Char) : List Char :=
  trimEnd (trimStart s)

/-- Drop the blanks at the start. -/
def skipBlanks (s : List Char) : List Char :=
  s.dropWhile isBlank

end Flowchart.Text
