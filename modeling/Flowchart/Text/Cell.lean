-- SUMMARY: Fitting a text into one cell of a table.
import Flowchart.Text.Width

/-!
# Table cells

A cell is one line of a known number of columns: line break tags become spaces, a text that is too
wide is cut, and one that is too narrow is filled up with spaces.
-/

namespace Flowchart.Text

/-! ## Line breaks -/

/-- The line break tags, in lower case. -/
def breakTags : List (List Char) :=
  [['<', 'b', 'r', '/', '>'], ['<', 'b', 'r', ' ', '/', '>'], ['<', 'b', 'r', '>']]

/-- The number of characters of the break tag that `s` starts with, in any case; 0 if there is
    none. -/
def breakLength (s : List Char) : Nat :=
  match breakTags.find? (fun tag => (s.take tag.length).map Char.toLower == tag) with
  | some tag => tag.length
  | none => 0

/-- Replace break tags by spaces, after passing over the `skip` characters that remain of a tag
    already replaced. -/
def flattenAfter : Nat → List Char → List Char
  | _, [] => []
  | skip + 1, _ :: rest => flattenAfter skip rest
  | 0, c :: rest =>
    match breakLength (c :: rest) with
    | 0 => c :: flattenAfter 0 rest
    | more + 1 => ' ' :: flattenAfter more rest

/-- Replace every line break tag by one space, so that a label fits on one line. -/
def flattenBreaks (s : List Char) : List Char :=
  flattenAfter 0 s

/-! ## Fitting a width -/

/-- What is put where a text was cut. -/
def cutMark : Char := '…'

/-- The longest start of a text that leaves one of `max` columns free, `used` of them being taken
    already. Control characters take none. -/
def takeColumns (max : Nat) (used : Nat) : List Char → List Char
  | [] => []
  | c :: rest =>
    let width := (charWidth? c).getD 0
    if used + width + 1 > max then [] else c :: takeColumns max (used + width) rest

/-- Cut a text that is wider than `max` columns, and mark the cut. -/
def truncateToWidth (s : List Char) (max : Nat) : List Char :=
  if displayWidth s ≤ max then s else takeColumns max 0 s ++ [cutMark]

/-- Fill a text up to `width` columns with spaces at the end. -/
def padToWidth (s : List Char) (width : Nat) : List Char :=
  s ++ List.replicate (width - displayWidth s) ' '

end Flowchart.Text
