-- SUMMARY: The lines of a text.

/-!
# Lines

A line ends at a line feed or at the end of the text. The line feed is not part of the line, and
neither is one carriage return right before it. A text that ends with a line feed has no further,
empty line.
-/

namespace Flowchart.Text

/-- The lines of a text, in order. A carriage return elsewhere is an ordinary character. -/
def lines : List Char → List (List Char)
  | [] => []
  | '\n' :: rest => [] :: lines rest
  | '\r' :: '\n' :: rest => [] :: lines rest
  | c :: rest =>
    match lines rest with
    | [] => [[c]]
    | line :: more => (c :: line) :: more

end Flowchart.Text
