-- SUMMARY: The text of a label: escape tokens, quotes and surrounding white space.
import Flowchart.Text.White

/-!
# Labels

A label is written with escape tokens for the characters that would clash with the delimiters
around it, and may stand in double quotes. Decoding replaces the tokens in a single pass from left
to right, so that what a token stands for is never decoded again, and then strips the quotes with
the white space on either side of them.
-/

namespace Flowchart

/-- The characters that a label writes as an escape token. -/
inductive Escape where
  | quote
  | openParen
  | closeParen
  | apostrophe
  | ampersand
  deriving DecidableEq, Repr

namespace Escape

/-- The token of an escaped character. -/
def token : Escape → List Char
  | quote => ['#', 'q', 'u', 'o', 't', ';']
  | openParen => ['#', '4', '0', ';']
  | closeParen => ['#', '4', '1', ';']
  | apostrophe => ['#', '3', '9', ';']
  | ampersand => ['#', 'a', 'm', 'p', ';']

/-- The character that a token stands for. -/
def char : Escape → Char
  | quote => '"'
  | openParen => '('
  | closeParen => ')'
  | apostrophe => '\''
  | ampersand => '&'

end Escape

namespace Label

/-- Replace every escape token by its character. -/
def unescape : List Char → List Char
  | [] => []
  | '#' :: 'q' :: 'u' :: 'o' :: 't' :: ';' :: rest => '"' :: unescape rest
  | '#' :: '4' :: '0' :: ';' :: rest => '(' :: unescape rest
  | '#' :: '4' :: '1' :: ';' :: rest => ')' :: unescape rest
  | '#' :: '3' :: '9' :: ';' :: rest => '\'' :: unescape rest
  | '#' :: 'a' :: 'm' :: 'p' :: ';' :: rest => '&' :: unescape rest
  | c :: rest => c :: unescape rest

/-- A token is replaced by the character it stands for, whatever follows it. -/
theorem unescape_token_append (e : Escape) (rest : List Char) :
    unescape (e.token ++ rest) = e.char :: unescape rest := by
  cases e <;> rfl

/-- Drop the double quotes at both ends, however many there are. -/
def stripQuotes (s : List Char) : List Char :=
  Text.dropEndWhile (· == '"') (s.dropWhile (· == '"'))

/-- The text a label shows. White space is trimmed outside the quotes and inside them. -/
def decode (raw : List Char) : List Char :=
  Text.trim (stripQuotes (Text.trim (unescape raw)))

end Label

end Flowchart
