-- SUMMARY: Node shapes: how a member of a statement mentions a node.
import Flowchart.Text.Word
import Flowchart.Label

/-!
# Shapes

A member of a statement mentions a node as an identifier, followed or not by a label between the
delimiters of a shape, and by a class suffix `:::name`. `Mention.read?` reads the whole member;
`leadingId?` reads only its identifier and accepts more.
-/

namespace Flowchart

/-! ## The shape grammar -/

/-- The family of a node, which decides how it is drawn. -/
inductive Category where
  | terminal
  | subprocess
  | decision
  | process
  deriving DecidableEq, Repr

/-- The name of a category in all output. -/
def Category.name : Category → String
  | terminal => "terminal"
  | subprocess => "subprocess"
  | decision => "decision"
  | process => "process"

/-- The delimiters that may stand around a label. -/
inductive Shape where
  | doubleRound
  | doubleSquare
  | curly
  | square
  | round
  deriving DecidableEq, Repr

namespace Shape

def opening : Shape → List Char
  | doubleRound => ['(', '(']
  | doubleSquare => ['[', '[']
  | curly => ['{']
  | square => ['[']
  | round => ['(']

def closing : Shape → List Char
  | doubleRound => [')', ')']
  | doubleSquare => [']', ']']
  | curly => ['}']
  | square => [']']
  | round => [')']

def category : Shape → Category
  | doubleRound => .terminal
  | doubleSquare => .subprocess
  | curly => .decision
  | square | round => .process

/-- All shapes, double delimiters before the single ones they start with. -/
def all : List Shape :=
  [doubleRound, doubleSquare, curly, square, round]

/-- What stands between the delimiters of a shape, if the text is enclosed by them. -/
def inside? (shape : Shape) (s : List Char) : Option (List Char) :=
  (shape.opening.isPrefixOf? s).bind fun rest =>
    (shape.closing.reverse.isPrefixOf? rest.reverse).map List.reverse

end Shape

/-! ## Mentions -/

/-- What a member of a statement says about a node. -/
structure Mention where
  id : String
  /-- Nothing for a bare identifier. -/
  label : Option String
  category : Category
  deriving DecidableEq, Repr

/-- The text to show for the node: its label, or its identifier if there is none or it is empty. -/
def Mention.shownLabel (mention : Mention) : String :=
  match mention.label with
  | some label => if label = "" then mention.id else label
  | none => mention.id

/-- The identifier that a text starts with; empty if it starts with none. -/
def identifier (s : List Char) : List Char :=
  s.takeWhile Text.isWord

/-- What follows the identifier that a text starts with. -/
def afterIdentifier (s : List Char) : List Char :=
  s.dropWhile Text.isWord

/-- A character of a class name. -/
def isClassChar (c : Char) : Bool :=
  Text.isWord c || c == '-'

/-- Drop the suffix `:::name`, and the white space before it, from a text that does not start with
    it. The name may be empty. -/
def dropClassSuffix (s : List Char) : List Char :=
  match s.reverse.dropWhile isClassChar with
  | ':' :: ':' :: ':' :: c :: rest => Text.trimEnd (c :: rest).reverse
  | _ => s

/-- Read a whole member as the mention of a node. -/
def Mention.read? (member : List Char) : Option Mention :=
  let text := dropClassSuffix (Text.trim member)
  let id := identifier text
  let rest := afterIdentifier text
  if id.isEmpty then none
  else if rest.isEmpty then some ⟨String.ofList id, none, .process⟩
  else Shape.all.findSome? fun shape =>
    (shape.inside? rest).map fun label =>
      ⟨String.ofList id, some (String.ofList (Label.decode label)), shape.category⟩

/-- What follows an identifier so that it counts as ended: nothing, white space, the start of a
    shape or of a class suffix. -/
def endsIdentifier : List Char → Bool
  | [] => true
  | ':' :: ':' :: ':' :: _ => true
  | c :: _ => Text.isWhite c || c == '(' || c == '[' || c == '{'

/-- The identifier that a member starts with, whatever shape follows it. In `my-node` there is
    none, since nothing ends `my`. -/
def leadingId? (member : List Char) : Option String :=
  let text := Text.trim member
  let id := identifier text
  if id.isEmpty || !endsIdentifier (afterIdentifier text) then none
  else some (String.ofList id)

end Flowchart
