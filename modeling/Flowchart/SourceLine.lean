-- SUMMARY: The lines of a diagram: declarations, subgraphs, directives and statements.
import Flowchart.Text.White

/-!
# Source lines

Each line of a diagram is of one kind, told by the keyword it starts with. A keyword is recognised
only where it stands alone: at the end of the line or before a blank.
-/

namespace Flowchart

/-- Where a diagram grows to. -/
inductive Direction where
  | topDown
  | bottomUp
  | leftRight
  | rightLeft
  deriving DecidableEq, Repr

/-- The name of a direction in all output. -/
def Direction.name : Direction → String
  | topDown => "topDown"
  | bottomUp => "bottomUp"
  | leftRight => "leftRight"
  | rightLeft => "rightLeft"

/-- What a line of a diagram is. -/
inductive SourceLine where
  /-- An empty line, a comment or a directive about looks. -/
  | skip
  /-- The start of a diagram, with its direction if given, and the statements after it. -/
  | declaration (direction : Option Direction) (statements : List Char)
  | subgraph (header : List Char)
  | subgraphEnd
  | body (statements : List Char)
  deriving DecidableEq, Repr

/-- What follows a keyword and the blanks after it, if the text starts with the keyword. -/
def afterKeyword? (keyword : String) (s : List Char) : Option (List Char) :=
  match keyword.toList.isPrefixOf? s with
  | some [] => some []
  | some (c :: rest) => if Text.isBlank c then some (Text.skipBlanks rest) else none
  | none => none

/-- What follows the first of several keywords that the text starts with. -/
def afterAnyKeyword? (keywords : List String) (s : List Char) : Option (List Char) :=
  keywords.findSome? (afterKeyword? · s)

/-- The keywords that start a diagram. -/
def declarationKeywords : List String :=
  ["graph", "flowchart"]

/-- The keywords of lines that have no bearing on the graph. -/
def directiveKeywords : List String :=
  ["classDef", "class", "style", "linkStyle", "click", "direction"]

/-- The direction whose two letters a text starts with, and the rest. Nothing need end them. -/
def readDirection : List Char → Option Direction × List Char
  | 'T' :: 'D' :: rest => (some .topDown, rest)
  | 'T' :: 'B' :: rest => (some .topDown, rest)
  | 'B' :: 'T' :: rest => (some .bottomUp, rest)
  | 'L' :: 'R' :: rest => (some .leftRight, rest)
  | 'R' :: 'L' :: rest => (some .rightLeft, rest)
  | rest => (none, rest)

/-- A text that is a comment to the end of its line. -/
def isComment : List Char → Bool
  | '%' :: '%' :: _ => true
  | _ => false

/-- Tell what a line is. -/
def SourceLine.read (line : List Char) : SourceLine :=
  let text := Text.skipBlanks line
  if text.isEmpty || isComment text then .skip
  else
    match afterAnyKeyword? declarationKeywords text with
    | some rest =>
      let (direction, statements) := readDirection rest
      .declaration direction (Text.trim statements)
    | none =>
      match afterKeyword? "subgraph" text with
      | some header => .subgraph header
      | none =>
        if afterKeyword? "end" text = some [] then .subgraphEnd
        else if (afterAnyKeyword? directiveKeywords text).isSome then .skip
        else .body (Text.trimEnd text)

end Flowchart
