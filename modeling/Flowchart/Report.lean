-- SUMMARY: The text report of a diagram.
import Flowchart.Text.Cell
import Flowchart.Decimal.Fixed
import Flowchart.Diagram

/-!
# Report

A report gives the layout, a table of the nodes aligned by display width, and a line for each edge.
Edge lines are written in the notation of diagrams.
-/

namespace Flowchart

namespace Report

/-! ## The table -/

/-- The cells of one line of the table. -/
abbrev Row := List (List Char)

def headers : Row :=
  ["ID".toList, "LABEL".toList, "SHAPE".toList, "POSITION".toList, "FILL".toList]

/-- The most columns that a label may take. -/
def maxLabelWidth : Nat := 32

/-- A position with one decimal place, or a dash. -/
def positionCell : Option Point → List Char
  | some point => fixedText 1 point.x ++ ',' :: fixedText 1 point.y
  | none => ['-']

/-- The fill color; a star marks one that was not detected. -/
def fillCell (placed : PlacedNode) : List Char :=
  placed.fill.toHex.toList ++ if placed.color.isSome then [] else [' ', '*']

def labelCell (label : String) : List Char :=
  Text.truncateToWidth (Text.flattenBreaks label.toList) maxLabelWidth

def row (placed : PlacedNode) : Row :=
  [placed.node.id.toList, labelCell placed.node.label, placed.node.category.name.toList,
   positionCell placed.position, fillCell placed]

/-- The widths of the columns, made wide enough for one more row. -/
def widen (widths : List Nat) (row : Row) : List Nat :=
  List.zipWith (fun width cell => max width (Text.displayWidth cell)) widths row

/-- The greatest width of each column. -/
def columnWidths (rows : List Row) : List Nat :=
  rows.foldl widen (headers.map Text.displayWidth)

/-- A row with its cells filled up to the widths of the columns and two spaces between them. -/
def rowLine (widths : List Nat) (row : Row) : List Char :=
  Text.trimEnd ([' ', ' '].intercalate (List.zipWith Text.padToWidth row widths))

/-! ## Edges -/

/-- The connector of an edge, in its shortest form. -/
def connectorText : Stroke → EdgeKind → List Char
  | .solid, .arrow => ['-', '-', '>']
  | .solid, .line => ['-', '-', '-']
  | .dotted, .arrow => ['-', '.', '-', '>']
  | .dotted, .line => ['-', '.', '-']
  | .thick, .arrow => ['=', '=', '>']
  | .thick, .line => ['=', '=', '=']

/-- An edge as a statement of a diagram. -/
def edgeLine (edge : Edge) : List Char :=
  let label :=
    if edge.label.isEmpty then []
    else '|' :: Text.flattenBreaks edge.label.toList ++ ['|']
  edge.source.toList ++ ' ' :: connectorText edge.stroke edge.kind ++ label ++
    ' ' :: edge.target.toList

/-! ## The report -/

/-- The line about the layout. -/
def layoutLine (diagram : Diagram) : List Char :=
  let positioned := diagram.nodes.countP (·.position.isSome)
  "layout: ".toList ++ diagram.layout.name.toList ++ " (".toList ++ Nat.toDigits 10 positioned ++
    '/' :: Nat.toDigits 10 diagram.nodes.length ++ " nodes matched, ratio ".toList ++
    fixedText 2 diagram.matchRatio ++ [')']

/-- The lines of a report. -/
def lines (diagram : Diagram) : List (List Char) :=
  let rows := diagram.nodes.map row
  let widths := columnWidths rows
  let edges := diagram.edges.map edgeLine
  [layoutLine diagram, []] ++ (headers :: rows).map (rowLine widths) ++
    if edges.isEmpty then [] else [] :: edges

end Report

/-- The report of a diagram, a line feed ending each of its lines. -/
def Diagram.report (diagram : Diagram) : String :=
  String.ofList ((Report.lines diagram).flatMap (· ++ ['\n']))

end Flowchart
