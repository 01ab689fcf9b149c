-- SUMMARY: Diagrams as JSON values.
import Flowchart.Json.Printer
import Flowchart.Diagram

/-!
# Diagrams in JSON

What a diagram consists of, member by member. A node that was not detected has no position and no
color of its own.
-/

namespace Flowchart

def Point.toJson (point : Point) : Json :=
  .object [("x", .number point.x), ("y", .number point.y)]

/-- A member that is left out when there is no value for it. -/
def Json.optional (name : String) : Option Json → List (String × Json)
  | some value => [(name, value)]
  | none => []

def PlacedNode.toJson (placed : PlacedNode) : Json :=
  .object
    ([("id", .string placed.node.id), ("label", .string placed.node.label),
      ("category", .string placed.node.category.name)] ++
    Json.optional "position" (placed.position.map Point.toJson) ++
    Json.optional "color" (placed.color.map (.string ·.toHex)) ++
    [("fill", .string placed.fill.toHex)])

def Edge.toJson (edge : Edge) : Json :=
  .object
    [("source", .string edge.source), ("target", .string edge.target),
     ("label", .string edge.label), ("kind", .string edge.kind.name),
     ("stroke", .string edge.stroke.name)]

def Subgraph.toJson (subgraph : Subgraph) : Json :=
  .object
    [("id", .string subgraph.id), ("label", .string subgraph.label),
     ("nodeIds", .array (subgraph.nodeIds.map .string))]

def Diagram.toJson (diagram : Diagram) : Json :=
  .object
    [("nodes", .array (diagram.nodes.map PlacedNode.toJson)),
     ("edges", .array (diagram.edges.map Edge.toJson)),
     ("layout", .string diagram.layout.name),
     ("direction", .string diagram.direction.name),
     ("subgraphs", .array (diagram.subgraphs.map Subgraph.toJson)),
     ("matchRatio", .number diagram.matchRatio)]

end Flowchart
