-- SUMMARY: Placing the nodes of a graph where shape detection found them.
import Flowchart.Color
import Flowchart.Graph

/-!
# Placement

A detected shape carries an identifier, a bounding box and a color name. A node is placed at the
center of the box of the first shape with its identifier, provided that the box is four finite
numbers. Only a node that is placed takes the color of its shape.
-/

namespace Flowchart

/-- A shape found in an image. -/
structure DetectedShape where
  id : String
  /-- The edges `x1, y1, x2, y2` as fractions of the image, if they are four finite numbers. -/
  box : Option (List Float) := none
  colorName : Option String := none

/-- The size of the canvas. -/
structure Viewport where
  width : Float
  height : Float

structure Point where
  x : Float
  y : Float

/-- The center of a bounding box, scaled to the viewport. -/
def boxCenter? (box : List Float) (viewport : Viewport) : Option Point :=
  match box with
  | [x1, y1, x2, y2] =>
    if [x1, y1, x2, y2].all Float.isFinite then
      some ⟨(x1 + x2) / 2 * viewport.width, (y1 + y2) / 2 * viewport.height⟩
    else none
  | _ => none

/-- The place of a shape on the canvas, if its box is usable. -/
def DetectedShape.center? (shape : DetectedShape) (viewport : Viewport) : Option Point :=
  shape.box.bind (boxCenter? · viewport)

/-- The shapes by identifier. Of several shapes with one identifier the first counts. -/
def DetectedShape.index (shapes : List DetectedShape) : OrderedMap DetectedShape :=
  shapes.foldl (fun index shape => index.insertNew shape.id shape) ∅

/-- A node as it is to be drawn. -/
structure PlacedNode where
  node : Node
  position : Option Point
  /-- The detected color. -/
  color : Option Color
  /-- The color to fill the node with. -/
  fill : Color

namespace PlacedNode

/-- A node without a place, in the color of its identifier. -/
def unplaced (node : Node) : PlacedNode :=
  ⟨node, none, none, Color.ofId node.id⟩

/-- A node at the center of a shape, and in the color of the shape if that has one. -/
def ofShape (node : Node) (shape : DetectedShape) (center : Point) : PlacedNode :=
  let color := shape.colorName.map Color.ofName
  ⟨node, some center, color, color.getD (Color.ofId node.id)⟩

end PlacedNode

/-- The nodes of a graph with what was detected of them, as far as they have been placed. -/
structure Placement where
  nodes : List PlacedNode := []
  /-- The number of nodes that have a place. -/
  matched : Nat := 0
  /-- The nodes that have a shape whose box is of no use. -/
  unusable : List String := []

namespace Placement

/-- Place one more node. -/
def place (index : OrderedMap DetectedShape) (viewport : Viewport) (placement : Placement)
    (node : Node) : Placement :=
  match index.get? node.id with
  | none => { placement with nodes := placement.nodes ++ [.unplaced node] }
  | some shape =>
    match shape.center? viewport with
    | none =>
      { placement with
        nodes := placement.nodes ++ [.unplaced node]
        unusable := placement.unusable ++ [node.id] }
    | some center =>
      { placement with
        nodes := placement.nodes ++ [.ofShape node shape center]
        matched := placement.matched + 1 }

/-- Place the nodes of a graph, one after the other. -/
def ofShapes (graph : Graph) (shapes : List DetectedShape) (viewport : Viewport) : Placement :=
  graph.nodes.values.foldl (place (DetectedShape.index shapes) viewport) {}

/-- The part of the nodes that have a place; 0 if there are no nodes. -/
def matchRatio (placement : Placement) : Float :=
  if placement.nodes.isEmpty then 0
  else Float.ofNat placement.matched / Float.ofNat placement.nodes.length

end Placement

end Flowchart
