-- SUMMARY: Assembling a diagram from its text and the shapes detected in an image.
import Flowchart.Notice
import Flowchart.Placement

/-!
# Diagrams

A diagram is all that is needed for drawing: the nodes with their places and colors, the edges, the
layout and the subgraphs. Assembling one fails only if its text has no nodes.
-/

namespace Flowchart

/-- Everything needed to draw one diagram. -/
structure Diagram where
  nodes : List PlacedNode
  edges : List Edge
  layout : Layout
  direction : Direction
  subgraphs : List Subgraph
  matchRatio : Float

/-- Why a diagram cannot be assembled. -/
inductive DiagramError where
  | noNodes
  deriving DecidableEq, Repr

def DiagramError.message : DiagramError → String
  | .noNodes => "diagram contains no nodes"

/-- How a diagram is to be assembled. -/
structure AssembleOptions where
  /-- The part of the nodes that must be detected for their positions to be used. -/
  presetThreshold : Float := Layout.standardThreshold

namespace Diagram

/-- The diagram of a graph whose nodes have been placed. -/
def ofPlacement (options : AssembleOptions) (graph : Graph) (placement : Placement) : Diagram :=
  ⟨placement.nodes, graph.edges,
    .choose options.presetThreshold placement.matchRatio placement.nodes.length,
    graph.direction, graph.subgraphs, placement.matchRatio⟩

/-- The notices of placing nodes and choosing the layout. -/
def placementNotices (graph : Graph) (placement : Placement) (diagram : Diagram) : List Notice :=
  .extracted graph.nodes.size graph.edges.length ::
    placement.unusable.map .unusableBox ++
      [.layoutSelected diagram.matchRatio diagram.nodes.length diagram.layout]

/-- Assemble a diagram, with the notices of the run. A text of nothing but white space is not even
    looked into. -/
def assembleNoticed (options : AssembleOptions) (source : String) (shapes : List DetectedShape)
    (viewport : Viewport) : Except DiagramError Diagram × List Notice :=
  if (Text.trim source.toList).isEmpty then (.error .noNodes, [])
  else
    let outline := Outline.read source.toList
    let graph := outline.graph
    if graph.isEmpty then (.error .noNodes, outline.notices)
    else
      let placement := Placement.ofShapes graph shapes viewport
      let diagram := ofPlacement options graph placement
      (.ok diagram, outline.notices ++ placementNotices graph placement diagram)

/-- Assemble a diagram from the text of a flowchart and the shapes detected in an image of it. -/
def assemble (options : AssembleOptions) (source : String) (shapes : List DetectedShape)
    (viewport : Viewport) : Except DiagramError Diagram :=
  (assembleNoticed options source shapes viewport).1

end Diagram

end Flowchart
