-- SUMMARY: The graph of a flowchart: nodes, edges and subgraphs.
import Flowchart.OrderedMap
import Flowchart.Shape
import Flowchart.Statement
import Flowchart.SourceLine

/-!
# Graphs

A graph has nodes under their identifiers, in the order they were defined, edges between
identifiers, and subgraphs that list the nodes defined in them.
-/

namespace Flowchart

/-- A diagram runs from top to bottom unless it says otherwise. -/
instance : Inhabited Direction := ⟨.topDown⟩

structure Node where
  id : String
  label : String
  category : Category
  deriving DecidableEq, Repr

/-- The node that a mention defines. -/
def Node.ofMention (mention : Mention) : Node :=
  ⟨mention.id, mention.shownLabel, mention.category⟩

/-- The node for an identifier that only edges refer to. -/
def Node.placeholder (id : String) : Node :=
  ⟨id, id, .process⟩

structure Edge where
  source : String
  target : String
  /-- Empty when the edge has no label. -/
  label : String
  kind : EdgeKind
  stroke : Stroke
  deriving DecidableEq, Repr

structure Subgraph where
  id : String
  label : String
  /-- The nodes defined in the subgraph but not in one nested in it. -/
  nodeIds : List String
  deriving DecidableEq, Repr

structure Graph where
  direction : Direction
  nodes : OrderedMap Node
  edges : List Edge
  subgraphs : List Subgraph
  deriving DecidableEq, Repr

namespace Graph

/-- The graph of a text that says nothing. -/
def empty : Graph := ⟨default, ∅, [], []⟩

instance : Inhabited Graph := ⟨empty⟩

/-- The node with an identifier. -/
def node? (graph : Graph) (id : String) : Option Node :=
  graph.nodes.get? id

/-- There is nothing to draw. -/
def isEmpty (graph : Graph) : Bool :=
  graph.nodes.size == 0

end Graph

end Flowchart
