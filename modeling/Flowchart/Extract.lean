-- SUMMARY: From the text of a diagram to its graph.
import Flowchart.Text.Lines
import Flowchart.Text.Lowercase
import Flowchart.Graph

/-!
# Extraction

The lines of a diagram are read into an outline: its direction, the headers of its subgraphs and its
statements, each with the innermost subgraph open around it. Members of statements define nodes, the
first mention of an identifier winning. Connectors between groups give edges. Identifiers that only
edges refer to get a placeholder node. Extraction never fails: what is not understood is passed
over.
-/

namespace Flowchart

/-! ## Outline -/

/-- A statement and the number of the innermost subgraph open around it. -/
structure PlacedStatement where
  chain : Chain
  subgraph : Option Nat
  deriving DecidableEq, Repr

/-- The subgraphs opened so far, and those still open, innermost first. -/
structure OpenSubgraphs where
  count : Nat := 0
  stack : List Nat := []
  deriving DecidableEq, Repr

/-- The subgraphs open after a line. A surplus end closes nothing. -/
def OpenSubgraphs.after (opened : OpenSubgraphs) : SourceLine → OpenSubgraphs
  | .subgraph _ => ⟨opened.count + 1, opened.count :: opened.stack⟩
  | .subgraphEnd => { opened with stack := opened.stack.tail }
  | _ => opened

/-- The text of a line that holds statements. -/
def SourceLine.statements : SourceLine → List Char
  | .declaration _ statements => statements
  | .body statements => statements
  | _ => []

/-- The direction that a line declares. -/
def SourceLine.direction? : SourceLine → Option Direction
  | .declaration direction _ => direction
  | _ => none

/-- The header of the subgraph that a line opens. -/
def SourceLine.header? : SourceLine → Option (List Char)
  | .subgraph header => some header
  | _ => none

/-- The statements of the lines, in order, `opened` being open before the first line. -/
def placedStatements (opened : OpenSubgraphs) : List SourceLine → List PlacedStatement
  | [] => []
  | line :: lines =>
    (splitStatements line.statements).map (⟨Chain.read ·, opened.stack.head?⟩) ++
      placedStatements (opened.after line) lines

/-- A subgraph as its header names it, before any node is put into it. A header that is not a shape
    is a title, and the identifier is made from it, or from its number if it is empty. -/
def Subgraph.ofHeader (number : Nat) (header : List Char) : Subgraph :=
  let header := Text.trim header
  match Mention.read? header with
  | some mention => ⟨mention.id, mention.shownLabel, []⟩
  | none =>
    let title := Label.decode header
    let id :=
      if title.isEmpty then "subgraph" ++ toString number
      else String.ofList (Text.lowercase (title.map fun c => if c = ' ' then '_' else c))
    ⟨id, String.ofList title, []⟩

/-- What the lines of a diagram say, before statements are made into nodes and edges. -/
structure Outline where
  direction : Direction
  subgraphs : List Subgraph
  statements : List PlacedStatement
  deriving DecidableEq, Repr

/-- The outline of a text. The last direction declared holds. -/
def Outline.read (source : List Char) : Outline :=
  let lines := (Text.lines source).map SourceLine.read
  ⟨(lines.filterMap SourceLine.direction?).getLastD default,
    (lines.filterMap SourceLine.header?).mapIdx Subgraph.ofHeader,
    placedStatements {} lines⟩

/-! ## Nodes -/

/-- The members of a statement, in order. -/
def Chain.members (chain : Chain) : List (List Char) :=
  chain.groups.flatten

/-- The nodes mentioned in a diagram, in order, each with the subgraph around its statement. -/
def Outline.mentions (outline : Outline) : List (Mention × Option Nat) :=
  outline.statements.flatMap fun statement =>
    (statement.chain.members.filterMap Mention.read?).map (·, statement.subgraph)

/-- Define a node and list it in its subgraph, unless its identifier is defined already. -/
def Graph.define (graph : Graph) (mention : Mention) (subgraph : Option Nat) : Graph :=
  if mention.id ∈ graph.nodes.names then graph
  else
    { graph with
      nodes := graph.nodes.insertNew mention.id (Node.ofMention mention)
      subgraphs :=
        match subgraph with
        | some number => graph.subgraphs.modify number fun s =>
            { s with nodeIds := s.nodeIds ++ [mention.id] }
        | none => graph.subgraphs }

/-- The graph of the nodes that an outline defines, without edges. -/
def Outline.definitions (outline : Outline) : Graph :=
  outline.mentions.foldl (fun graph (mention, subgraph) => graph.define mention subgraph)
    { Graph.empty with direction := outline.direction, subgraphs := outline.subgraphs }

/-! ## Edges -/

/-- The identifiers of a group that edges can refer to. -/
def Group.endpoints (group : Group) : List String :=
  group.filterMap leadingId?

/-- The label of an edge with this connector. -/
def Connector.edgeLabel (link : Connector) : String :=
  match link.label with
  | some label => String.ofList (Label.decode label)
  | none => ""

/-- The edges from every member of one group to every member of the next. -/
def edgesBetween (left : Group) (link : Connector) (right : Group) : List Edge :=
  left.endpoints.flatMap fun source =>
    right.endpoints.map fun target => ⟨source, target, link.edgeLabel, link.kind, link.stroke⟩

/-- The edges of a chain, connector by connector. -/
def Chain.edges (chain : Chain) : List Edge :=
  chain.joints.flatMap fun (left, link, right) => edgesBetween left link right

/-- The edges of a diagram, in order. -/
def Outline.edges (outline : Outline) : List Edge :=
  outline.statements.flatMap (·.chain.edges)

/-! ## Placeholders -/

/-- The ends of an edge, source first. -/
def Edge.ends (edge : Edge) : List String :=
  [edge.source, edge.target]

/-- The names that are not in `known`, each where it comes up first. -/
def newNames (known : List String) : List String → List String
  | [] => []
  | name :: names =>
    if known.contains name then newNames known names
    else name :: newNames (name :: known) names

/-- The identifiers that edges refer to and that no node has, in the order they come up. -/
def Graph.undefinedEnds (graph : Graph) : List String :=
  newNames graph.nodes.names (graph.edges.flatMap Edge.ends)

/-- Give every identifier that only edges refer to a placeholder node. -/
def Graph.addPlaceholders (graph : Graph) : Graph :=
  { graph with
    nodes := graph.undefinedEnds.foldl (fun nodes id => nodes.insertNew id (.placeholder id))
      graph.nodes }

/-! ## The graph -/

/-- The graph of an outline, in which an edge may still refer to an undefined node. -/
def Outline.openGraph (outline : Outline) : Graph :=
  { outline.definitions with edges := outline.edges }

/-- The graph of an outline. -/
def Outline.graph (outline : Outline) : Graph :=
  outline.openGraph.addPlaceholders

/-- The graph of a diagram. -/
def Graph.extract (source : String) : Graph :=
  (Outline.read source.toList).graph

end Flowchart
