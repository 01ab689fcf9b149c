-- SUMMARY: Documents: a direction, nodes and nested subgraphs, and edges, with the text they are written as and their graph.
import Flowchart.Proofs.Label
import Flowchart.Proofs.Mention
import Flowchart.Proofs.Subgraphs

/-!
# Documents

A document says what a diagram holds, and is written as a text of one line for each thing it says:
first its direction, then nodes and subgraphs, these with what they hold between their first and last
line, and then edges. The graph of a document is put together from what it says, without a look at
the text.
-/

namespace Flowchart

/-! ## Labels -/

/-- The label of a node or the title of a subgraph: some text on one line that shows as it is. -/
structure Caption where
  text : String
  ne_empty : text ≠ ""
  decode_eq : Label.decode text.toList = text.toList
  oneLine : '\n' ∉ text.toList

def Caption.chars (caption : Caption) : List Char :=
  caption.text.toList

/-- The label of an edge, which may be missing. It stands between pipes and holds none. -/
structure EdgeLabel where
  text : String
  decode_eq : Label.decode text.toList = text.toList
  oneLine : '\n' ∉ text.toList
  noPipe : '|' ∉ text.toList

def EdgeLabel.chars (label : EdgeLabel) : List Char :=
  label.text.toList

/-- The shape that a node of a category is written with. -/
def Category.shape : Category → Shape
  | terminal => .doubleRound
  | subprocess => .doubleSquare
  | decision => .curly
  | process => .square

@[simp] theorem Category.category_shape (category : Category) :
    category.shape.category = category := by
  cases category <;> rfl

/-- An identifier with a caption in quotes between the delimiters of a shape. -/
def captioned (id : Identifier) (shape : Shape) (caption : Caption) : List Char :=
  id.chars ++ (shape.opening ++ (Label.quoted caption.chars ++ shape.closing))

/-! ## Items -/

/-- Nodes and subgraphs one below the other. A subgraph holds items of its own. -/
inductive Items where
  | done
  | node (id : Identifier) (category : Category) (label : Caption) (more : Items)
  | subgraph (id : Identifier) (title : Caption) (children more : Items)

namespace Items

/-- The lines of items. -/
def lines : Items → List (List Char)
  | done => []
  | node id category label more => captioned id category.shape label :: more.lines
  | subgraph id title children more =>
    ("subgraph ".toList ++ captioned id .square title) ::
      (children.lines ++ "end".toList :: more.lines)

/-- All nodes, in the order they are written. -/
def nodes : Items → List Node
  | done => []
  | node id category label more => ⟨id.name, label.text, category⟩ :: more.nodes
  | subgraph _ _ children more => children.nodes ++ more.nodes

/-- The nodes that do not stand in a further subgraph. -/
def memberIds : Items → List String
  | done => []
  | node id _ _ more => id.name :: more.memberIds
  | subgraph _ _ _ more => more.memberIds

/-- All subgraphs, in the order they are opened. -/
def subgraphs : Items → List Subgraph
  | done => []
  | node _ _ _ more => more.subgraphs
  | subgraph id title children more =>
    ⟨id.name, title.text, children.memberIds⟩ :: (children.subgraphs ++ more.subgraphs)

end Items

/-! ## Arrows -/

/-- An edge with the token it is drawn with, of any length. -/
structure Arrow where
  source : Identifier
  target : Identifier
  kind : EdgeKind
  stroke : Stroke
  token : List Char
  spelled : Connector.Token.Spelled kind stroke token
  label : EdgeLabel

namespace Arrow

/-- The token with the label between pipes, if there is a label. -/
def connector (arrow : Arrow) : Connector :=
  if arrow.label.text = "" then ⟨arrow.kind, arrow.stroke, none, arrow.token⟩
  else
    ⟨arrow.kind, arrow.stroke, some arrow.label.chars,
      arrow.token ++ ('|' :: arrow.label.chars ++ ['|'])⟩

def chars (arrow : Arrow) : List Char :=
  arrow.source.chars ++ (arrow.connector.text ++ arrow.target.chars)

def edge (arrow : Arrow) : Edge :=
  ⟨arrow.source.name, arrow.target.name, arrow.label.text, arrow.kind, arrow.stroke⟩

end Arrow

/-! ## Documents -/

/-- The ways to write a direction. -/
def Direction.codes : Direction → List (List Char)
  | topDown => [['T', 'D'], ['T', 'B']]
  | bottomUp => [['B', 'T']]
  | leftRight => [['L', 'R']]
  | rightLeft => [['R', 'L']]

theorem readDirection_code (direction : Direction) {code : List Char}
    (h : code ∈ direction.codes) (s : List Char) :
    readDirection (code ++ s) = (some direction, s) := by
  cases direction with
  | topDown => rcases List.mem_pair.1 h with rfl | rfl <;> rfl
  | bottomUp | leftRight | rightLeft => rw [List.mem_singleton.1 h]; rfl

/-- A direction is read from one of its codes, or none is read. -/
theorem readDirection_cases (s : List Char) :
    readDirection s = (none, s) ∨
      ∃ (direction : Direction), ∃ code ∈ direction.codes, ∃ rest,
        s = code ++ rest ∧ readDirection s = (some direction, rest) := by
  fun_cases readDirection s with
  | case1 rest => exact .inr ⟨.topDown, ['T', 'D'], by decide, rest, rfl, rfl⟩
  | case2 rest => exact .inr ⟨.topDown, ['T', 'B'], by decide, rest, rfl, rfl⟩
  | case3 rest => exact .inr ⟨.bottomUp, ['B', 'T'], by decide, rest, rfl, rfl⟩
  | case4 rest => exact .inr ⟨.leftRight, ['L', 'R'], by decide, rest, rfl, rfl⟩
  | case5 rest => exact .inr ⟨.rightLeft, ['R', 'L'], by decide, rest, rfl, rfl⟩
  | case6 => exact .inl rfl

theorem Direction.isBlank_of_mem_code (direction : Direction) :
    ∀ code ∈ direction.codes, code ≠ [] ∧ ∀ c ∈ code, Text.isBlank c = false := by
  have hall : direction.codes.all fun code => !code.isEmpty && code.all (!Text.isBlank ·) := by
    cases direction <;> decide
  intro code hcode
  simpa using List.all_eq_true.1 hall code hcode

/-- What a diagram says. No two nodes have the same identifier. -/
structure Document where
  direction : Direction
  code : List Char
  code_mem : code ∈ direction.codes
  items : Items
  nodup_ids : (items.nodes.map Node.id).Nodup
  arrows : List Arrow

namespace Document

variable (doc : Document)

def lines : List (List Char) :=
  ("flowchart ".toList ++ doc.code) :: (doc.items.lines ++ doc.arrows.map Arrow.chars)

/-- The text of a document. Every line ends with a line feed. -/
def text : String :=
  String.ofList (doc.lines.flatMap (· ++ ['\n']))

/-- The ends of edges that are no nodes of the items, each once. -/
def looseEnds : List String :=
  ((doc.arrows.flatMap fun arrow => [arrow.source.name, arrow.target.name]).filter
    (· ∉ doc.items.nodes.map Node.id)).eraseDups

/-- The nodes of the items, and then a process for each loose end of an edge. -/
def nodes : List Node :=
  doc.items.nodes ++ doc.looseEnds.map fun id => ⟨id, id, .process⟩

theorem nodup_map_nodes : ((doc.nodes.map fun node => (node.id, node)).map Prod.fst).Nodup := by
  have hids : (doc.nodes.map fun node => (node.id, node)).map Prod.fst =
      doc.items.nodes.map Node.id ++ doc.looseEnds := by
    simp [nodes, Function.comp_def]
  rw [hids, List.nodup_append]
  refine ⟨doc.nodup_ids, ?_, ?_⟩
  · have := nodup_map_firsts id (doc.arrows.flatMap (fun arrow =>
      [arrow.source.name, arrow.target.name]) |>.filter (· ∉ doc.items.nodes.map Node.id))
    rwa [List.map_id] at this
  · rintro id hid _ hloose rfl
    rw [looseEnds, List.mem_eraseDups, List.mem_filter, decide_eq_true_eq] at hloose
    exact hloose.2 hid

/-- The graph that a document describes. -/
def graph : Graph where
  direction := doc.direction
  nodes := ⟨doc.nodes.map fun node => (node.id, node), doc.nodup_map_nodes⟩
  edges := doc.arrows.map Arrow.edge
  subgraphs := doc.items.subgraphs

end Document

end Flowchart
