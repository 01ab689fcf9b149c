-- SUMMARY: Which nodes a diagram has: the first mention of every identifier, then the ends of edges that nothing mentions.
import Mathlib.Data.List.Basic
import Flowchart.Extract
import Flowchart.Proofs.OrderedMap

/-!
# The nodes of a diagram

The members of a text are listed in the order they are written, and those that can be read mention
nodes. The nodes of the extracted graph are the first mentions of their identifiers in that order,
followed by a placeholder for every further end of an edge. Members that cannot be read have no
influence on the nodes that are defined.
-/

namespace Flowchart

/-! ## Members in the order they are written -/

/-- The statements of a text, line by line. -/
def statementsOf (source : List Char) : List (List Char) :=
  (Text.lines source).flatMap fun line => splitStatements (SourceLine.read line).statements

/-- The members of a text, statement by statement and group by group. -/
def membersOf (source : List Char) : List (List Char) :=
  (statementsOf source).flatMap fun statement => (Chain.read statement).groups.flatten

/-- The mentions of nodes in a text. Members that cannot be read are passed over. -/
def mentionsOf (source : List Char) : List Mention :=
  (membersOf source).filterMap Mention.read?

/-- Placing the statements of lines in subgraphs keeps all of them, in order. -/
theorem map_chain_placedStatements (opened : OpenSubgraphs) (lines : List SourceLine) :
    (placedStatements opened lines).map (·.chain) =
      (lines.flatMap (splitStatements ·.statements)).map Chain.read := by
  induction lines generalizing opened with
  | nil => rfl
  | cons line lines ih => simp [placedStatements, ih, Function.comp_def]

/-- The mentions of an outline are those of its text, whatever subgraphs they stand in. -/
theorem Outline.map_fst_mentions (source : List Char) :
    (Outline.read source).mentions.map Prod.fst = mentionsOf source := by
  have hchains := map_chain_placedStatements {} ((Text.lines source).map SourceLine.read)
  calc (Outline.read source).mentions.map Prod.fst
      = ((Outline.read source).statements.map (·.chain)).flatMap
          (·.members.filterMap Mention.read?) := by
        simp [Outline.mentions, List.map_flatMap, List.flatMap_map, Function.comp_def]
    _ = mentionsOf source := by
        rw [Outline.read, hchains, mentionsOf, membersOf, statementsOf, List.filterMap_flatMap,
          List.flatMap_map, List.flatMap_map]
        rfl

/-! ## Definitions -/

theorem Graph.nodes_define (graph : Graph) (mention : Mention) (subgraph : Option Nat) :
    (graph.define mention subgraph).nodes =
      graph.nodes.insertNew mention.id (Node.ofMention mention) := by
  unfold Graph.define
  split
  · next h => exact (OrderedMap.insertNew_of_mem _ h).symm
  · rfl

/-- Defining nodes fills the map of nodes, whatever it does to subgraphs. -/
theorem Graph.nodes_foldl_define (mentions : List (Mention × Option Nat)) (graph : Graph) :
    (mentions.foldl (fun graph (mention, subgraph) => graph.define mention subgraph) graph).nodes =
      (mentions.map Prod.fst).foldl
        (fun nodes mention => nodes.insertNew mention.id (Node.ofMention mention)) graph.nodes := by
  induction mentions generalizing graph with
  | nil => rfl
  | cons mention mentions ih => rw [List.foldl_cons, ih, Graph.nodes_define]; rfl

theorem Graph.direction_define (graph : Graph) (mention : Mention) (subgraph : Option Nat) :
    (graph.define mention subgraph).direction = graph.direction := by
  unfold Graph.define
  split <;> rfl

/-- Defining nodes leaves the direction alone. -/
theorem Outline.direction_graph (outline : Outline) : outline.graph.direction = outline.direction := by
  have hfold (mentions : List (Mention × Option Nat)) (graph : Graph) :
      (mentions.foldl (fun graph (mention, subgraph) => graph.define mention subgraph)
        graph).direction = graph.direction := by
    induction mentions generalizing graph with
    | nil => rfl
    | cons mention mentions ih =>
      rw [List.foldl_cons, ih]
      exact Graph.direction_define graph _ _
  exact hfold _ _

theorem Outline.edges_graph (outline : Outline) : outline.graph.edges = outline.edges := rfl

/-- The defined nodes are the first mentions of their identifiers. -/
theorem Outline.entries_definitions (source : List Char) :
    (Outline.read source).definitions.nodes.entries =
      (firsts Mention.id (mentionsOf source)).map fun mention =>
        (mention.id, Node.ofMention mention) := by
  rw [Outline.definitions, Graph.nodes_foldl_define, Outline.map_fst_mentions,
    OrderedMap.entries_foldl_insertNew]
  simp [Graph.empty, OrderedMap.names, EmptyCollection.emptyCollection, OrderedMap.empty]

theorem Outline.mem_names_definitions {source : List Char} {id : String} :
    id ∈ (Outline.read source).definitions.nodes.names ↔ id ∈ (mentionsOf source).map Mention.id := by
  rw [OrderedMap.names, Outline.entries_definitions, List.map_map]
  exact mem_map_firsts Mention.id

/-! ## Placeholders -/

/-- The new names of a list are its names without the known ones and without repetitions. -/
theorem newNames_eq (known names : List String) :
    newNames known names = (names.filter (· ∉ known)).eraseDups := by
  induction names generalizing known with
  | nil => rfl
  | cons name names ih =>
    rw [newNames]
    by_cases h : name ∈ known
    · rw [if_pos (by simpa using h), ih, List.filter_cons_of_neg (by simpa using h)]
    · rw [if_neg (by simpa using h), ih, List.filter_cons_of_pos (by simpa using h),
        List.eraseDups_cons, List.filter_filter]
      congr 2
      apply List.filter_congr
      intro other _
      rw [Bool.eq_iff_iff]
      simp

theorem Graph.entries_addPlaceholders (graph : Graph) :
    graph.addPlaceholders.nodes.entries =
      graph.nodes.entries ++ graph.undefinedEnds.map fun id => (id, Node.placeholder id) := by
  have hnew : graph.undefinedEnds.filter (· ∉ graph.nodes.names) = graph.undefinedEnds := by
    rw [List.filter_eq_self]
    intro id hid
    rw [Graph.undefinedEnds, newNames_eq, List.mem_eraseDups, List.mem_filter] at hid
    exact hid.2
  have hnodup : (graph.undefinedEnds.map id).Nodup := by
    rw [Graph.undefinedEnds, newNames_eq]
    exact nodup_map_firsts id _
  calc graph.addPlaceholders.nodes.entries
      = graph.nodes.entries ++ (firsts id (graph.undefinedEnds.filter (· ∉ graph.nodes.names))).map
          fun id => (id, Node.placeholder id) :=
        OrderedMap.entries_foldl_insertNew id Node.placeholder graph.undefinedEnds graph.nodes
    _ = graph.nodes.entries ++ graph.undefinedEnds.map fun id => (id, Node.placeholder id) := by
        rw [hnew, firsts_eq_self id hnodup]

/-! ## The nodes of the extracted graph -/

/-- The node that a mention defines shows the label, or the identifier if that is missing or
    empty. -/
theorem Node.ofMention_eq (mention : Mention) :
    Node.ofMention mention =
      ⟨mention.id, (mention.label.filter (· ≠ "")).getD mention.id, mention.category⟩ := by
  unfold Node.ofMention Mention.shownLabel
  cases mention.label with
  | none => rfl
  | some label => by_cases h : label = "" <;> simp [h, Option.filter]

/-- The entries of the extracted graph: defined nodes, then placeholders. -/
theorem Graph.entries_extract (source : String) :
    (Graph.extract source).nodes.entries =
      (firsts Mention.id (mentionsOf source.toList)).map
          (fun mention => (mention.id, Node.ofMention mention)) ++
        (((Graph.extract source).edges.flatMap Edge.ends).filter
          (· ∉ (mentionsOf source.toList).map Mention.id)).eraseDups.map
          (fun id => (id, Node.placeholder id)) := by
  have hdefined : (Outline.read source.toList).openGraph.nodes =
      (Outline.read source.toList).definitions.nodes := rfl
  have hedges : (Outline.read source.toList).openGraph.edges = (Graph.extract source).edges := rfl
  have hends : (Outline.read source.toList).openGraph.undefinedEnds =
      (((Graph.extract source).edges.flatMap Edge.ends).filter
        (· ∉ (mentionsOf source.toList).map Mention.id)).eraseDups := by
    rw [Graph.undefinedEnds, newNames_eq, hdefined, hedges]
    simp only [Outline.mem_names_definitions]
  rw [← hends, ← Outline.entries_definitions]
  exact Graph.entries_addPlaceholders _

/-- Every entry of the extracted graph is filed under the identifier of its node. -/
theorem Graph.fst_eq_id_of_mem_entries {source : String} {entry : String × Node}
    (h : entry ∈ (Graph.extract source).nodes.entries) : entry.1 = entry.2.id := by
  rw [Graph.entries_extract, List.mem_append, List.mem_map, List.mem_map] at h
  rcases h with ⟨mention, _, rfl⟩ | ⟨id, _, rfl⟩
  · rfl
  · rfl

/-- Graphs that say the same are equal. -/
theorem Graph.eq_of_fields {graph other : Graph} (hdirection : graph.direction = other.direction)
    (hnodes : graph.nodes.entries = other.nodes.entries) (hedges : graph.edges = other.edges)
    (hsubgraphs : graph.subgraphs = other.subgraphs) : graph = other := by
  have hmap := OrderedMap.eq_of_entries hnodes
  cases graph
  cases other
  simp_all

theorem Graph.node?_of_find? {source : String} {id : String} {mention : Mention}
    (h : (mentionsOf source.toList).find? (·.id == id) = some mention) :
    (Graph.extract source).node? id = some (Node.ofMention mention) := by
  have hid : mention.id = id := by simpa using List.find?_some h
  apply OrderedMap.get?_of_mem
  rw [Graph.entries_extract, List.mem_append, List.mem_map]
  exact .inl ⟨mention, mem_firsts_of_find? _ h, by rw [hid]⟩

/-- A mentioned identifier has the node of its first mention. -/
theorem Graph.exists_node?_of_mem_mentionsOf {source : String} {mention : Mention}
    (h : mention ∈ mentionsOf source.toList) :
    ∃ first, (mentionsOf source.toList).find? (·.id == mention.id) = some first ∧
      (Graph.extract source).node? mention.id = some (Node.ofMention first) := by
  have hsome : ((mentionsOf source.toList).find? (·.id == mention.id)).isSome :=
    List.find?_isSome.2 ⟨mention, h, beq_self_eq_true _⟩
  obtain ⟨first, hfirst⟩ := Option.isSome_iff_exists.1 hsome
  exact ⟨first, hfirst, Graph.node?_of_find? hfirst⟩

/-- The ends of edges have nodes. -/
theorem Graph.mem_names_of_mem_ends {source : String} {edge : Edge} {id : String}
    (hedge : edge ∈ (Graph.extract source).edges) (hid : id ∈ edge.ends) :
    id ∈ (Graph.extract source).nodes.names := by
  rw [OrderedMap.names, Graph.entries_extract, List.map_append, List.mem_append]
  by_cases h : id ∈ (mentionsOf source.toList).map Mention.id
  · rw [← mem_map_firsts] at h
    exact .inl (by simpa using h)
  · refine .inr ?_
    rw [List.map_map, List.mem_map]
    refine ⟨id, ?_, rfl⟩
    rw [List.mem_eraseDups, List.mem_filter]
    exact ⟨List.mem_flatMap.2 ⟨edge, hedge, hid⟩, by simpa using h⟩

/-- The nodes of the extracted graph are the first mentions of their identifiers in the order they
    are written, and then a placeholder for every end of an edge that nothing mentions. So a node is
    filed under its identifier, a member that cannot be read never hides a mention, and the ends of
    every edge have exactly one node each. -/
theorem Graph.nodes_extract (source : String) :
    let graph := Graph.extract source
    let mentions := (membersOf source.toList).filterMap Mention.read?
    let node : Mention → Node := fun mention =>
      ⟨mention.id, (mention.label.filter (· ≠ "")).getD mention.id, mention.category⟩
    let ends := graph.edges.flatMap fun edge => [edge.source, edge.target]
    graph.nodes.entries =
        (mentions.eraseDupsBy fun a b => a.id == b.id).map
            (fun mention => (mention.id, node mention)) ++
          (ends.filter (· ∉ mentions.map Mention.id)).eraseDups.map
            (fun id => (id, ⟨id, id, .process⟩)) ∧
      (∀ entry ∈ graph.nodes.entries, entry.1 = entry.2.id) ∧
      (∀ mention ∈ mentions, ∃ first, mentions.find? (·.id == mention.id) = some first ∧
        graph.node? mention.id = some (node first)) ∧
      ∀ edge ∈ graph.edges, graph.nodes.names.count edge.source = 1 ∧
        graph.nodes.names.count edge.target = 1 := by
  intro graph mentions node ends
  have hnode : node = Node.ofMention := funext fun mention => (Node.ofMention_eq mention).symm
  refine ⟨?_, fun _ => Graph.fst_eq_id_of_mem_entries, ?_, ?_⟩
  · rw [hnode]
    exact Graph.entries_extract source
  · intro mention hmention
    obtain ⟨first, hfirst⟩ := Option.isSome_iff_exists.1
      (List.find?_isSome (p := (·.id == mention.id)).2 ⟨mention, hmention, by simp⟩)
    exact ⟨first, hfirst, by rw [hnode]; exact Graph.node?_of_find? hfirst⟩
  · intro edge hedge
    constructor
    · exact OrderedMap.count_names _ (Graph.mem_names_of_mem_ends hedge (by simp [Edge.ends]))
    · exact OrderedMap.count_names _ (Graph.mem_names_of_mem_ends hedge (by simp [Edge.ends]))

end Flowchart
