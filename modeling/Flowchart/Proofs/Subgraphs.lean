-- SUMMARY: Which nodes a subgraph lists: those defined first in a statement that it is placed around.
import Flowchart.Proofs.Nodes

/-!
# The nodes of subgraphs

Defining nodes one by one lists each of them in the subgraph of its first mention. So what a subgraph
lists in the end are the first mentions placed in it, in the order of the nodes.
-/

namespace Flowchart

/-- The identifiers of the mentions placed in a subgraph. -/
def idsPlacedIn (number : Nat) (mentions : List (Mention × Option Nat)) : List String :=
  (mentions.filter (·.2 == some number)).map (·.1.id)

theorem idsPlacedIn_append (number : Nat) (front back : List (Mention × Option Nat)) :
    idsPlacedIn number (front ++ back) = idsPlacedIn number front ++ idsPlacedIn number back := by
  simp [idsPlacedIn]

/-- A mention that is placed elsewhere does not count. -/
theorem idsPlacedIn_cons (number : Nat) (mention : Mention) (subgraph : Option Nat)
    (mentions : List (Mention × Option Nat)) :
    idsPlacedIn number ((mention, subgraph) :: mentions) =
      if subgraph = some number then mention.id :: idsPlacedIn number mentions
      else idsPlacedIn number mentions := by
  by_cases h : subgraph = some number <;> simp [idsPlacedIn, h]

/-- A subgraph with more nodes listed. -/
def Subgraph.list (subgraph : Subgraph) (ids : List String) : Subgraph :=
  { subgraph with nodeIds := subgraph.nodeIds ++ ids }

@[simp] theorem Subgraph.list_nil (subgraph : Subgraph) : subgraph.list [] = subgraph := by
  simp [Subgraph.list]

theorem Subgraph.list_append (subgraph : Subgraph) (ids more : List String) :
    subgraph.list (ids ++ more) = (subgraph.list ids).list more := by
  simp [Subgraph.list]

theorem Graph.subgraphs_define_of_notMem {graph : Graph} {mention : Mention}
    (h : mention.id ∉ graph.nodes.names) (subgraph : Option Nat) :
    (graph.define mention subgraph).subgraphs =
      graph.subgraphs.mapIdx fun number s => s.list (idsPlacedIn number [(mention, subgraph)]) := by
  unfold Graph.define
  rw [if_neg h]
  refine List.ext_getElem? fun number => ?_
  cases subgraph with
  | none => simp [idsPlacedIn]
  | some placed =>
    by_cases hplaced : placed = number
    · simp [idsPlacedIn, hplaced, Subgraph.list]
    · simp [idsPlacedIn, hplaced]

/-- Defining nodes lists the first mentions that are new in the subgraphs they are placed in. -/
theorem Graph.subgraphs_foldl_define (mentions : List (Mention × Option Nat)) (graph : Graph) :
    (mentions.foldl (fun graph (mention, subgraph) => graph.define mention subgraph)
        graph).subgraphs =
      graph.subgraphs.mapIdx fun number s =>
        s.list (idsPlacedIn number
          (firsts (·.1.id) (mentions.filter (·.1.id ∉ graph.nodes.names)))) := by
  induction mentions generalizing graph with
  | nil => exact List.ext_getElem? fun number => by simp [idsPlacedIn]
  | cons placed mentions ih =>
    obtain ⟨mention, subgraph⟩ := placed
    rw [List.foldl_cons]
    by_cases h : mention.id ∈ graph.nodes.names
    · have hdefine : graph.define mention subgraph = graph := if_pos h
      dsimp only
      rw [hdefine, ih, List.filter_cons_of_neg (by simpa using h)]
    · rw [ih]
      dsimp only
      rw [Graph.subgraphs_define_of_notMem h, Graph.nodes_define,
        OrderedMap.names_insertNew_of_notMem _ h, List.mapIdx_mapIdx,
        firsts_filter_cons (fun placed : Mention × Option Nat => placed.1.id) h]
      congr 1
      funext number s
      rw [Function.comp_apply, ← Subgraph.list_append, ← idsPlacedIn_append]
      rfl

/-- The subgraphs of a diagram list the first mentions placed in them. -/
theorem Outline.subgraphs_graph (outline : Outline) :
    outline.graph.subgraphs = outline.subgraphs.mapIdx fun number s =>
      s.list (idsPlacedIn number (firsts (·.1.id) outline.mentions)) := by
  have hfold := Graph.subgraphs_foldl_define outline.mentions
    { Graph.empty with direction := outline.direction, subgraphs := outline.subgraphs }
  have hnew : outline.mentions.filter (·.1.id ∉ Graph.empty.nodes.names) = outline.mentions :=
    List.filter_eq_self.2 fun _ _ => rfl
  rw [hnew] at hfold
  exact hfold

end Flowchart
