-- SUMMARY: Placing nodes by an index of the shapes gives each node what the first shape with its identifier says.
import Flowchart.Extract
import Flowchart.Placement
import Flowchart.Proofs.OrderedMap

/-!
# Placing nodes

Nodes are placed one after the other, while their places are counted and the shapes are looked up in
an index. The outcome is that of a search through the list of shapes for every node: the first shape
with the identifier of the node counts, and if its box is of no use the node has neither a place nor a
color. So only the first shape of each identifier matters, and only for the nodes there are.
-/

namespace Flowchart

/-! ## Shapes -/

/-- The index gives the first shape with an identifier. -/
theorem DetectedShape.get?_index (shapes : List DetectedShape) (id : String) :
    (index shapes).get? id = shapes.find? (·.id == id) := by
  have hget := OrderedMap.get?_foldl_insertNew DetectedShape.id (fun shape => shape) shapes id
  rwa [Option.map_id_fun'] at hget

/-- A box is of use if it is four finite numbers. -/
theorem boxCenter?_eq_some_iff {box : List Float} {viewport : Viewport} {point : Point} :
    boxCenter? box viewport = some point ↔
      ∃ x1 y1 x2 y2, box = [x1, y1, x2, y2] ∧
        (x1.isFinite ∧ y1.isFinite ∧ x2.isFinite ∧ y2.isFinite) ∧
        point = ⟨(x1 + x2) / 2 * viewport.width, (y1 + y2) / 2 * viewport.height⟩ := by
  unfold boxCenter?
  split
  · next x1 y1 x2 y2 =>
    constructor
    · intro h
      split at h
      · next hfinite =>
        exact ⟨x1, y1, x2, y2, rfl, by simpa using hfinite, (Option.some.inj h).symm⟩
      · cases h
    · rintro ⟨_, _, _, _, hbox, hfinite, rfl⟩
      cases hbox
      rw [if_pos (by simpa using hfinite)]
  · next hother =>
    constructor
    · nofun
    · rintro ⟨x1, y1, x2, y2, rfl, -⟩
      exact absurd rfl (hother x1 y1 x2 y2)

/-- Which shape is the first with an identifier depends on the shapes with that identifier only. -/
theorem DetectedShape.find?_eq_of_filter_eq {shapes other : List DetectedShape} {id : String}
    (h : other.filter (·.id == id) = shapes.filter (·.id == id)) :
    other.find? (·.id == id) = shapes.find? (·.id == id) := by
  rw [← List.head?_filter, h, List.head?_filter]

/-- A shape does not matter where one with its identifier stands before it, or for other
    identifiers. -/
theorem DetectedShape.find?_insert {front : List DetectedShape} {shape : DetectedShape} {id : String}
    (h : shape.id ≠ id ∨ shape.id ∈ front.map DetectedShape.id) (back : List DetectedShape) :
    (front ++ shape :: back).find? (·.id == id) = (front ++ back).find? (·.id == id) := by
  rw [List.find?_append, List.find?_append]
  by_cases hid : shape.id = id
  · have hfront : (front.find? (·.id == id)).isSome := by
      rw [List.find?_isSome]
      obtain ⟨first, hfirst, hsame⟩ := List.mem_map.1 (h.resolve_left (absurd hid))
      exact ⟨first, hfirst, by simpa [hsame] using hid⟩
    rw [Option.or_of_isSome hfront, Option.or_of_isSome hfront]
  · rw [List.find?_cons_of_neg (by simpa using hid)]

/-! ## One node -/

namespace PlacedNode

/-- A node placed by a shape, if there is one and its box is of use. -/
def ofShape? (viewport : Viewport) (node : Node) (found : Option DetectedShape) : PlacedNode :=
  match found with
  | none => unplaced node
  | some shape =>
    match shape.center? viewport with
    | none => unplaced node
    | some center => ofShape node shape center

variable (viewport : Viewport) (node : Node) (found : Option DetectedShape)

@[simp] theorem node_ofShape? : (ofShape? viewport node found).node = node := by
  fun_cases ofShape? <;> rfl

theorem position_ofShape? :
    (ofShape? viewport node found).position = found.bind (·.center? viewport) := by
  fun_cases ofShape? with
  | case1 => rfl
  | case2 shape hcenter => exact hcenter.symm
  | case3 shape center hcenter => exact hcenter.symm

/-- A node takes the color of a shape only together with its place. -/
theorem color_ofShape? :
    (ofShape? viewport node found).color =
      found.bind fun shape =>
        (shape.center? viewport).bind fun _ => shape.colorName.map Color.ofName := by
  fun_cases ofShape? with
  | case1 => rfl
  | case2 shape hcenter => simp [hcenter, unplaced]
  | case3 shape center hcenter => simp [hcenter, ofShape]

theorem fill_ofShape? :
    (ofShape? viewport node found).fill =
      (ofShape? viewport node found).color.getD (Color.ofId node.id) := by
  fun_cases ofShape? <;> rfl

/-- A node placed by the first shape with its identifier, which the list is searched for. -/
def ofFirst (shapes : List DetectedShape) (viewport : Viewport) (node : Node) : PlacedNode :=
  ofShape? viewport node (shapes.find? (·.id == node.id))

@[simp] theorem node_ofFirst (shapes : List DetectedShape) (viewport : Viewport) (node : Node) :
    (ofFirst shapes viewport node).node = node :=
  node_ofShape? viewport node _

/-- The first shape of the node has a box of no use. -/
def isUnusable (shapes : List DetectedShape) (viewport : Viewport) (node : Node) : Bool :=
  (shapes.find? (·.id == node.id)).isSome && (ofFirst shapes viewport node).position.isNone

/-- A place that was found stays when there are more shapes behind the others. -/
theorem ofFirst_append {shapes : List DetectedShape} {viewport : Viewport} {node : Node}
    (h : (ofFirst shapes viewport node).position.isSome) (more : List DetectedShape) :
    ofFirst (shapes ++ more) viewport node = ofFirst shapes viewport node := by
  have hfound : (shapes.find? (·.id == node.id)).isSome := by
    rw [ofFirst, position_ofShape?] at h
    exact Option.isSome_of_isSome_bind h
  rw [ofFirst, ofFirst, List.find?_append, Option.or_of_isSome hfound]

end PlacedNode

/-! ## All nodes -/

namespace Placement

/-- Placing a node adds it to the list, and counts it if it got a place. -/
theorem place_eq (index : OrderedMap DetectedShape) (viewport : Viewport) (placement : Placement)
    (node : Node) :
    let placed := PlacedNode.ofShape? viewport node (index.get? node.id)
    place index viewport placement node =
      ⟨placement.nodes ++ [placed],
        placement.matched + [placed].countP (·.position.isSome),
        placement.unusable ++ ([node].filter fun node =>
          (index.get? node.id).isSome && placed.position.isNone).map Node.id⟩ := by
  intro placed
  fun_cases place with
  | case1 hindex => simp [placed, PlacedNode.ofShape?, hindex, PlacedNode.unplaced]
  | case2 shape hindex hcenter =>
    simp [placed, PlacedNode.ofShape?, hindex, hcenter, PlacedNode.unplaced]
  | case3 shape hindex center hcenter =>
    simp [placed, PlacedNode.ofShape?, hindex, hcenter, PlacedNode.ofShape]

/-- Placing nodes one after the other places each by its own shape. What was counted on the way is
    what the list shows in the end. -/
theorem foldl_place (index : OrderedMap DetectedShape) (viewport : Viewport) (nodes : List Node)
    (placement : Placement) :
    let placed (node : Node) := PlacedNode.ofShape? viewport node (index.get? node.id)
    nodes.foldl (place index viewport) placement =
      ⟨placement.nodes ++ nodes.map placed,
        placement.matched + (nodes.map placed).countP (·.position.isSome),
        placement.unusable ++ (nodes.filter fun node =>
          (index.get? node.id).isSome && (placed node).position.isNone).map Node.id⟩ := by
  intro placed
  induction nodes generalizing placement with
  | nil => simp
  | cons node nodes ih =>
    have hsplit : node :: nodes = [node] ++ nodes := rfl
    rw [List.foldl_cons, ih, place_eq, hsplit, List.map_append, List.countP_append,
      List.filter_append, List.map_append]
    simp only [List.append_assoc, Nat.add_assoc]
    rfl

section

variable (graph : Graph) (shapes : List DetectedShape) (viewport : Viewport)

/-- The placement of a graph is that of its nodes by a search for their shapes. -/
theorem ofShapes_eq :
    ofShapes graph shapes viewport =
      let placed := graph.nodes.values.map (PlacedNode.ofFirst shapes viewport)
      ⟨placed, placed.countP (·.position.isSome),
        (graph.nodes.values.filter (PlacedNode.isUnusable shapes viewport)).map Node.id⟩ := by
  rw [ofShapes, foldl_place]
  simp only [DetectedShape.get?_index, List.nil_append, Nat.zero_add]
  rfl

theorem nodes_ofShapes :
    (ofShapes graph shapes viewport).nodes =
      graph.nodes.values.map (PlacedNode.ofFirst shapes viewport) := by
  rw [ofShapes_eq]

/-- The places are as many as were counted. -/
theorem matched_ofShapes :
    (ofShapes graph shapes viewport).matched =
      (ofShapes graph shapes viewport).nodes.countP (·.position.isSome) := by
  rw [ofShapes_eq]

/-- Placing nodes does not change them. -/
theorem map_node_ofShapes :
    (ofShapes graph shapes viewport).nodes.map PlacedNode.node = graph.nodes.values := by
  rw [nodes_ofShapes, List.map_map]
  simp [Function.comp_def]

variable {graph shapes}

/-- Of the shapes only the first one for each node matters. -/
theorem ofShapes_congr {other : List DetectedShape}
    (h : ∀ node ∈ graph.nodes.values,
      other.find? (·.id == node.id) = shapes.find? (·.id == node.id)) :
    ofShapes graph other viewport = ofShapes graph shapes viewport := by
  have hfirst : ∀ node ∈ graph.nodes.values,
      PlacedNode.ofFirst other viewport node = PlacedNode.ofFirst shapes viewport node := by
    intro node hnode
    rw [PlacedNode.ofFirst, PlacedNode.ofFirst, h node hnode]
  have hunusable : graph.nodes.values.filter (PlacedNode.isUnusable other viewport) =
      graph.nodes.values.filter (PlacedNode.isUnusable shapes viewport) := by
    refine List.filter_congr fun node hnode => ?_
    rw [PlacedNode.isUnusable, PlacedNode.isUnusable, h node hnode, hfirst node hnode]
  rw [ofShapes_eq, ofShapes_eq, List.map_congr_left hfirst, hunusable]

/-- No place is lost or moved when there are more shapes behind the others. -/
theorem getElem?_nodes_append {number : Nat} {placed : PlacedNode}
    (h : (ofShapes graph shapes viewport).nodes[number]? = some placed)
    (hposition : placed.position.isSome) (more : List DetectedShape) :
    (ofShapes graph (shapes ++ more) viewport).nodes[number]? = some placed := by
  rw [nodes_ofShapes, List.getElem?_map, Option.map_eq_some_iff] at h ⊢
  obtain ⟨node, hnode, rfl⟩ := h
  exact ⟨node, hnode, PlacedNode.ofFirst_append hposition more⟩

theorem matched_le_append (more : List DetectedShape) :
    (ofShapes graph shapes viewport).matched ≤
      (ofShapes graph (shapes ++ more) viewport).matched := by
  rw [matched_ofShapes, matched_ofShapes, nodes_ofShapes, nodes_ofShapes, List.countP_map,
    List.countP_map]
  refine List.countP_mono_left fun node _ hposition => ?_
  rw [Function.comp_apply, PlacedNode.ofFirst_append hposition]
  exact hposition

end

end Placement

/-- A node is placed as the first shape with its identifier says: at the center of the box if that is
    four finite numbers, and then in the color of the shape if it has one. -/
structure PlacedNode.IsFirstMatch (shapes : List DetectedShape) (viewport : Viewport)
    (placed : PlacedNode) : Prop where
  position : ∀ point, placed.position = some point ↔
    ∃ shape, shapes.find? (·.id == placed.node.id) = some shape ∧
      ∃ x1 y1 x2 y2, shape.box = some [x1, y1, x2, y2] ∧
        (x1.isFinite ∧ y1.isFinite ∧ x2.isFinite ∧ y2.isFinite) ∧
        point = ⟨(x1 + x2) / 2 * viewport.width, (y1 + y2) / 2 * viewport.height⟩
  color : ∀ color, placed.color = some color ↔
    placed.position.isSome ∧ ∃ shape, shapes.find? (·.id == placed.node.id) = some shape ∧
      ∃ name, shape.colorName = some name ∧ color = Color.ofName name
  fill : placed.fill = placed.color.getD (Color.ofId placed.node.id)

theorem PlacedNode.isFirstMatch_ofFirst (shapes : List DetectedShape) (viewport : Viewport)
    (node : Node) : (ofFirst shapes viewport node).IsFirstMatch shapes viewport where
  position point := by
    rw [ofFirst, position_ofShape?, node_ofShape?, Option.bind_eq_some_iff]
    refine exists_congr fun shape => and_congr_right fun _ => ?_
    rw [DetectedShape.center?, Option.bind_eq_some_iff]
    constructor
    · rintro ⟨box, hbox, hcenter⟩
      obtain ⟨x1, y1, x2, y2, rfl, hpoint⟩ := boxCenter?_eq_some_iff.1 hcenter
      exact ⟨x1, y1, x2, y2, hbox, hpoint⟩
    · rintro ⟨x1, y1, x2, y2, hbox, hpoint⟩
      exact ⟨_, hbox, boxCenter?_eq_some_iff.2 ⟨x1, y1, x2, y2, rfl, hpoint⟩⟩
  color color := by
    rw [ofFirst, position_ofShape?, color_ofShape?, node_ofShape?]
    cases hfound : shapes.find? (·.id == node.id) with
    | none => simp
    | some shape =>
      cases hcenter : shape.center? viewport with
      | none => simp [hcenter]
      | some center => simp [hcenter, eq_comm]
  fill := by
    rw [ofFirst, fill_ofShape?, node_ofShape?]

namespace Placement

/-- Every node of the graph is placed as the first shape with its identifier says, in the order of the
    nodes, and the places are counted. So the shapes can be reordered as long as those with the same
    identifier keep their order, a shape can be left out if no node or an earlier shape has its
    identifier, and shapes behind the others neither lose nor move a place. -/
theorem isFirstMatch_ofShapes (graph : Graph) (shapes : List DetectedShape) (viewport : Viewport) :
    let placement := ofShapes graph shapes viewport
    placement.nodes.map PlacedNode.node = graph.nodes.values ∧
      (∀ placed ∈ placement.nodes, placed.IsFirstMatch shapes viewport) ∧
      placement.matched = placement.nodes.countP (·.position.isSome) ∧
      placement.matched ≤ graph.nodes.size ∧
      (∀ other : List DetectedShape,
        (∀ id, other.filter (·.id == id) = shapes.filter (·.id == id)) →
          ofShapes graph other viewport = placement) ∧
      (∀ front shape back, front ++ back = shapes →
        shape.id ∉ graph.nodes.values.map Node.id ∨ shape.id ∈ front.map DetectedShape.id →
          ofShapes graph (front ++ shape :: back) viewport = placement) ∧
      ∀ more, placement.matched ≤ (ofShapes graph (shapes ++ more) viewport).matched ∧
        ∀ (number : Nat) (placed : PlacedNode),
          placement.nodes[number]? = some placed → placed.position.isSome →
            (ofShapes graph (shapes ++ more) viewport).nodes[number]? = some placed := by
  intro placement
  refine ⟨map_node_ofShapes graph shapes viewport, ?_, matched_ofShapes graph shapes viewport, ?_,
    ?_, ?_, fun more => ⟨matched_le_append viewport more, ?_⟩⟩
  · intro placed hplaced
    rw [nodes_ofShapes] at hplaced
    obtain ⟨node, -, rfl⟩ := List.mem_map.1 hplaced
    exact PlacedNode.isFirstMatch_ofFirst shapes viewport node
  · have hcount := matched_ofShapes graph shapes viewport
    have hlength := congrArg List.length (map_node_ofShapes graph shapes viewport)
    rw [List.length_map, OrderedMap.values, List.length_map] at hlength
    calc placement.matched
      _ = placement.nodes.countP (·.position.isSome) := hcount
      _ ≤ placement.nodes.length := List.countP_le_length
      _ = graph.nodes.size := hlength
  · intro other hother
    exact ofShapes_congr viewport fun node _ => DetectedShape.find?_eq_of_filter_eq (hother node.id)
  · rintro front shape back rfl hidle
    refine ofShapes_congr viewport fun node hnode => DetectedShape.find?_insert (hidle.imp_left ?_) back
    exact fun hnone hid => hnone (hid ▸ List.mem_map_of_mem hnode)
  · intro number placed hplaced hposition
    exact getElem?_nodes_append viewport hplaced hposition more

/-- A shape for no node and a second shape for a node change nothing, even if the first one is of no
    use, and the shapes of different nodes can change places. -/
theorem isFirstMatch_ofShapes_superfluous :
    let graph := Graph.extract "A --> B"
    let cut : DetectedShape := ⟨"A", some [0.5, 0.5, 1], some "red"⟩
    let whole : DetectedShape := ⟨"A", some [0, 0, 0.5, 0.5], some "blue"⟩
    let other : DetectedShape := ⟨"B", some [0.5, 0.5, 1, 1], none⟩
    let stray : DetectedShape := ⟨"C", none, none⟩
    (∀ id, [other, cut].filter (·.id == id) = [cut, other].filter (·.id == id)) ∧
      ofShapes graph [other, cut] ⟨100, 100⟩ = ofShapes graph [cut, other] ⟨100, 100⟩ ∧
      stray.id ∉ graph.nodes.values.map Node.id ∧
      ofShapes graph [cut, stray, other] ⟨100, 100⟩ = ofShapes graph [cut, other] ⟨100, 100⟩ ∧
      whole.id ∈ [cut, other].map DetectedShape.id ∧
      ofShapes graph [cut, other, whole] ⟨100, 100⟩ = ofShapes graph [cut, other] ⟨100, 100⟩ := by
  intro graph cut whole other stray
  have hfilter : ∀ id, [other, cut].filter (·.id == id) = [cut, other].filter (·.id == id) := by
    intro id
    by_cases hid : "A" = id
    · subst hid
      rfl
    · simp [cut, List.filter_cons, hid]
  have hstray : stray.id ∉ graph.nodes.values.map Node.id := by decide +kernel
  have hwhole : whole.id ∈ [cut, other].map DetectedShape.id := List.mem_cons_self
  obtain ⟨-, -, -, -, hreorder, hinsert, -⟩ := isFirstMatch_ofShapes graph [cut, other] ⟨100, 100⟩
  exact ⟨hfilter, hreorder [other, cut] hfilter, hstray, hinsert [cut] stray [other] rfl (.inl hstray),
    hwhole, hinsert [cut, other] whole [] rfl (.inr hwhole)⟩

end Placement

end Flowchart
