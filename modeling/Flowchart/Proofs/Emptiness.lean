-- SUMMARY: Assembling a diagram fails exactly if its text has nothing to draw, which white space never has.
import Flowchart.Proofs.Shown
import Flowchart.Proofs.Spacing

/-!
# Empty diagrams

A text is empty if none of its members mentions a node and no edge is extracted from it; then its
graph has no nodes, since an edge never comes without its ends. Exactly such a text cannot be
assembled. A text of white space is refused before it is looked into, and looking into it would find
nothing: a line of white space says nothing, whatever kinds of white space there are.
-/

namespace Flowchart

/-! ## Texts that say nothing -/

/-- A line is a part of its text. -/
theorem Text.subset_of_mem_lines {s line : List Char} (h : line ∈ lines s) : line ⊆ s := by
  obtain ⟨front, back, hlines⟩ := List.append_of_mem h
  obtain ⟨before, after, rfl, -, -⟩ := exists_isLine hlines
  exact List.subset_append_of_subset_left after (List.subset_append_right before line)

/-- Idle lines say nothing together. -/
theorem Graph.extract_of_isIdle {source : String}
    (h : ∀ line ∈ Text.lines source.toList, IsIdle line) : extract source = empty := by
  have hsenses : sensesOf source.toList = sensesOf [] := by
    rw [sensesOf, sourceLines, List.filterMap_map]
    exact List.filterMap_eq_nil_iff.2 fun line hline => (h line hline).sense?_read
  calc extract source
    _ = (Outline.read source.toList).graph := rfl
    _ = (Outline.read []).graph := by rw [Outline.read_eq_of_sensesOf hsenses]
    _ = empty := by decide +kernel

/-- White space says nothing, wherever its line breaks are. -/
theorem Graph.extract_of_isWhite {source : String} (h : ∀ c ∈ source.toList, Text.isWhite c) :
    extract source = empty :=
  extract_of_isIdle fun _ hline => .white fun c hc => h c (Text.subset_of_mem_lines hline hc)

/-- Trimming leaves nothing of white space only. -/
theorem Text.isWhite_of_trim_eq_nil {s : List Char} (h : trim s = []) : ∀ c ∈ s, isWhite c := by
  obtain ⟨before, after, hs, hbefore, hafter⟩ := exists_eq_append_trim s
  rw [h, List.append_nil] at hs
  intro c hc
  rw [hs] at hc
  exact (List.mem_append.1 hc).elim (hbefore c) (hafter c)

/-! ## Graphs without nodes -/

/-- There are no nodes if nothing is mentioned and there are no edges, which would have ends. -/
theorem Graph.entries_extract_eq_nil_iff (source : String) :
    (extract source).nodes.entries = [] ↔
      (∀ member ∈ membersOf source.toList, Mention.read? member = none) ∧
        (extract source).edges = [] := by
  rw [← List.filterMap_eq_nil_iff, ← mentionsOf]
  constructor
  · intro h
    have hnames : (extract source).nodes.names = [] := by rw [OrderedMap.names, h]; rfl
    constructor
    · rw [List.eq_nil_iff_forall_not_mem]
      intro mention hmention
      obtain ⟨_, -, hnode⟩ := exists_node?_of_mem_mentionsOf hmention
      rw [node?, OrderedMap.get?, h] at hnode
      cases hnode
    · rw [List.eq_nil_iff_forall_not_mem]
      intro edge hedge
      have hsource := mem_names_of_mem_ends hedge List.mem_cons_self
      rw [hnames] at hsource
      cases hsource
  · rintro ⟨hmentions, hedges⟩
    rw [entries_extract, hmentions, hedges]
    rfl

/-! ## Diagrams -/

namespace Diagram

variable (options : AssembleOptions) (source : String) (shapes : List DetectedShape)
  (viewport : Viewport)

/-- The first look at the text makes no difference. -/
theorem assemble_eq :
    assemble options source shapes viewport =
      if (Graph.extract source).nodes.entries = [] then .error .noNodes
      else
        .ok (ofPlacement options (Graph.extract source)
          (Placement.ofShapes (Graph.extract source) shapes viewport)) := by
  unfold assemble assembleNoticed
  split
  · next htrim =>
    have hwhite := Text.isWhite_of_trim_eq_nil (List.isEmpty_iff.1 htrim)
    rw [Graph.extract_of_isWhite hwhite]
    rfl
  · have hempty : (Outline.read source.toList).graph.isEmpty =
        decide ((Graph.extract source).nodes.entries = []) := by
      rw [Bool.eq_iff_iff, decide_eq_true_iff, ← List.length_eq_zero_iff]
      exact beq_iff_eq
    simp only [hempty, decide_eq_true_eq]
    split
    · rfl
    · rfl

/-- Assembling fails exactly if there are no nodes, that is, if no member mentions a node and there
    are no edges. A text of white space of any kind is such a text: its graph is empty. -/
theorem assemble_eq_error_iff :
    (∀ error, assemble options source shapes viewport = .error error ↔
      error = .noNodes ∧ (Graph.extract source).nodes.entries = []) ∧
    ((Graph.extract source).nodes.entries = [] ↔
      (∀ statement ∈ statementsOf source.toList, ∀ group ∈ (Chain.read statement).groups,
        ∀ member ∈ group, Mention.read? member = none) ∧ (Graph.extract source).edges = []) ∧
    ((∀ c ∈ source.toList, Text.isWhite c) → Graph.extract source = Graph.empty) := by
  refine ⟨fun error => ?_, ?_, Graph.extract_of_isWhite⟩
  · rw [assemble_eq]
    split
    · next hnone => cases error; simp [hnone]
    · next hsome => simp [hsome]
  · rw [Graph.entries_extract_eq_nil_iff, membersOf]
    simp only [List.forall_mem_flatMap, List.forall_mem_flatten]

theorem assemble_eq_error_iff_white :
    (∀ c ∈ "\u3000\r\n \t\u0085\n\u2028".toList, Text.isWhite c) ∧
      Graph.extract "\u3000\r\n \t\u0085\n\u2028" = Graph.empty ∧
      assemble {} "\u3000\r\n \t\u0085\n\u2028" [] ⟨100, 100⟩ = .error .noNodes := by
  have hwhite : ∀ c ∈ "\u3000\r\n \t\u0085\n\u2028".toList, Text.isWhite c :=
    List.all_eq_true.1 (by decide +kernel)
  obtain ⟨herror, -, hempty⟩ :=
    assemble_eq_error_iff {} "\u3000\r\n \t\u0085\n\u2028" [] ⟨100, 100⟩
  have hextract := hempty hwhite
  exact ⟨hwhite, hextract, (herror .noNodes).2 ⟨rfl, by rw [hextract]; rfl⟩⟩

end Diagram

end Flowchart
