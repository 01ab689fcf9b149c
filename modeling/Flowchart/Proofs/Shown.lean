-- SUMMARY: What a diagram shows: distinct words as identifiers, and labels that fit on a line and hold no escape tokens.
import Flowchart.Diagram
import Flowchart.Proofs.Apart
import Flowchart.Proofs.Decoding
import Flowchart.Proofs.Placement

/-!
# What a diagram shows

Decoding leaves no escape token in a label and no white space at its ends. Labels come from single
lines of the text, so they hold no line feeds.
A label that decodes to nothing is not shown, but the identifier in its place.
-/

namespace Flowchart

/-! ## Texts to show -/

/-- A text that fits on a line: trimmed and decoded, without a line feed. -/
structure IsShown (text : List Char) : Prop where
  head : ∀ c ∈ text.head?, Text.isWhite c = false
  last : ∀ c ∈ text.getLast?, Text.isWhite c = false
  feed : '\n' ∉ text
  token : ∀ e : Escape, ¬ e.token <:+: text

theorem IsShown.nil : IsShown [] where
  head := nofun
  last := nofun
  feed := List.not_mem_nil
  token e := by cases e <;> decide

/-- A decoded label can be shown if it was written on one line. -/
theorem IsShown.decode {raw : List Char} (h : '\n' ∉ raw) : IsShown (Label.decode raw) where
  head := Text.isWhite_head?_trim _
  last := Text.isWhite_getLast?_trimEnd _
  feed hfeed := by
    rcases Label.mem_of_mem_unescape ((Label.decode_isInfix raw).subset hfeed) with hmem | ⟨e, he⟩
    · exact h hmem
    · cases e <;> exact absurd he (by decide)
  token e he := Label.not_isInfix_unescape e raw (he.trans (Label.decode_isInfix raw))

/-- A word can be shown. -/
theorem IsShown.of_isWord {s : List Char} (h : ∀ c ∈ s, Text.isWord c) : IsShown s where
  head c hc := Text.isWhite_of_isWord (h c (List.mem_of_mem_head? hc))
  last c hc := Text.isWhite_of_isWord (h c (List.mem_of_mem_getLast? hc))
  feed hfeed := absurd (h _ hfeed) (by decide)
  token e he := by
    have hhash : '#' ∈ e.token := by cases e <;> decide
    exact absurd (h _ (he.subset hhash)) (by decide)

/-! ## Parts of a line -/

theorem StandsApart.subset {part whole : List Char} (h : StandsApart part whole) : part ⊆ whole := by
  obtain ⟨before, after, rfl, -, -⟩ := h
  exact List.subset_append_of_subset_right before (List.subset_append_left part after)

theorem Text.feed_notMem_of_mem_lines {s line : List Char} (h : line ∈ lines s) : '\n' ∉ line := by
  obtain ⟨front, back, hlines⟩ := List.append_of_mem h
  obtain ⟨before, after, -, hline, -⟩ := exists_isLine hlines
  exact hline.whole

/-- No statement goes across a line feed. -/
theorem feed_notMem_of_mem_statementsOf {source statement : List Char}
    (h : statement ∈ statementsOf source) : '\n' ∉ statement := by
  obtain ⟨line, hline, hstatement⟩ := List.mem_flatMap.1 h
  have hsub : (SourceLine.read line).statements ⊆ line := by
    by_cases hnil : (SourceLine.read line).statements = []
    · rw [hnil]
      exact List.nil_subset line
    · rcases SourceLine.standsApart_statements hnil with happart | ⟨heading, rest, -, hwhole, htrim⟩
      · exact happart.subset
      · rw [htrim]
        intro c hc
        rw [hwhole]
        exact List.mem_append_right heading ((Text.trim_sublist rest).subset hc)
  intro hfeed
  apply Text.feed_notMem_of_mem_lines hline
  exact hsub (subset_of_mem_splitStatements hstatement hfeed)

theorem subset_of_mem_groups {statement member : List Char}
    (h : member ∈ (Chain.read statement).groups.flatten) : member ⊆ statement := by
  rcases standsApart_of_mem_groups h with rfl | happart
  · exact List.nil_subset statement
  · exact happart.subset

/-- The label of a connector is a part of the statement. -/
theorem Connector.Spelled.label_subset {connector : Connector} (h : connector.Spelled)
    {label : List Char} (hlabel : connector.label = some label) : label ⊆ connector.text := by
  cases h with
  | labelled =>
    obtain rfl := Option.some.inj hlabel
    intro c hc
    simp [hc]
  | bare => cases hlabel
  | piped =>
    obtain rfl := Option.some.inj hlabel
    intro c hc
    simp [hc]

theorem Segments.mem_of_mem_rest {marks : List Mark} {link : Connector}
    (h : link ∈ (ofMarks marks).rest.map Prod.fst) : .link link ∈ marks := by
  induction marks with
  | nil => cases h
  | cons mark marks ih =>
    cases mark with
    | char c top => exact List.mem_cons_of_mem _ (ih h)
    | link connector =>
      rcases List.mem_cons.1 h with rfl | h
      · exact List.mem_cons_self
      · exact List.mem_cons_of_mem _ (ih h)

theorem isShown_edgeLabel {statement : List Char} (hfeed : '\n' ∉ statement) {link : Connector}
    (h : link ∈ (Chain.read statement).rest.map Prod.fst) : IsShown link.edgeLabel.toList := by
  have hmark : .link link ∈ scan statement := by
    apply Segments.mem_of_mem_rest
    simpa [Chain.read] using h
  have htext : link.text ⊆ statement := by
    intro c hc
    rw [← flatMap_text_scan statement]
    exact List.mem_flatMap.2 ⟨.link link, hmark, hc⟩
  unfold Connector.edgeLabel
  split
  · next label hlabel =>
    rw [String.toList_ofList]
    apply IsShown.decode
    exact fun hmem => hfeed (htext ((spelled_of_mem_scanAfter hmark).label_subset hlabel hmem))
  · exact .nil

/-! ## Diagrams -/

/-- The node of a mention can be shown if its member was written on one line. -/
theorem isShown_ofMention {member : List Char} (hfeed : '\n' ∉ member) {mention : Mention}
    (h : Mention.read? member = some mention) :
    (Node.ofMention mention).label ≠ "" ∧ IsShown (Node.ofMention mention).label.toList := by
  have hnamed : NamedIn member mention.id := .inl ⟨mention, h, rfl⟩
  obtain ⟨hid, hword⟩ := hnamed.isWord
  rw [Node.ofMention, Mention.shownLabel]
  split
  · next label hlabel =>
    split
    · exact ⟨hid, .of_isWord hword⟩
    · next hne =>
      obtain ⟨shape, inner, -, rfl, hinner⟩ := Mention.exists_of_label h hlabel
      refine ⟨hne, ?_⟩
      rw [String.toList_ofList]
      apply IsShown.decode
      intro hmem
      exact hfeed (hinner.subset (by simp [hmem]))
  · exact ⟨hid, .of_isWord hword⟩

/-- Every node has a word as its identifier and a label to show. -/
theorem Graph.isShown_of_mem_entries {source : String} {entry : String × Node}
    (h : entry ∈ (Graph.extract source).nodes.entries) :
    (entry.2.id ≠ "" ∧ ∀ c ∈ entry.2.id.toList, Text.isWord c) ∧
      entry.2.label ≠ "" ∧ IsShown entry.2.label.toList := by
  have hname : entry.2.id ∈ (Graph.extract source).nodes.names := by
    rw [← Graph.fst_eq_id_of_mem_entries h]
    exact List.mem_map_of_mem h
  obtain ⟨_, _, member, _, hnamed⟩ := Graph.exists_of_mem_names hname
  refine ⟨hnamed.isWord, ?_⟩
  rw [Graph.entries_extract, List.mem_append, List.mem_map, List.mem_map] at h
  rcases h with ⟨mention, hmention, rfl⟩ | ⟨id, _, rfl⟩
  · obtain ⟨member, hmember, hread⟩ :=
      List.mem_filterMap.1 ((firsts_sublist Mention.id _).subset hmention)
    obtain ⟨statement, hstatement, hmember⟩ := List.mem_flatMap.1 hmember
    refine isShown_ofMention (fun hfeed => ?_) hread
    exact feed_notMem_of_mem_statementsOf hstatement (subset_of_mem_groups hmember hfeed)
  · exact ⟨hnamed.isWord.1, .of_isWord hnamed.isWord.2⟩

/-- The label of an edge can be shown, unless there is none. -/
theorem Graph.isShown_of_mem_edges {source : String} {edge : Edge}
    (h : edge ∈ (Graph.extract source).edges) : IsShown edge.label.toList := by
  obtain ⟨statement, hstatement, -, link, hlink, hlabel⟩ := Graph.exists_of_mem_edges h
  rw [hlabel]
  exact isShown_edgeLabel (feed_notMem_of_mem_statementsOf hstatement) hlink

variable {options : AssembleOptions} {source : String} {shapes : List DetectedShape}
  {viewport : Viewport} {diagram : Diagram}

/-- A diagram is assembled from the graph of its text. -/
theorem Diagram.eq_ofPlacement_of_assemble
    (h : Diagram.assemble options source shapes viewport = .ok diagram) :
    diagram = ofPlacement options (Graph.extract source)
      (Placement.ofShapes (Graph.extract source) shapes viewport) := by
  unfold assemble assembleNoticed at h
  split at h
  · cases h
  · simp only at h
    split at h
    · cases h
    · exact (Except.ok.inj h).symm

/-- Placing nodes changes neither which they are nor what they show. -/
theorem Diagram.map_node_of_assemble
    (h : Diagram.assemble options source shapes viewport = .ok diagram) :
    diagram.nodes.map PlacedNode.node = (Graph.extract source).nodes.entries.map Prod.snd := by
  rw [Diagram.eq_ofPlacement_of_assemble h]
  exact Placement.map_node_ofShapes _ shapes viewport

/-- What a diagram shows is well-formed: its identifiers are distinct words, its nodes have labels,
    and all labels fit on a line and are decoded. -/
theorem Diagram.isShown_of_assemble
    (h : Diagram.assemble options source shapes viewport = .ok diagram) :
    (diagram.nodes.map (·.node.id)).Nodup ∧
      (∀ placed ∈ diagram.nodes, placed.node.id ≠ "" ∧
        (∀ c ∈ placed.node.id.toList, Text.isWord c) ∧
        placed.node.label ≠ "" ∧ IsShown placed.node.label.toList) ∧
      ∀ edge ∈ diagram.edges, IsShown edge.label.toList := by
  have hnodes := Diagram.map_node_of_assemble h
  refine ⟨?_, ?_, ?_⟩
  · have hids : diagram.nodes.map (·.node.id) = (Graph.extract source).nodes.names := by
      calc diagram.nodes.map (·.node.id)
        _ = (diagram.nodes.map PlacedNode.node).map Node.id := by rw [List.map_map]; rfl
        _ = (Graph.extract source).nodes.entries.map fun entry => entry.2.id := by
          rw [hnodes, List.map_map]; rfl
        _ = (Graph.extract source).nodes.names :=
          List.map_congr_left fun entry hentry => (Graph.fst_eq_id_of_mem_entries hentry).symm
    rw [hids]
    exact (Graph.extract source).nodes.nodup_names
  · intro placed hplaced
    have hnode : placed.node ∈ (Graph.extract source).nodes.entries.map Prod.snd := by
      rw [← hnodes]
      exact List.mem_map_of_mem hplaced
    obtain ⟨entry, hentry, heq⟩ := List.mem_map.1 hnode
    obtain ⟨⟨hne, hword⟩, hlabel⟩ := Graph.isShown_of_mem_entries hentry
    rw [← heq]
    exact ⟨hne, hword, hlabel⟩
  · intro edge hedge
    rw [Diagram.eq_ofPlacement_of_assemble h] at hedge
    exact Graph.isShown_of_mem_edges hedge

theorem Diagram.isShown_of_assemble_quoted :
    ∃ diagram, Diagram.assemble {} "A[#quot; #amp;amp; ] -->|\"yes \"| B" [] ⟨100, 100⟩ = .ok diagram ∧
      (diagram.nodes.map (·.node.id)).Nodup ∧
      (∀ placed ∈ diagram.nodes, placed.node.id ≠ "" ∧
        (∀ c ∈ placed.node.id.toList, Text.isWord c) ∧
        placed.node.label ≠ "" ∧ IsShown placed.node.label.toList) ∧
      ∀ edge ∈ diagram.edges, IsShown edge.label.toList := by
  have hok : ∃ diagram,
      Diagram.assemble {} "A[#quot; #amp;amp; ] -->|\"yes \"| B" [] ⟨100, 100⟩ = .ok diagram :=
    ⟨_, rfl⟩
  obtain ⟨diagram, hdiagram⟩ := hok
  exact ⟨diagram, hdiagram, Diagram.isShown_of_assemble hdiagram⟩

end Flowchart
