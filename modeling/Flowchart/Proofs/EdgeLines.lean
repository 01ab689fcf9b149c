-- SUMMARY: The edge lines of a report are a diagram with the same edges.
import Flowchart.Report
import Flowchart.Proofs.Cell
import Flowchart.Proofs.Chains

/-!
# Edge lines

A report writes an edge as a chain of two identifiers, with the shortest connector of its stroke and
kind between single spaces. A label stands between pipes, where no scanner looks for anything but the
closing pipe. So the lines can be read as a diagram again, if they do not start with a keyword and
their labels are as decoding leaves them.
-/

namespace Flowchart

/-- The shortest connectors are spelled like all others. -/
theorem Report.spelled_connectorText (kind : EdgeKind) (stroke : Stroke) :
    Connector.Token.Spelled kind stroke (connectorText stroke kind) :=
  match kind, stroke with
  | .arrow, .solid => .solidArrow (Nat.le_refl 2)
  | .line, .solid => .solidLine (Nat.le_refl 3)
  | .arrow, .dotted => .dottedArrow (Nat.le_refl 1)
  | .line, .dotted => .dottedLine (Nat.le_refl 1)
  | .arrow, .thick => .thickArrow (Nat.le_refl 2)
  | .line, .thick => .thickLine (Nat.le_refl 3)

theorem Report.feed_notMem_connectorText (stroke : Stroke) (kind : EdgeKind) :
    '\n' ∉ connectorText stroke kind := by
  cases stroke <;> cases kind <;> decide

/-- An edge that can be written on a line of its own: its ends are words, the first one no keyword,
    and its label is one decoded line without pipes and break tags. -/
structure Edge.IsWritable (edge : Edge) : Prop where
  source_ne_empty : edge.source ≠ ""
  source_isWord : ∀ c ∈ edge.source.toList, Text.isWord c
  source_notKeyword : edge.source ∉ lineKeywords
  target_ne_empty : edge.target ≠ ""
  target_isWord : ∀ c ∈ edge.target.toList, Text.isWord c
  label_decode : Label.decode edge.label.toList = edge.label.toList
  label_oneLine : '\n' ∉ edge.label.toList
  label_noPipe : '|' ∉ edge.label.toList
  label_noBreak : ∀ tag ∈ Text.breakTags, ¬ tag <:+: edge.label.toList.map Char.toLower

namespace Edge.IsWritable

variable {edge : Edge} (h : edge.IsWritable)

def source : Identifier :=
  ⟨edge.source, h.source_ne_empty, h.source_isWord⟩

def target : Identifier :=
  ⟨edge.target, h.target_ne_empty, h.target_isWord⟩

/-- The connector of the edge with its label, if there is one. -/
def link : WrittenLink :=
  if edge.label.isEmpty then
    .bare edge.kind edge.stroke _ (Report.spelled_connectorText edge.kind edge.stroke)
  else
    .piped edge.kind edge.stroke _ (Report.spelled_connectorText edge.kind edge.stroke) .none
      edge.label.toList h.label_noPipe

/-- The edge as a chain. -/
def chain : WrittenChain :=
  .cons (.single ⟨h.source, none⟩) .space h.link .space (.single (.single ⟨h.target, none⟩))

theorem label_link : h.link.label = edge.label := by
  unfold link
  split
  · next hempty => exact (String.isEmpty_iff.1 hempty).symm
  · rw [WrittenLink.label, h.label_decode, String.ofList_toList]

theorem kind_link : h.link.kind = edge.kind := by
  unfold link
  split <;> rfl

theorem stroke_link : h.link.stroke = edge.stroke := by
  unfold link
  split <;> rfl

theorem edges_chain : h.chain.edges = [edge] := by
  simp [chain, WrittenChain.edges, WrittenChain.head, WrittenLink.edges, WrittenGroup.ids,
    WrittenGroup.members, h.label_link, h.kind_link, h.stroke_link, source, target]

/-- The chain is written as the line of the edge. -/
theorem chars_chain : h.chain.chars = Report.edgeLine edge := by
  have hflat : Text.flattenBreaks edge.label.toList = edge.label.toList :=
    Text.flattenBreaks_eq_self h.label_noBreak
  unfold chain link Report.edgeLine
  split
  · simp [WrittenChain.chars, WrittenGroup.chars, WrittenMember.chars, WrittenMember.suffix,
      WrittenLink.chars, Blanks.space, Identifier.chars, source, target]
  · simp [hflat, WrittenChain.chars, WrittenGroup.chars, WrittenMember.chars, WrittenMember.suffix,
      WrittenLink.chars, Blanks.space, Blanks.none, Identifier.chars, source, target]

theorem feed_notMem : '\n' ∉ h.chain.chars := by
  have htoken := Report.feed_notMem_connectorText edge.stroke edge.kind
  have hlink : '\n' ∉ h.link.chars := by
    unfold link
    split
    · exact htoken
    · simp [WrittenLink.chars, htoken, Blanks.feed_notMem, h.label_oneLine]
  simp [chain, WrittenChain.chars, WrittenGroup.chars, WrittenMember.chars, WrittenMember.suffix,
    Identifier.feed_notMem, Blanks.feed_notMem, hlink]

/-- The edge as a line. -/
def line : ChainLine where
  before := .none
  chain := h.chain
  after := .none
  oneLine := h.feed_notMem
  notKeyword := h.source_notKeyword

theorem chars_line : h.line.chars = Report.edgeLine edge := by
  rw [← h.chars_chain]
  exact List.append_nil _

include h

theorem edges_read_edgeLine : (SourceLine.read (Report.edgeLine edge)).edges = [edge] := by
  rw [← h.chars_line, h.line.edges_read_chars]
  exact h.edges_chain

/-- The line of an edge is a line whole. -/
theorem edgeLine_isLine :
    Report.edgeLine edge ≠ [] ∧ '\n' ∉ Report.edgeLine edge ∧
      (Report.edgeLine edge).getLast? ≠ some '\r' := by
  rw [← h.chars_chain]
  refine ⟨h.chain.chars_ne_nil, h.feed_notMem, fun hreturn => ?_⟩
  have hlast := Text.isWhite_getLast?_trimEnd (Text.trimStart h.chain.chars)
  rw [← Text.trim, h.chain.trim_chars] at hlast
  exact absurd (hlast _ hreturn) (by decide)

end Edge.IsWritable

/-- The edge lines of a report are read as the same edges, in the same order. -/
theorem Report.edges_extract_edgeLines {edges : List Edge} (h : ∀ edge ∈ edges, edge.IsWritable) :
    (Graph.extract (String.ofList (['\n'].intercalate (edges.map edgeLine)))).edges = edges := by
  have hlines : Text.lines (['\n'].intercalate (edges.map edgeLine)) = edges.map edgeLine := by
    cases edges with
    | nil => rfl
    | cons edge edges =>
      have hpieces : ∀ piece ∈ (edge :: edges).map edgeLine,
          piece ≠ [] ∧ '\n' ∉ piece ∧ piece.getLast? ≠ some '\r' :=
        List.forall_mem_map.2 fun edge hedge => (h edge hedge).edgeLine_isLine
      have hend : Text.EndsLine [] [] := .inl rfl
      have happend := Text.lines_intercalate_append hpieces (List.cons_ne_nil _ _) hend
      rwa [List.append_nil, Text.lines, List.tail_nil, List.append_nil] at happend
  have hedges : ∀ edge ∈ edges, (SourceLine.read (edgeLine edge)).edges = [edge] :=
    fun edge hedge => (h edge hedge).edges_read_edgeLine
  calc (Graph.extract (String.ofList (['\n'].intercalate (edges.map edgeLine)))).edges
    _ = edges.flatMap fun edge => (SourceLine.read (edgeLine edge)).edges := by
      rw [Graph.edges_extract, String.toList_ofList, sourceLines, hlines, List.flatMap_map,
        List.flatMap_map]
    _ = edges.flatMap fun edge => [edge] := List.flatMap_congr hedges
    _ = edges := List.flatMap_singleton' edges

/-- Separators, brackets and an open quote in a label, an identifier that starts with a keyword, and
    one that is a keyword behind the connector. -/
theorem Report.edges_extract_edgeLines_separators :
    let labelled : Edge := ⟨"a", "end", "say \"x; [y & (z --> <b", .arrow, .dotted⟩
    let bare : Edge := ⟨"graph_1", "style", "", .line, .thick⟩
    (∀ edge ∈ [labelled, bare], edge.IsWritable) ∧
      (Graph.extract (String.ofList (['\n'].intercalate ([labelled, bare].map edgeLine)))).edges =
        [labelled, bare] := by
  intro labelled bare
  have hlabelled : labelled.IsWritable :=
    { source_ne_empty := by decide
      source_isWord := List.all_eq_true.1 (by decide +kernel)
      source_notKeyword := by decide +kernel
      target_ne_empty := by decide
      target_isWord := List.all_eq_true.1 (by decide +kernel)
      label_decode := by decide +kernel
      label_oneLine := by decide +kernel
      label_noPipe := by decide +kernel
      label_noBreak := by decide +kernel }
  have hbare : bare.IsWritable :=
    { source_ne_empty := by decide
      source_isWord := List.all_eq_true.1 (by decide +kernel)
      source_notKeyword := by decide +kernel
      target_ne_empty := by decide
      target_isWord := List.all_eq_true.1 (by decide +kernel)
      label_decode := by decide +kernel
      label_oneLine := by decide +kernel
      label_noPipe := by decide +kernel
      label_noBreak := by decide +kernel }
  have hall : ∀ edge ∈ [labelled, bare], edge.IsWritable :=
    List.forall_mem_cons.2 ⟨hlabelled, List.forall_mem_singleton.2 hbare⟩
  exact ⟨hall, edges_extract_edgeLines hall⟩

end Flowchart
