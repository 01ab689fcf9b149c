-- SUMMARY: A report has a line for each item, and its table is aligned.
import Flowchart.Proofs.EdgeLines
import Flowchart.Proofs.Shown
import Flowchart.Proofs.Table

/-!
# The lines of a report

Identifiers, labels and everything else that a diagram shows fit on a line, and so does what a report
makes of them. So the line feeds of a report are those that end its lines, and the table is aligned
as it was put together.
-/

namespace Flowchart

/-! ## Texts of several lines -/

namespace Text

/-- Texts without line feeds are told apart by the line feeds behind them. -/
theorem splitOn_flatMap_feed {lines : List (List Char)} (h : ∀ line ∈ lines, '\n' ∉ line) :
    (lines.flatMap (· ++ ['\n'])).splitOn '\n' = lines ++ [[]] := by
  induction lines with
  | nil => rfl
  | cons line lines ih =>
    obtain ⟨hline, hlines⟩ := List.forall_mem_cons.1 h
    rw [List.flatMap_cons, List.append_assoc, List.singleton_append,
      List.splitOn_append_cons_self_of_not_mem hline, ih hlines, List.cons_append]

theorem count_flatMap_feed {lines : List (List Char)} (h : ∀ line ∈ lines, '\n' ∉ line) :
    (lines.flatMap (· ++ ['\n'])).count '\n' = lines.length := by
  induction lines with
  | nil => rfl
  | cons line lines ih =>
    obtain ⟨hline, hlines⟩ := List.forall_mem_cons.1 h
    rw [List.flatMap_cons, List.count_append, List.count_append, List.count_eq_zero.2 hline,
      ih hlines, List.length_cons, List.count_singleton_self]
    omega

theorem notMem_intercalate {c : Char} {separator : List Char} {texts : List (List Char)}
    (hseparator : c ∉ separator) (h : ∀ text ∈ texts, c ∉ text) :
    c ∉ separator.intercalate texts := by
  induction texts with
  | nil => exact List.not_mem_nil
  | cons text texts ih =>
    obtain ⟨htext, htexts⟩ := List.forall_mem_cons.1 h
    cases texts with
    | nil => rwa [List.intercalate_singleton]
    | cons next texts =>
      rw [List.intercalate_cons_cons, List.mem_append, List.mem_append]
      exact fun hmem => hmem.elim (fun hfront => hfront.elim htext hseparator) (ih htexts)

end Text

namespace Report

/-! ## What the cells hold -/

theorem feed_notMem_toDigits (n : Nat) : '\n' ∉ Nat.toDigits 10 n := fun h =>
  absurd (Nat.isDigit_of_mem_toDigits (by decide) (by decide) h) (by decide)

theorem feed_notMem_withPoint (places digits : Nat) : '\n' ∉ withPoint places digits := by
  have hpadded : ∀ zeros, '\n' ∉ List.replicate zeros '0' ++ Nat.toDigits 10 digits := by
    intro zeros h
    rcases List.mem_append.1 h with h | h
    · exact absurd (List.eq_of_mem_replicate h) (by decide)
    · exact feed_notMem_toDigits digits h
  intro h
  simp only [withPoint, List.splitAt_eq, List.mem_append, List.mem_cons] at h
  rcases h with h | h | h
  · exact hpadded _ (List.mem_of_mem_take h)
  · exact absurd h (by decide)
  · exact hpadded _ (List.mem_of_mem_drop h)

theorem feed_notMem_fixedText (places : Nat) (x : Float) : '\n' ∉ fixedText places x := by
  have hsign : ∀ negative, '\n' ∉ signText negative := by decide
  unfold fixedText
  split
  · decide
  · simp [hsign]
  · simp [hsign, feed_notMem_withPoint]

theorem feed_notMem_positionCell (position : Option Point) : '\n' ∉ positionCell position := by
  cases position with
  | none => decide
  | some point => simp [positionCell, feed_notMem_fixedText]

theorem isWhite_digitChar (n : Nat) : Text.isWhite (Nat.digitChar n) = false := by
  have hdigits : ∀ n < 16, Text.isWhite (Nat.digitChar n) = false := by decide
  rcases Nat.lt_or_ge n 16 with h | h
  · exact hdigits n h
  · rw [Nat.digitChar_eq_star.2 h]
    rfl

theorem isWhite_of_mem_toHex {color : Color} {c : Char} (h : c ∈ color.toHex.toList) :
    Text.isWhite c = false := by
  have hbyte : ∀ byte, ∀ c ∈ Color.hexByte byte, Text.isWhite c = false := by
    simp [Color.hexByte, isWhite_digitChar]
  rw [Color.toHex, String.toList_ofList] at h
  rcases List.mem_append.1 h with h | h
  · rcases List.mem_append.1 h with h | h
    · rcases List.mem_cons.1 h with rfl | h
      · rfl
      · exact hbyte _ c h
    · exact hbyte _ c h
  · exact hbyte _ c h

/-- A fill cell is a text without white space, but for the space before a star. -/
theorem feed_notMem_fillCell (placed : PlacedNode) : '\n' ∉ fillCell placed := by
  intro h
  rcases List.mem_append.1 h with h | h
  · exact absurd (isWhite_of_mem_toHex h) (by decide)
  · split at h
    · cases h
    · exact absurd h (by decide)

theorem fillCell_ne_nil (placed : PlacedNode) : fillCell placed ≠ [] := by
  simp [fillCell, Color.toHex]

theorem isWhite_getLast?_fillCell (placed : PlacedNode) :
    ∀ c ∈ (fillCell placed).getLast?, Text.isWhite c = false := by
  intro c hc
  unfold fillCell at hc
  split at hc
  · rw [List.append_nil] at hc
    exact isWhite_of_mem_toHex (List.mem_of_mem_getLast? hc)
  · rw [List.getLast?_append_of_ne_nil _ (by simp)] at hc
    obtain rfl := Option.some.inj hc
    rfl

theorem feed_notMem_labelCell {label : String} (h : '\n' ∉ label.toList) :
    '\n' ∉ labelCell label := by
  intro hcut
  rcases Text.mem_of_mem_truncateToWidth hcut with hflat | hmark
  · rcases Text.mem_of_mem_flattenAfter hflat with hlabel | hspace
    · exact h hlabel
    · exact absurd hspace (by decide)
  · exact absurd hmark (by decide)

theorem feed_notMem_rowLine {row : Row} (h : ∀ cell ∈ row, '\n' ∉ cell) (widths : List Nat) :
    '\n' ∉ rowLine widths row := by
  have hcells : ∀ text ∈ List.zipWith Text.padToWidth row widths, '\n' ∉ text := by
    intro text htext
    rw [← List.map_uncurry_zip_eq_zipWith, List.mem_map] at htext
    obtain ⟨⟨cell, width⟩, hmem, rfl⟩ := htext
    have hcell := h cell (List.of_mem_zip hmem).1
    simp [Text.padToWidth, hcell]
  have hgap : '\n' ∉ [' ', ' '] := by decide
  have hfull := Text.notMem_intercalate hgap hcells
  obtain ⟨after, heq, -⟩ := Text.exists_eq_trimEnd_append
    ([' ', ' '].intercalate (List.zipWith Text.padToWidth row widths))
  rw [heq] at hfull
  exact fun hfeed => hfull (List.mem_append_left after hfeed)

/-! ## The other lines -/

theorem feed_notMem_layoutLine (diagram : Diagram) : '\n' ∉ layoutLine diagram := by
  have hstart : '\n' ∉ "layout: ".toList := by decide
  have hname : '\n' ∉ diagram.layout.name.toList := by
    cases diagram.layout <;> decide
  have hopen : '\n' ∉ " (".toList := by decide
  have hslash : ∀ n, '\n' ∉ '/' :: Nat.toDigits 10 n := fun n =>
    List.not_mem_cons_of_ne_of_not_mem (by decide) (feed_notMem_toDigits n)
  have hratio : '\n' ∉ " nodes matched, ratio ".toList := by decide
  unfold layoutLine
  simp only [List.mem_append, not_or]
  exact ⟨⟨⟨⟨⟨⟨⟨hstart, hname⟩, hopen⟩, feed_notMem_toDigits _⟩, hslash _⟩, hratio⟩,
    feed_notMem_fixedText 2 _⟩, by decide⟩

theorem feed_notMem_edgeLine {edge : Edge} (hsource : '\n' ∉ edge.source.toList)
    (hlabel : '\n' ∉ edge.label.toList) (htarget : '\n' ∉ edge.target.toList) :
    '\n' ∉ edgeLine edge := by
  have hflat : '\n' ∉ Text.flattenBreaks edge.label.toList := fun h =>
    (Text.mem_of_mem_flattenAfter h).elim hlabel (by decide)
  unfold edgeLine
  split
  · simp [hsource, htarget, feed_notMem_connectorText]
  · simp [hsource, htarget, hflat, feed_notMem_connectorText]

end Report

/-! ## Reports of assembled diagrams -/

variable {options : AssembleOptions} {source : String} {shapes : List DetectedShape}
  {viewport : Viewport} {diagram : Diagram}

/-- The nodes of an assembled diagram hold no line feeds, and so do its edges. -/
theorem Diagram.feed_notMem_of_mem_nodes
    (h : Diagram.assemble options source shapes viewport = .ok diagram) {placed : PlacedNode}
    (hplaced : placed ∈ diagram.nodes) :
    '\n' ∉ placed.node.id.toList ∧ '\n' ∉ placed.node.label.toList := by
  have hnode : placed.node ∈ (Graph.extract source).nodes.entries.map Prod.snd := by
    rw [← Diagram.map_node_of_assemble h]
    exact List.mem_map_of_mem hplaced
  obtain ⟨entry, hentry, heq⟩ := List.mem_map.1 hnode
  obtain ⟨⟨-, hword⟩, -, hlabel⟩ := Graph.isShown_of_mem_entries hentry
  rw [← heq]
  exact ⟨(IsShown.of_isWord hword).feed, hlabel.feed⟩

theorem Diagram.feed_notMem_of_mem_edges
    (h : Diagram.assemble options source shapes viewport = .ok diagram) {edge : Edge}
    (hedge : edge ∈ diagram.edges) : '\n' ∉ Report.edgeLine edge := by
  rw [Diagram.eq_ofPlacement_of_assemble h] at hedge
  have hends : ∀ id ∈ edge.ends, '\n' ∉ id.toList := by
    intro id hid
    obtain ⟨_, _, _, _, hnamed⟩ := Graph.exists_of_mem_names (Graph.mem_names_of_mem_ends hedge hid)
    exact (IsShown.of_isWord hnamed.isWord.2).feed
  apply Report.feed_notMem_edgeLine
  · exact hends _ (by simp [Edge.ends])
  · exact (Graph.isShown_of_mem_edges hedge).feed
  · exact hends _ (by simp [Edge.ends])

/-- No line of the report of an assembled diagram is broken. -/
theorem Diagram.feed_notMem_of_mem_lines
    (h : Diagram.assemble options source shapes viewport = .ok diagram) :
    ∀ line ∈ Report.lines diagram, '\n' ∉ line := by
  have hrows : ∀ row ∈ Report.headers :: diagram.nodes.map Report.row, ∀ cell ∈ row, '\n' ∉ cell := by
    refine List.forall_mem_cons.2 ⟨by decide, List.forall_mem_map.2 fun placed hplaced => ?_⟩
    obtain ⟨hid, hlabel⟩ := Diagram.feed_notMem_of_mem_nodes h hplaced
    have hcategory : '\n' ∉ placed.node.category.name.toList := by
      cases placed.node.category <;> decide
    simp [Report.row, hid, Report.feed_notMem_labelCell hlabel, hcategory,
      Report.feed_notMem_positionCell, Report.feed_notMem_fillCell]
  intro line hline
  rcases List.mem_append.1 hline with hline | hline
  · rcases List.mem_append.1 hline with hline | hline
    · rcases List.mem_pair.1 hline with rfl | rfl
      · exact Report.feed_notMem_layoutLine diagram
      · exact List.not_mem_nil
    · obtain ⟨row, hrow, rfl⟩ := List.mem_map.1 hline
      exact Report.feed_notMem_rowLine (hrows row hrow) _
  · split at hline
    · cases hline
    · rcases List.mem_cons.1 hline with rfl | hline
      · exact List.not_mem_nil
      · obtain ⟨edge, hedge, rfl⟩ := List.mem_map.1 hline
        exact Diagram.feed_notMem_of_mem_edges h hedge

theorem Report.length_lines (diagram : Diagram) :
    (lines diagram).length = 3 + diagram.nodes.length +
      if diagram.edges = [] then 0 else 1 + diagram.edges.length := by
  unfold lines
  by_cases hedges : diagram.edges = []
  · simp [hedges]
    omega
  · simp [hedges]
    omega

/-- The lines of the table follow the line about the layout and an empty one. -/
theorem Report.getElem?_lines {number : Nat} {row : Row}
    (h : (headers :: diagram.nodes.map Report.row)[number]? = some row) :
    (lines diagram)[2 + number]? =
      some (rowLine (columnWidths (diagram.nodes.map Report.row)) row) := by
  have htable : ((headers :: diagram.nodes.map Report.row).map
      (rowLine (columnWidths (diagram.nodes.map Report.row))))[number]? =
        some (rowLine (columnWidths (diagram.nodes.map Report.row)) row) := by
    rw [List.getElem?_map, h, Option.map_some]
  have hstart : 2 + number - [layoutLine diagram, []].length = number :=
    Nat.add_sub_cancel_left 2 number
  rw [lines, List.append_assoc, List.getElem?_append_right (Nat.le_add_right 2 number), hstart,
    List.getElem?_append_left (List.getElem?_eq_some_iff.1 htable).1, htable]

/-- The last cell of a row is not empty and ends with anything but white space. -/
theorem Report.exists_concat {row : Row} (h : row ∈ headers :: diagram.nodes.map Report.row) :
    ∃ cells last, row = cells ++ [last] ∧ last ≠ [] ∧
      ∀ c ∈ last.getLast?, Text.isWhite c = false := by
  rcases List.mem_cons.1 h with rfl | h
  · refine ⟨headers.dropLast, "FILL".toList, rfl, by decide, fun c hc => ?_⟩
    obtain rfl := Option.some.inj hc
    rfl
  · obtain ⟨placed, -, rfl⟩ := List.mem_map.1 h
    exact ⟨(row placed).dropLast, fillCell placed, rfl, fillCell_ne_nil placed,
      isWhite_getLast?_fillCell placed⟩

/-- The report of an assembled diagram has a line for each item, and its table is aligned: in the line
    of the headers and in the lines of the nodes, each cell stands whole at the offset of its column.
    The cells of a node are its identifier, its label as far as it fits, the name of its category, its
    position and its fill. -/
theorem Diagram.standsAt_report
    (h : Diagram.assemble options source shapes viewport = .ok diagram) :
    let headers : Report.Row :=
      ["ID".toList, "LABEL".toList, "SHAPE".toList, "POSITION".toList, "FILL".toList]
    let cells (placed : PlacedNode) : Report.Row :=
      [placed.node.id.toList, Report.labelCell placed.node.label, placed.node.category.name.toList,
        Report.positionCell placed.position, Report.fillCell placed]
    let rows := headers :: diagram.nodes.map cells
    diagram.report.toList.count '\n' =
        3 + diagram.nodes.length + (if diagram.edges = [] then 0 else 1 + diagram.edges.length) ∧
      ∀ number row, rows[number]? = some row →
        row.length = 5 ∧ ∃ line, (diagram.report.toList.splitOn '\n')[2 + number]? = some line ∧
          ∀ column cell, row[column]? = some cell →
            Text.StandsAt line (Report.columnOffset rows column) cell := by
  intro headers cells rows
  have hfeed := Diagram.feed_notMem_of_mem_lines h
  -- By definition, these rows are the ones that the report is made of.
  have hlengths : ∀ row ∈ diagram.nodes.map Report.row, row.length = Report.headers.length :=
    List.forall_mem_map.2 fun _ _ => rfl
  have hall : ∀ row ∈ rows, row.length = Report.headers.length :=
    List.forall_mem_cons.2 ⟨rfl, hlengths⟩
  rw [Diagram.report, String.toList_ofList, Text.count_flatMap_feed hfeed,
    Text.splitOn_flatMap_feed hfeed, Report.length_lines]
  refine ⟨rfl, fun number row hnumber => ?_⟩
  have hrow : row ∈ rows := List.mem_of_getElem? hnumber
  have hline := Report.getElem?_lines hnumber
  have hlt := (List.getElem?_eq_some_iff.1 hline).1
  refine ⟨hall row hrow, _, (List.getElem?_append_left hlt).trans hline, ?_⟩
  intro column cell hcell
  obtain ⟨cells, last, rfl, hne, hlast⟩ := Report.exists_concat hrow
  exact Report.standsAt_rowLine hlengths hrow hne hlast hcell

/-- Wide characters, a break tag at the end of a label, and an emoji of several characters. -/
theorem Diagram.standsAt_report_wide :
    ∃ diagram,
      Diagram.assemble {} "A[開始<br>] -->|はい| B((👩‍🚀 go))" [] ⟨100, 100⟩ = .ok diagram ∧
        let headers : Report.Row :=
          ["ID".toList, "LABEL".toList, "SHAPE".toList, "POSITION".toList, "FILL".toList]
        let cells (placed : PlacedNode) : Report.Row :=
          [placed.node.id.toList, Report.labelCell placed.node.label,
            placed.node.category.name.toList, Report.positionCell placed.position,
            Report.fillCell placed]
        let rows := headers :: diagram.nodes.map cells
        diagram.report.toList.count '\n' =
            3 + diagram.nodes.length +
              (if diagram.edges = [] then 0 else 1 + diagram.edges.length) ∧
          ∀ number row, rows[number]? = some row →
            row.length = 5 ∧ ∃ line, (diagram.report.toList.splitOn '\n')[2 + number]? = some line ∧
              ∀ column cell, row[column]? = some cell →
                Text.StandsAt line (Report.columnOffset rows column) cell := by
  have hok : ∃ diagram,
      Diagram.assemble {} "A[開始<br>] -->|はい| B((👩‍🚀 go))" [] ⟨100, 100⟩ = .ok diagram :=
    ⟨_, rfl⟩
  obtain ⟨diagram, hdiagram⟩ := hok
  exact ⟨diagram, hdiagram, Diagram.standsAt_report hdiagram⟩

end Flowchart
