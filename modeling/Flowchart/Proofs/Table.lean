-- SUMMARY: Columns of a table start at the same offset in all its lines.
import Mathlib.Algebra.Ring.Nat
import Mathlib.Data.List.Forall2
import Mathlib.Data.List.GetD
import Flowchart.Report
import Flowchart.Proofs.White
import Flowchart.Proofs.Width

/-!
# Aligned tables

Every cell is filled up to the width of its column, and two spaces are put between cells. So what
stands before a cell is as wide as the columns before it, and two more for each of them. If the last
cell does not end with white space, trimming a line takes off only what that cell was filled up with.
-/

namespace Flowchart

/-! ## Cells in a line -/

/-- A cell stands whole at an offset of a line, with nothing but spaces next to it. -/
def Text.StandsAt (line : List Char) (offset : Nat) (cell : List Char) : Prop :=
  ∃ before after, line = before ++ cell ++ after ∧ displayWidth before = offset ∧
    (∀ c ∈ before.getLast?, c = ' ') ∧ ∀ c ∈ after.head?, c = ' '

namespace Text

theorem StandsAt.start {cell after : List Char} (h : ∀ c ∈ after.head?, c = ' ') :
    StandsAt (cell ++ after) 0 cell :=
  ⟨[], after, rfl, rfl, nofun, h⟩

/-- Everything moves when more is put in front. -/
theorem StandsAt.behind {line cell : List Char} {offset : Nat} (h : StandsAt line offset cell)
    (front : List Char) :
    StandsAt (front ++ [' ', ' '] ++ line) (displayWidth front + 2 + offset) cell := by
  obtain ⟨before, after, rfl, rfl, hbefore, hafter⟩ := h
  refine ⟨front ++ ' ' :: ' ' :: before, after, by simp, ?_, ?_, hafter⟩
  · rw [displayWidth_append_space, displayWidth_space]
    omega
  · intro c hc
    cases before with
    | nil => simpa using hc.symm
    | cons d before => exact hbefore c (by simpa [List.getLast?_cons_cons] using hc)

/-- A cell that fits is filled up to the width exactly. -/
theorem displayWidth_padToWidth {s : List Char} {width : Nat} (h : displayWidth s ≤ width) :
    displayWidth (padToWidth s width) = width := by
  rw [padToWidth, displayWidth_append_spaces, Nat.add_sub_cancel' h]

/-- Where cells stand that are filled up to the widths of their columns. -/
theorem standsAt_intercalate {cells : List (List Char)} {widths : List Nat} (last : List Char)
    (hfit : List.Forall₂ (displayWidth · ≤ ·) cells widths) {column : Nat} {cell : List Char}
    (h : (cells ++ [last])[column]? = some cell) :
    StandsAt ([' ', ' '].intercalate (List.zipWith padToWidth cells widths ++ [last]))
      ((widths.take column).map (· + 2)).sum cell := by
  induction hfit generalizing column with
  | nil =>
    cases column with
    | zero =>
      obtain rfl := Option.some.inj h
      have hlast : StandsAt (last ++ []) 0 last := .start nofun
      simpa using hlast
    | succ column => cases h
  | @cons first width cells widths hfirst _ ih =>
    rw [List.zipWith_cons_cons, List.cons_append, List.intercalate_cons_of_ne_nil (by simp)]
    cases column with
    | zero =>
      obtain rfl := Option.some.inj h
      rw [padToWidth, List.append_assoc, List.append_assoc]
      apply StandsAt.start
      cases width - displayWidth first <;> simp [List.replicate_succ]
    | succ column =>
      have hrest := (ih h).behind (padToWidth first width)
      rw [displayWidth_padToWidth hfirst] at hrest
      rwa [List.take_succ_cons, List.map_cons, List.sum_cons]

end Text

/-! ## Columns -/

namespace Report

/-- The width of the widest cell of a column. -/
def columnWidth (rows : List Row) (column : Nat) : Nat :=
  (rows.map fun row => Text.displayWidth (row.getD column [])).foldr max 0

/-- The columns of all earlier cells, and two spaces behind each of them. -/
def columnOffset (rows : List Row) (column : Nat) : Nat :=
  ((List.range column).map fun earlier => columnWidth rows earlier + 2).sum

theorem displayWidth_le_columnWidth {rows : List Row} {row : Row} (h : row ∈ rows) (column : Nat) :
    Text.displayWidth (row.getD column []) ≤ columnWidth rows column := by
  unfold columnWidth
  induction rows with
  | nil => cases h
  | cons first rows ih =>
    rcases List.mem_cons.1 h with rfl | h
    · exact Nat.le_max_left _ _
    · exact (ih h).trans (Nat.le_max_right _ _)

theorem getD_widen {widths : List Nat} {row : Row} (h : row.length = widths.length) (column : Nat) :
    (widen widths row).getD column 0 =
      max (widths.getD column 0) (Text.displayWidth (row.getD column [])) := by
  rw [widen, List.getD_eq_getElem?_getD, List.getD_eq_getElem?_getD, List.getD_eq_getElem?_getD,
    List.getElem?_zipWith]
  by_cases hcolumn : column < widths.length
  · rw [List.getElem?_eq_getElem hcolumn, List.getElem?_eq_getElem (h ▸ hcolumn)]
    rfl
  · rw [List.getElem?_eq_none (Nat.not_lt.1 hcolumn),
      List.getElem?_eq_none (h ▸ Nat.not_lt.1 hcolumn)]
    rfl

/-- Widening row by row gives each column its greatest width. -/
theorem foldl_widen {rows : List Row} {widths : List Nat}
    (h : ∀ row ∈ rows, row.length = widths.length) :
    rows.foldl widen widths =
      (List.range widths.length).map fun column => max (widths.getD column 0) (columnWidth rows column) := by
  induction rows generalizing widths with
  | nil =>
    rw [List.foldl_nil]
    apply List.ext_getElem
    · simp
    · intro column hcolumn _
      simp [columnWidth, hcolumn]
  | cons row rows ih =>
    obtain ⟨hrow, hrows⟩ := List.forall_mem_cons.1 h
    have hlength : (widen widths row).length = widths.length := by simp [widen, hrow]
    rw [List.foldl_cons, ih (by simpa [hlength] using hrows), hlength]
    apply List.map_congr_left
    intro column _
    rw [getD_widen hrow, max_assoc]
    rfl

theorem columnWidths_eq {rows : List Row} (h : ∀ row ∈ rows, row.length = headers.length) :
    columnWidths rows = (List.range headers.length).map (columnWidth (headers :: rows)) := by
  rw [columnWidths, foldl_widen (by simpa using h), List.length_map]
  apply List.map_congr_left
  intro column _
  have hheader : (headers.map Text.displayWidth).getD column 0 =
      Text.displayWidth (headers.getD column []) := by
    rw [← List.getD_map headers [] Text.displayWidth]
    rfl
  rw [hheader]
  rfl

/-! ## Lines of the table -/

/-- The last of several texts with separators between them stands at the end. -/
theorem exists_intercalate_concat (separator : List Char) (texts : List (List Char)) :
    ∃ front, ∀ last, separator.intercalate (texts ++ [last]) = front ++ last := by
  induction texts with
  | nil => exact ⟨[], fun _ => List.intercalate_singleton⟩
  | cons text texts ih =>
    obtain ⟨front, hfront⟩ := ih
    refine ⟨text ++ separator ++ front, fun last => ?_⟩
    rw [List.cons_append, List.intercalate_cons_of_ne_nil (by simp), hfront]
    simp only [List.append_assoc]

/-- Trimming takes off what the last cell was filled up with. -/
theorem rowLine_concat {cells : Row} {widths : List Nat} {last : List Char} (width : Nat)
    (hlength : cells.length = widths.length) (hne : last ≠ [])
    (hlast : ∀ c ∈ last.getLast?, Text.isWhite c = false) :
    rowLine (widths ++ [width]) (cells ++ [last]) =
      [' ', ' '].intercalate (List.zipWith Text.padToWidth cells widths ++ [last]) := by
  obtain ⟨front, hfront⟩ :=
    exists_intercalate_concat [' ', ' '] (List.zipWith Text.padToWidth cells widths)
  have hspaces : ∀ c ∈ List.replicate (width - Text.displayWidth last) ' ', Text.isWhite c := by
    intro c hc
    rw [List.eq_of_mem_replicate hc]
    rfl
  have htrim : Text.trimEnd (front ++ last) = front ++ last := by
    apply Text.trimEnd_eq_self
    rwa [List.getLast?_append_of_ne_nil _ hne]
  calc rowLine (widths ++ [width]) (cells ++ [last])
    _ = Text.trimEnd (front ++ Text.padToWidth last width) := by
      rw [rowLine, List.zipWith_append hlength, List.zipWith_cons_cons, List.zipWith_nil_left,
        hfront]
    _ = Text.trimEnd (front ++ last) := by
      rw [Text.padToWidth, ← List.append_assoc, Text.trimEnd_append_white _ hspaces]
    _ = [' ', ' '].intercalate (List.zipWith Text.padToWidth cells widths ++ [last]) := by
      rw [htrim, hfront]

/-- Every cell of a row stands at the offset of its column. -/
theorem standsAt_rowLine {rows : List Row} (hrows : ∀ row ∈ rows, row.length = headers.length)
    {cells : Row} {last : List Char} (hrow : cells ++ [last] ∈ headers :: rows) (hne : last ≠ [])
    (hlast : ∀ c ∈ last.getLast?, Text.isWhite c = false) {column : Nat} {cell : List Char}
    (hcell : (cells ++ [last])[column]? = some cell) :
    Text.StandsAt (rowLine (columnWidths rows) (cells ++ [last]))
      (columnOffset (headers :: rows) column) cell := by
  have hall : ∀ row ∈ headers :: rows, row.length = headers.length :=
    List.forall_mem_cons.2 ⟨rfl, hrows⟩
  have hlength : (cells ++ [last]).length = headers.length := hall _ hrow
  have hcount : headers.length = cells.length + 1 := by
    rw [← hlength, List.length_append, List.length_singleton]
  let widths := (List.range cells.length).map (columnWidth (headers :: rows))
  have hwidths :
      columnWidths rows = widths ++ [columnWidth (headers :: rows) cells.length] := by
    rw [columnWidths_eq hrows, hcount, List.range_succ, List.map_append, List.map_singleton]
  have hfit : List.Forall₂ (Text.displayWidth · ≤ ·) cells widths := by
    refine List.forall₂_iff_get.2 ⟨by simp [widths], fun earlier hcell _ => ?_⟩
    have hle := displayWidth_le_columnWidth hrow earlier
    simpa [widths, List.getElem?_append_left hcell, hcell] using hle
  have hcolumn : column ≤ cells.length := by
    have hlt := (List.getElem?_eq_some_iff.1 hcell).1
    rw [List.length_append, List.length_singleton] at hlt
    exact Nat.le_of_lt_succ hlt
  have hoffset :
      columnOffset (headers :: rows) column = ((widths.take column).map (· + 2)).sum := by
    rw [columnOffset, ← List.map_take, List.take_range, Nat.min_eq_left hcolumn, List.map_map]
    rfl
  rw [hwidths, rowLine_concat _ (by simp [widths]) hne hlast, hoffset]
  exact Text.standsAt_intercalate last hfit hcell

end Report

end Flowchart
