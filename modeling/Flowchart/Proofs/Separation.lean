-- SUMMARY: Statements separated by semicolons mean what they mean on lines of their own.
import Flowchart.Extract
import Flowchart.Proofs.Lines
import Flowchart.Proofs.Statement

/-!
# Separating statements

A line is scanned whole when it is split into statements, and every statement is scanned again for
its connectors. Both scans agree: the pieces of the scan of a line are the scans of the statements,
but for white space. So a statement is not split again, and the statements of a line can be written
on lines of their own.
-/

namespace Flowchart

/-! ## Pieces of a scan -/

/-- A character is marked with whether the marks before it leave nothing open. -/
theorem isTop_of_scanAfter {nesting : Nesting} {s : List Char} {front back : List Mark} {c : Char}
    {top : Bool} (h : scanAfter nesting 0 s = front ++ .char c top :: back) :
    top = (front.foldl Nesting.after nesting).isTop := by
  obtain ⟨t, -, ht⟩ := scanAfter_of_append h
  cases t with
  | nil => cases ht
  | cons d t =>
    rw [scanAfter] at ht
    split at ht
    · cases (List.cons.inj ht).1
    · exact (Mark.char.inj (List.cons.inj ht).1).2.symm

/-- Before a separator nothing is open, and so a scan goes on behind it as one of its own. -/
theorem scan_of_separator {s : List Char} {front back : List Mark} {mark : Mark}
    (h : scan s = front ++ mark :: back) (hmark : mark.isSeparator) :
    scan (front.flatMap Mark.text) = front ∧ ∃ t, scan t = back := by
  refine ⟨scanAfter_flatMap_text h, ?_⟩
  obtain rfl : mark = .char ';' true := by simpa [Mark.isSeparator] using hmark
  have htop := Nesting.eq_outside (isTop_of_scanAfter h).symm
  have hwhole : scan s = (front ++ [Mark.char ';' true]) ++ back := by simpa using h
  obtain ⟨t, -, ht⟩ := scanAfter_of_append hwhole
  have hafter : (front ++ [Mark.char ';' true]).foldl Nesting.after .outside = .outside := by
    rw [List.foldl_append, htop]
    rfl
  rw [hafter] at ht
  exact ⟨t, ht⟩

/-- Every piece between separators is a scan of its own. -/
theorem scan_of_mem_splitOnP {s : List Char} :
    ∀ piece ∈ (scan s).splitOnP Mark.isSeparator, scan (piece.flatMap Mark.text) = piece := by
  induction hn : (scan s).length using Nat.strongRecOn generalizing s with
  | ind n ih =>
    intro piece hpiece
    rcases splitOnP_cases Mark.isSeparator (scan s) with h | ⟨front, mark, back, heq, hfront, hmark⟩
    · rw [List.splitOnP_eq_singleton h, List.mem_singleton] at hpiece
      rw [hpiece, flatMap_text_scan]
    · obtain ⟨hscan, t, rfl⟩ := scan_of_separator heq hmark
      rw [heq, List.splitOnP_append_cons_of_forall_mem hfront _ hmark, List.mem_cons] at hpiece
      rcases hpiece with rfl | hpiece
      · exact hscan
      · exact ih _ (by rw [← hn, heq]; simp; omega) rfl piece hpiece

/-! ## Statements -/

/-- What the connectors say that a statement holds at the top level. -/
def linksOf (s : List Char) : List (EdgeKind × Stroke × Option (List Char)) :=
  (scan s).filterMap Mark.sense?

theorem linksOf_trim (s : List Char) : linksOf (Text.trim s) = linksOf s := by
  obtain ⟨u, v, top, -, hcore⟩ := exists_core_scan_trim s
  have hlinks (marks : List Mark) :
      (marks.map Mark.core).filterMap Mark.sense? = marks.filterMap Mark.sense? := by
    simp [List.filterMap_map]
  rw [linksOf, linksOf, ← hlinks (scan s), hcore, List.filterMap_append, List.filterMap_append, hlinks]
  simp [List.filterMap_map, Function.comp_def, Mark.sense?]

/-- Trimming uncovers no separator. -/
theorem isSeparator_scan_trim {s : List Char} (h : ∀ mark ∈ scan s, mark.isSeparator = false) :
    ∀ mark ∈ scan (Text.trim s), mark.isSeparator = false := by
  obtain ⟨u, v, top, -, hcore⟩ := exists_core_scan_trim s
  intro mark hmark
  have hmem : mark.core ∈ (scan s).map Mark.core := by
    rw [hcore]
    simp [List.mem_map_of_mem hmark]
  obtain ⟨other, hother, heq⟩ := List.mem_map.1 hmem
  rw [← Mark.isSeparator_core, ← heq, Mark.isSeparator_core]
  exact h other hother

/-- The pieces of a line are trimmed texts without separators. -/
theorem exists_of_mem_splitStatements {body piece : List Char} (h : piece ∈ splitStatements body) :
    piece ≠ [] ∧ ∃ marks ∈ (scan body).splitOnP Mark.isSeparator,
      piece = Text.trim (marks.flatMap Mark.text) := by
  simp only [splitStatements, trimmedPieces, List.map_map, List.mem_filter, List.mem_map,
    Function.comp_apply, Bool.not_eq_eq_eq_not, Bool.not_true, List.isEmpty_eq_false_iff] at h
  obtain ⟨⟨marks, hmarks, rfl⟩, hne⟩ := h
  exact ⟨hne, marks, hmarks, rfl⟩

/-- The characters of a statement are characters of its line. -/
theorem subset_of_mem_splitStatements {body piece : List Char} (h : piece ∈ splitStatements body) :
    piece ⊆ body := by
  obtain ⟨-, marks, hmarks, rfl⟩ := exists_of_mem_splitStatements h
  obtain ⟨hinside, -⟩ := infix_of_mem_splitOnP marks hmarks
  intro c hc
  obtain ⟨mark, hmark, hc⟩ := List.mem_flatMap.1 ((Text.trim_sublist _).subset hc)
  rw [← flatMap_text_scan body]
  exact List.mem_flatMap.2 ⟨mark, hinside.subset hmark, hc⟩

/-- A statement is trimmed. -/
theorem trim_of_mem_splitStatements {body piece : List Char} (h : piece ∈ splitStatements body) :
    Text.trim piece = piece := by
  obtain ⟨-, marks, -, rfl⟩ := exists_of_mem_splitStatements h
  exact Text.trim_trim _

/-- A statement is not split again. -/
theorem splitStatements_of_mem {body piece : List Char} (h : piece ∈ splitStatements body) :
    splitStatements piece = [piece] := by
  obtain ⟨hne, marks, hmarks, rfl⟩ := exists_of_mem_splitStatements h
  obtain ⟨-, hseparator⟩ := infix_of_mem_splitOnP marks hmarks
  rw [← scan_of_mem_splitOnP marks hmarks] at hseparator
  rw [← Text.trim_trim] at hne
  rw [splitStatements_eq_singleton (isSeparator_scan_trim hseparator) hne, Text.trim_trim]

theorem linksOf_nil : linksOf [] = [] := rfl

/-- A piece that is left out holds no connectors. -/
theorem flatMap_linksOf_trimmedPieces (pieces : List (List Char)) :
    (trimmedPieces pieces).flatMap linksOf = pieces.flatMap linksOf := by
  induction pieces with
  | nil => rfl
  | cons piece pieces ih =>
    rw [List.flatMap_cons, ← ih, ← linksOf_trim piece]
    by_cases hempty : Text.trim piece = []
    · simp [trimmedPieces, hempty, linksOf_nil]
    · simp [trimmedPieces, hempty]

/-- The connectors that are passed over when a line is split are those of its statements. -/
theorem flatMap_linksOf_splitStatements (body : List Char) :
    (splitStatements body).flatMap linksOf = linksOf body := by
  have hsplit (marks : List Mark) :
      (marks.splitOnP Mark.isSeparator).flatMap (·.filterMap Mark.sense?) =
        marks.filterMap Mark.sense? := by
    induction marks with
    | nil => rfl
    | cons mark marks ih =>
      rw [List.splitOnP_cons_eq_if_modifyHead]
      split
      · next hmark =>
        obtain rfl : mark = .char ';' true := by simpa [Mark.isSeparator] using hmark
        rw [List.flatMap_cons, List.filterMap_nil, List.nil_append, ih]
        rfl
      · obtain ⟨piece, pieces, heq⟩ :=
          List.exists_cons_of_ne_nil (List.splitOnP_ne_nil Mark.isSeparator marks)
        rw [heq, List.flatMap_cons] at ih
        rw [heq, List.modifyHead_cons, List.flatMap_cons, List.filterMap_cons, List.filterMap_cons,
          ← ih]
        cases mark.sense? <;> rfl
  rw [splitStatements, flatMap_linksOf_trimmedPieces, List.flatMap_map, linksOf, ← hsplit]
  refine List.flatMap_congr fun piece hpiece => ?_
  rw [linksOf, scan_of_mem_splitOnP piece hpiece]

theorem Segments.map_sense_rest_ofMarks (marks : List Mark) :
    (Segments.ofMarks marks).rest.map (·.1.sense) = marks.filterMap Mark.sense? := by
  induction marks with
  | nil => rfl
  | cons mark marks ih =>
    cases mark with
    | char c top => exact ih
    | link connector => exact congrArg (connector.sense :: ·) ih

/-- The connectors of a chain are those of its statement. -/
theorem Chain.map_sense_rest_read (statement : List Char) :
    (Chain.read statement).rest.map (·.1.sense) = linksOf statement := by
  rw [linksOf, ← Segments.map_sense_rest_ofMarks]
  simp [Chain.read, Function.comp_def]

/-! ## Lines of statements -/

theorem placedStatements_append (opened : OpenSubgraphs) (front back : List SourceLine) :
    placedStatements opened (front ++ back) =
      placedStatements opened front ++
        placedStatements (front.foldl OpenSubgraphs.after opened) back := by
  induction front generalizing opened with
  | nil => rfl
  | cons line front ih => simp [placedStatements, ih]

/-- A line that holds nothing but statements. -/
def SourceLine.isPlain : SourceLine → Bool
  | skip | body _ => true
  | declaration _ _ | subgraph _ | subgraphEnd => false

theorem placedStatements_plain {lines : List SourceLine} (h : ∀ line ∈ lines, line.isPlain)
    (opened : OpenSubgraphs) :
    placedStatements opened lines =
      (lines.flatMap (splitStatements ·.statements)).map (⟨Chain.read ·, opened.stack.head?⟩) := by
  induction lines with
  | nil => rfl
  | cons line lines ih =>
    obtain ⟨hline, hlines⟩ := List.forall_mem_cons.1 h
    have hafter : opened.after line = opened := by
      cases line <;> first | rfl | cases hline
    rw [placedStatements, hafter, ih hlines, List.flatMap_cons, List.map_append]

theorem foldl_after_plain {lines : List SourceLine} (h : ∀ line ∈ lines, line.isPlain)
    (opened : OpenSubgraphs) : lines.foldl OpenSubgraphs.after opened = opened := by
  induction lines with
  | nil => rfl
  | cons line lines ih =>
    obtain ⟨hline, hlines⟩ := List.forall_mem_cons.1 h
    rw [List.foldl_cons]
    cases line <;> first | exact ih hlines | cases hline

/-- Only the statements count in lines that hold nothing else. -/
theorem Outline.read_eq_of_plain {s t : List Char} {front middle other back : List SourceLine}
    (hs : (Text.lines s).map SourceLine.read = front ++ (middle ++ back))
    (ht : (Text.lines t).map SourceLine.read = front ++ (other ++ back))
    (hmiddle : ∀ line ∈ middle, line.isPlain) (hother : ∀ line ∈ other, line.isPlain)
    (h : middle.flatMap (splitStatements ·.statements) =
      other.flatMap (splitStatements ·.statements)) : Outline.read s = Outline.read t := by
  have hdirection {lines : List SourceLine} (hlines : ∀ line ∈ lines, line.isPlain) :
      lines.filterMap SourceLine.direction? = [] := by
    refine List.filterMap_eq_nil_iff.2 fun line hline => ?_
    have := hlines line hline
    cases line <;> first | rfl | cases this
  have hheader {lines : List SourceLine} (hlines : ∀ line ∈ lines, line.isPlain) :
      lines.filterMap SourceLine.header? = [] := by
    refine List.filterMap_eq_nil_iff.2 fun line hline => ?_
    have := hlines line hline
    cases line <;> first | rfl | cases this
  simp only [Outline.read, hs, ht, List.filterMap_append, hdirection hmiddle, hdirection hother,
    hheader hmiddle, hheader hother, placedStatements_append, placedStatements_plain hmiddle,
    placedStatements_plain hother, foldl_after_plain hmiddle, foldl_after_plain hother, h]

/-- The statements of a line, without the white space around them. -/
theorem SourceLine.eq_of_read_eq_body {line statements : List Char}
    (h : SourceLine.read line = .body statements) :
    statements = Text.trimEnd (Text.skipBlanks line) := by
  simp only [SourceLine.read] at h
  split at h
  · cases h
  · split at h
    · cases h
    · split at h
      · cases h
      · split at h
        · cases h
        · split at h
          · cases h
          · exact (SourceLine.body.inj h).symm

/-! ## One line for each statement -/

/-- A statement on a line of its own is not changed by reading the line. -/
theorem SourceLine.read_of_mem_splitStatements {body piece t : List Char}
    (hpiece : piece ∈ splitStatements body) (h : SourceLine.read piece = .body t) :
    SourceLine.read piece = .body piece := by
  have htrim := trim_of_mem_splitStatements hpiece
  rw [h, SourceLine.eq_of_read_eq_body h, Text.skipBlanks_of_trim htrim, Text.trimEnd_of_trim htrim]

/-- The statements of a line, one per line, are lines of a text in the place of that line. If there
    are none, an empty line may be left. -/
theorem lines_intercalate_splitStatements {before line after statements : List Char}
    (hline : Text.IsLine before line after) (hbody : SourceLine.read line = .body statements) :
    ∃ others, Text.lines (before ++ ['\n'].intercalate (splitStatements statements) ++ after) =
        Text.lines before ++ (others ++ (Text.lines after).tail) ∧
      (others = splitStatements statements ∨ splitStatements statements = [] ∧ others = [[]]) := by
  rw [List.append_assoc, Text.lines_append hline.starts]
  by_cases hnil : splitStatements statements = []
  · rw [hnil]
    rcases Text.lines_of_endsLine hline.ends with hafter | hafter
    · exact ⟨[], by simp [List.intercalate, hafter], .inl rfl⟩
    · exact ⟨[[]], by simpa [List.intercalate] using hafter, .inr ⟨rfl, rfl⟩⟩
  · have hpieces : ∀ piece ∈ splitStatements statements,
        piece ≠ [] ∧ '\n' ∉ piece ∧ piece.getLast? ≠ some '\r' := by
      intro piece hpiece
      refine ⟨(exists_of_mem_splitStatements hpiece).1, fun hfeed => ?_, fun hreturn => ?_⟩
      · have hmem := subset_of_mem_splitStatements hpiece hfeed
        rw [SourceLine.eq_of_read_eq_body hbody] at hmem
        have hskip := (List.rdropWhile_prefix Text.isWhite (Text.skipBlanks line)).subset hmem
        exact hline.whole ((List.dropWhile_suffix Text.isBlank).subset hskip)
      · have hlast := Text.isWhite_getLast?_trimEnd (Text.trimStart piece)
        rw [← Text.trim, trim_of_mem_splitStatements hpiece] at hlast
        exact absurd (hlast _ hreturn) (by decide)
    exact ⟨_, by rw [Text.lines_intercalate_append hpieces hnil hline.ends], .inl rfl⟩

/-- Lines that hold one statement each say what the line of all of them says, and nothing else. -/
theorem statements_of_lines {statements : List Char} {others : List (List Char)}
    (hread : ∀ piece ∈ splitStatements statements, SourceLine.read piece = .body piece)
    (hothers : others = splitStatements statements ∨ splitStatements statements = [] ∧ others = [[]]) :
    (∀ other ∈ others.map SourceLine.read, other.isPlain) ∧
      (others.map SourceLine.read).flatMap (splitStatements ·.statements) =
        splitStatements statements := by
  rcases hothers with rfl | ⟨hnil, rfl⟩
  · constructor
    · intro other hother
      obtain ⟨piece, hpiece, rfl⟩ := List.mem_map.1 hother
      rw [hread piece hpiece]
      rfl
    · rw [List.flatMap_map]
      calc (splitStatements statements).flatMap
            (fun piece => splitStatements (SourceLine.read piece).statements)
        _ = (splitStatements statements).flatMap fun piece => [piece] := by
          refine List.flatMap_congr fun piece hpiece => ?_
          rw [hread piece hpiece]
          exact splitStatements_of_mem hpiece
        _ = splitStatements statements := List.flatMap_singleton' _
  · constructor
    · intro other hother
      rw [List.mem_singleton.1 hother]
      rfl
    · rw [hnil]
      rfl

/-- Whether the statements of a line are separated by semicolons or stand on lines of their own makes
    no difference to the graph, as long as none of them is taken for a line of another kind. Both
    ways the statements are the same, and so are the connectors in them. -/
theorem Graph.extract_intercalate_splitStatements {before line after statements : List Char}
    (hline : Text.IsLine before line after) (hbody : SourceLine.read line = .body statements)
    (hpieces : ∀ piece ∈ splitStatements statements, ∃ t, SourceLine.read piece = .body t) :
    Graph.extract
        (String.ofList (before ++ ['\n'].intercalate (splitStatements statements) ++ after)) =
      Graph.extract (String.ofList (before ++ line ++ after)) ∧
    (∀ piece ∈ splitStatements statements,
      SourceLine.read piece = .body piece ∧ splitStatements piece = [piece]) ∧
    linksOf statements =
      (splitStatements statements).flatMap fun piece =>
        (Chain.read piece).rest.map (·.1.sense) := by
  have hread : ∀ piece ∈ splitStatements statements, SourceLine.read piece = .body piece := by
    intro piece hpiece
    obtain ⟨t, ht⟩ := hpieces piece hpiece
    exact SourceLine.read_of_mem_splitStatements hpiece ht
  have hne : line ≠ [] := by
    rintro rfl
    cases hbody
  refine ⟨?_, fun piece hpiece => ⟨hread piece hpiece, splitStatements_of_mem hpiece⟩, ?_⟩
  · obtain ⟨others, hlines, hothers⟩ := lines_intercalate_splitStatements hline hbody
    obtain ⟨hplain, hstatements⟩ := statements_of_lines hread hothers
    have hnew : (Text.lines (before ++ ['\n'].intercalate (splitStatements statements) ++
        after)).map SourceLine.read = (Text.lines before).map SourceLine.read ++
          (others.map SourceLine.read ++ (Text.lines after).tail.map SourceLine.read) := by
      rw [hlines, List.map_append, List.map_append]
    have hold : (Text.lines (before ++ line ++ after)).map SourceLine.read =
        (Text.lines before).map SourceLine.read ++
          ([.body statements] ++ (Text.lines after).tail.map SourceLine.read) := by
      rw [hline.lines_eq hne, List.map_append, List.map_cons, hbody]
      rfl
    rw [Graph.extract, Graph.extract, String.toList_ofList, String.toList_ofList,
      Outline.read_eq_of_plain hnew hold hplain (by simp [SourceLine.isPlain])]
    rw [hstatements]
    simp [SourceLine.statements]
  · rw [← flatMap_linksOf_splitStatements]
    simp only [Chain.map_sense_rest_read]

/-- A line with semicolons in a label, in the text of a connector and in a piped label. -/
def separatedLine : List Char :=
  "A[\"x;y\"] -- p;q --> B & C ; ;C-->|a;b|D-.- E".toList

theorem splitStatements_separatedLine :
    splitStatements separatedLine =
      ["A[\"x;y\"] -- p;q --> B & C".toList, "C-->|a;b|D-.- E".toList] := by
  decide +kernel

theorem Graph.extract_intercalate_separatedLine :
    Graph.extract "subgraph S\nA[\"x;y\"] -- p;q --> B & C\nC-->|a;b|D-.- E\r\nend\n" =
      Graph.extract "subgraph S\nA[\"x;y\"] -- p;q --> B & C ; ;C-->|a;b|D-.- E\r\nend\n" := by
  have hline : Text.IsLine "subgraph S\n".toList separatedLine "\r\nend\n".toList :=
    ⟨by simp, by decide +kernel, .inr (.inr ⟨"end\n".toList, rfl⟩)⟩
  have hbody : SourceLine.read separatedLine = .body separatedLine := by decide +kernel
  have hread : ∀ piece ∈ splitStatements separatedLine, SourceLine.read piece = .body piece := by
    rw [splitStatements_separatedLine]
    decide +kernel
  have := (Graph.extract_intercalate_splitStatements hline hbody
    fun piece hpiece => ⟨piece, hread piece hpiece⟩).1
  rw [splitStatements_separatedLine] at this
  exact this

end Flowchart
