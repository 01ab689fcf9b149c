-- SUMMARY: Texts that are one statement, and statements put together from segments and connectors.
import Flowchart.Statement
import Flowchart.Proofs.Scan

/-!
# Single statements

A text without a top-level semicolon is one statement, and a segment without a top-level ampersand is
one member. Quiet texts are segments whole, so that a statement of any length can be put together
from quiet texts and connectors.
-/

namespace Flowchart

/-! ## Splitting lists -/

/-- A list has no separators, or a first one. -/
theorem splitOnP_cases {α : Type} (p : α → Bool) (l : List α) :
    (∀ x ∈ l, p x = false) ∨
      ∃ front x back, l = front ++ x :: back ∧ (∀ y ∈ front, p y = false) ∧ p x := by
  induction l with
  | nil => exact .inl (by simp)
  | cons x l ih =>
    cases hx : p x with
    | true => exact .inr ⟨[], x, l, rfl, by simp, hx⟩
    | false =>
      rcases ih with h | ⟨front, y, back, rfl, hfront, hy⟩
      · exact .inl (List.forall_mem_cons.2 ⟨hx, h⟩)
      · exact .inr ⟨x :: front, y, back, rfl, List.forall_mem_cons.2 ⟨hx, hfront⟩, hy⟩

/-- The pieces between separators stand in the list and hold no separators. -/
theorem infix_of_mem_splitOnP {α : Type} {p : α → Bool} {l : List α} :
    ∀ piece ∈ l.splitOnP p, piece <:+: l ∧ ∀ x ∈ piece, p x = false := by
  induction hn : l.length using Nat.strongRecOn generalizing l with
  | ind n ih =>
    intro piece hpiece
    rcases splitOnP_cases p l with h | ⟨front, x, back, rfl, hfront, hx⟩
    · rw [List.splitOnP_eq_singleton h, List.mem_singleton] at hpiece
      subst hpiece
      exact ⟨List.infix_rfl, h⟩
    · rw [List.splitOnP_append_cons_of_forall_mem hfront _ hx, List.mem_cons] at hpiece
      rcases hpiece with rfl | hpiece
      · exact ⟨List.infix_append_left, hfront⟩
      · obtain ⟨hinside, hpieces⟩ := ih back.length (by rw [← hn]; simp; omega) rfl piece hpiece
        exact ⟨List.infix_append_of_infix_right (List.infix_cons hinside), hpieces⟩

/-! ## Single statements and members -/

theorem isSeparator_ofLevel (level : Char × Bool) :
    (Mark.ofLevel level).isSeparator = (level == (';', true)) := by
  obtain ⟨c, top⟩ := level
  rw [Bool.eq_iff_iff]
  simp [Mark.ofLevel, Mark.isSeparator]

/-- A text without separators is one statement. -/
theorem splitStatements_eq_singleton {s : List Char}
    (h : ∀ mark ∈ scan s, mark.isSeparator = false) (hne : Text.trim s ≠ []) :
    splitStatements s = [Text.trim s] := by
  rw [splitStatements, List.splitOnP_eq_singleton h, List.map_singleton, flatMap_text_scan]
  simp [trimmedPieces, hne]

/-- A segment without ampersands at the top level is one member. -/
theorem splitMembers_eq_singleton {segment : List Char}
    (h : ('&', true) ∉ levels .outside segment) (hne : Text.trim segment ≠ []) :
    splitMembers segment = [Text.trim segment] := by
  have hsplit : (levels .outside segment).splitOnP (· == ('&', true)) =
      [levels .outside segment] := by
    refine List.splitOnP_eq_singleton fun level hlevel => ?_
    rw [beq_eq_false_iff_ne]
    rintro rfl
    exact h hlevel
  simp [splitMembers, hsplit, trimmedPieces, map_fst_levels, hne]

/-! ## Self-contained texts -/

/-- A text that can stand anywhere outside brackets: it closes what it opens, and neither does a
    connector start in it nor does a statement end. -/
structure SelfContained (s : List Char) : Prop where
  quiet : ∀ rest, Nesting.outside.Quiet rest s
  walk : Nesting.outside.walk s = .outside
  semicolon : (';', true) ∉ levels .outside s

/-- Characters without a meaning of their own make up a self-contained text. -/
theorem SelfContained.of_forall {s : List Char}
    (h : ∀ c ∈ s, Nesting.isDelimiter c = false ∧ c ≠ '-' ∧ c ≠ '=' ∧ c ≠ ';') : SelfContained s where
  quiet _ := Nesting.quiet_of_forall fun c hc => ⟨(h c hc).2.1, (h c hc).2.2.1⟩
  walk := Nesting.walk_of_not_isDelimiter _ fun c hc => (h c hc).1
  semicolon := not_mem_levels (fun hmem => (h _ hmem).2.2.2 rfl) _

theorem SelfContained.append {s t : List Char} (hs : SelfContained s) (ht : SelfContained t) :
    SelfContained (s ++ t) where
  quiet rest := by
    rw [Nesting.quiet_append, hs.walk]
    exact ⟨hs.quiet _, ht.quiet _⟩
  walk := by rw [Nesting.walk_append, hs.walk, ht.walk]
  semicolon := by
    rw [levels_append, hs.walk, List.mem_append, not_or]
    exact ⟨hs.semicolon, ht.semicolon⟩

/-- An ampersand behind a self-contained text ends its first member. -/
theorem splitMembers_append_cons {front back : List Char} (hfront : SelfContained front)
    (hlevels : ('&', true) ∉ levels .outside front) (hne : Text.trim front ≠ [])
    (hback : splitMembers back ≠ [[]]) :
    splitMembers (front ++ '&' :: back) = Text.trim front :: splitMembers back := by
  have hwhole : levels .outside (front ++ '&' :: back) =
      levels .outside front ++ ('&', true) :: levels .outside back := by
    rw [levels_append, hfront.walk]
    rfl
  have hsplit : (levels .outside (front ++ '&' :: back)).splitOnP (· == ('&', true)) =
      levels .outside front :: (levels .outside back).splitOnP (· == ('&', true)) := by
    rw [hwhole, List.splitOnP_append_cons_of_forall_mem _ _ rfl]
    intro level hlevel
    rw [beq_eq_false_iff_ne]
    rintro rfl
    exact hlevels hlevel
  have hpieces (pieces : List (List Char)) :
      trimmedPieces (front :: pieces) = Text.trim front :: trimmedPieces pieces := by
    simp [trimmedPieces, hne]
  simp only [splitMembers, hsplit, List.map_cons, map_fst_levels, hpieces] at hback ⊢
  split at hback
  · exact absurd rfl hback
  · rfl

/-! ## Chains -/

/-- Marked characters belong to the segment that goes on behind them. -/
theorem Segments.ofMarks_levels_append (levels : List (Char × Bool)) (marks : List Mark) :
    Segments.ofMarks (levels.map Mark.ofLevel ++ marks) =
      ⟨levels.map Prod.fst ++ (Segments.ofMarks marks).first, (Segments.ofMarks marks).rest⟩ := by
  induction levels with
  | nil => rfl
  | cons level levels ih =>
    obtain ⟨c, top⟩ := level
    rw [List.map_cons, List.cons_append, Mark.ofLevel, Segments.ofMarks, ih]
    rfl

namespace Segments

/-- The text of segments with the connectors between them. -/
def chars (segments : Segments) : List Char :=
  segments.first ++ segments.rest.flatMap fun (link, segment) => link.text ++ segment

/-- A segment before others, joined to them by a connector. -/
def cons (segment : List Char) (link : Connector) (segments : Segments) : Segments :=
  ⟨segment, (link, segments.first) :: segments.rest⟩

@[simp] theorem chars_single (segment : List Char) : (Segments.mk segment []).chars = segment :=
  List.append_nil segment

@[simp] theorem chars_cons (segment : List Char) (link : Connector) (segments : Segments) :
    (segments.cons segment link).chars = segment ++ (link.text ++ segments.chars) := by
  simp [chars, cons]

/-- Every segment is a part of the text. -/
theorem subset_chars {segments : Segments} {segment : List Char}
    (h : segment ∈ segments.first :: segments.rest.map Prod.snd) : segment ⊆ segments.chars := by
  rcases List.mem_cons.1 h with rfl | h
  · exact List.subset_append_left _ _
  · obtain ⟨joint, hjoint, rfl⟩ := List.mem_map.1 h
    intro c hc
    refine List.mem_append_right _ (List.mem_flatMap.2 ⟨joint, hjoint, ?_⟩)
    exact List.mem_append_right _ hc

/-- The connectors of the text are those between the segments: none starts in a segment, and each
    is read whole. -/
inductive Readable : Segments → Prop
  | single {segment : List Char} (hquiet : Nesting.outside.Quiet [] segment) : Readable ⟨segment, []⟩
  | cons {segment : List Char} {link : Connector} {segments : Segments}
      (hquiet : Nesting.outside.Quiet (link.text ++ segments.chars) segment)
      (hwalk : Nesting.outside.walk segment = .outside)
      (hread : Connector.read? (link.text ++ segments.chars) = some link)
      (hmore : Readable segments) : Readable (segments.cons segment link)

/-- The marks of segments with the connectors between them. -/
def marks (segments : Segments) : List Mark :=
  (levels .outside segments.first).map Mark.ofLevel ++
    segments.rest.flatMap fun (link, segment) =>
      .link link :: (levels .outside segment).map Mark.ofLevel

@[simp] theorem marks_single (segment : List Char) :
    (Segments.mk segment []).marks = (levels .outside segment).map Mark.ofLevel :=
  List.append_nil _

@[simp] theorem marks_cons (segment : List Char) (link : Connector) (segments : Segments) :
    (segments.cons segment link).marks =
      (levels .outside segment).map Mark.ofLevel ++ .link link :: segments.marks := by
  simp [marks, cons]

theorem Readable.scan_chars {segments : Segments} (h : segments.Readable) :
    scan segments.chars = segments.marks := by
  induction h with
  | single hquiet => rw [chars_single, marks_single, scan, scanAfter_of_quiet hquiet]
  | cons hquiet hwalk hread hmore ih =>
    rw [chars_cons, marks_cons, scan, scanAfter_append_of_quiet hquiet, hwalk,
      scanAfter_link rfl hread, ← scan, ih]

/-- Cutting the marks at the connectors gives the segments back. -/
theorem Readable.ofMarks_marks {segments : Segments} (h : segments.Readable) :
    ofMarks segments.marks = segments := by
  induction h with
  | @single segment hquiet =>
    have hmarks := ofMarks_levels_append (levels .outside segment) []
    rw [List.append_nil, map_fst_levels] at hmarks
    rw [marks_single, hmarks]
    simp [ofMarks]
  | cons hquiet hwalk hread hmore ih =>
    rw [marks_cons, ofMarks_levels_append, map_fst_levels, ofMarks, ih, List.append_nil]
    rfl

/-- The text is not split if no segment has a semicolon at the top level. -/
theorem Readable.splitStatements_chars {segments : Segments} (h : segments.Readable)
    (hlevels : ∀ segment ∈ segments.first :: segments.rest.map Prod.snd,
      (';', true) ∉ levels .outside segment) (hne : Text.trim segments.chars ≠ []) :
    splitStatements segments.chars = [Text.trim segments.chars] := by
  have hlevel : ∀ segment ∈ segments.first :: segments.rest.map Prod.snd,
      ∀ mark ∈ (levels .outside segment).map Mark.ofLevel, mark.isSeparator = false := by
    intro segment hsegment mark hmark
    obtain ⟨level, hlevel, rfl⟩ := List.mem_map.1 hmark
    rw [isSeparator_ofLevel, beq_eq_false_iff_ne]
    rintro rfl
    exact hlevels segment hsegment hlevel
  obtain ⟨hfirst, hrest⟩ := List.forall_mem_cons.1 hlevel
  refine splitStatements_eq_singleton (fun mark hmark => ?_) hne
  rw [h.scan_chars, marks, List.mem_append, List.mem_flatMap] at hmark
  rcases hmark with hmark | ⟨⟨link, segment⟩, hmem, hmark⟩
  · exact hfirst mark hmark
  · rcases List.mem_cons.1 hmark with rfl | hmark
    · rfl
    · exact hrest segment (List.mem_map_of_mem hmem) mark hmark

end Segments

/-- The chain whose groups are the segments, split into members. -/
def Segments.chain (segments : Segments) : Chain :=
  ⟨splitMembers segments.first,
    segments.rest.map fun (link, segment) => (link, splitMembers segment)⟩

theorem Chain.read_chars {segments : Segments} (h : segments.Readable) :
    Chain.read segments.chars = segments.chain := by
  rw [Chain.read, h.scan_chars, h.ofMarks_marks]
  rfl

/-- A quiet text is a statement without connectors. -/
theorem Chain.read_of_quiet {s : List Char} (h : Nesting.outside.Quiet [] s) :
    Chain.read s = ⟨splitMembers s, []⟩ := by
  have hread := Chain.read_chars (.single h)
  rwa [Segments.chars_single] at hread

theorem SelfContained.splitStatements_eq {s : List Char} (h : SelfContained s)
    (hne : Text.trim s ≠ []) : splitStatements s = [Text.trim s] := by
  have hsplit := (Segments.Readable.single (h.quiet [])).splitStatements_chars
    (by simpa using h.semicolon) (by rwa [Segments.chars_single])
  rwa [Segments.chars_single] at hsplit

section Link

variable {left right : List Char} {connector : Connector}
  (hleft : Nesting.outside.Quiet (connector.text ++ right) left)
  (hwalk : Nesting.outside.walk left = .outside)
  (hread : Connector.read? (connector.text ++ right) = some connector)
  (hright : Nesting.outside.Quiet [] right)

include hleft hwalk hread hright

/-- Two quiet texts with a connector between them are two segments. -/
theorem Segments.readable_link : (cons left connector ⟨right, []⟩).Readable := by
  refine .cons ?_ hwalk ?_ (.single hright)
  · rwa [chars_single]
  · rwa [chars_single]

theorem Chain.read_link :
    Chain.read (left ++ (connector.text ++ right)) =
      ⟨splitMembers left, [(connector, splitMembers right)]⟩ := by
  have hsegments := Chain.read_chars (Segments.readable_link hleft hwalk hread hright)
  rwa [Segments.chars_cons, Segments.chars_single] at hsegments

/-- Such a statement is not split if neither text has a semicolon at the top level. -/
theorem splitStatements_link (hlevels : (';', true) ∉ levels .outside left ++ levels .outside right)
    (hne : Text.trim (left ++ (connector.text ++ right)) ≠ []) :
    splitStatements (left ++ (connector.text ++ right)) =
      [Text.trim (left ++ (connector.text ++ right))] := by
  have hsplit := (Segments.readable_link hleft hwalk hread hright).splitStatements_chars
    (by simpa [Segments.cons, not_or] using hlevels)
    (by rwa [Segments.chars_cons, Segments.chars_single])
  rwa [Segments.chars_cons, Segments.chars_single] at hsplit

end Link

end Flowchart
