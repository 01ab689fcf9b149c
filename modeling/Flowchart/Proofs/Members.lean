-- SUMMARY: Where a line is cut into members, and texts that are cut or hidden.
import Flowchart.Proofs.Separation

/-!
# Members of a line

A line is cut at connectors and at semicolons and ampersands at the top level. A line is scanned as a
whole, its statements once more and the segments of these a third time, but all scans agree on the
cuts. So no member goes across one. Brackets and quotes hide from the scan what stands in them, and a
text that is not hidden has a cut.
-/

namespace Flowchart

/-! ## Cuts -/

/-- A line is cut into members at this mark. -/
def Mark.isCut : Mark → Bool
  | char c top => top && (c == ';' || c == '&')
  | link _ => true

/-- Marks at which nothing is cut are characters. -/
theorem Mark.core_of_not_isCut {mark : Mark} (h : mark.isCut = false) : mark.core = mark := by
  cases mark with
  | char c top => rfl
  | link connector => cases h

@[simp] theorem Mark.isCut_core (mark : Mark) : mark.core.isCut = mark.isCut := by
  cases mark <;> rfl

/-- A part of the marks without cuts stands before or behind a cut. -/
theorem infix_of_isCut {front back run : List Mark} {mark : Mark}
    (hrun : run <:+: front ++ mark :: back) (h : ∀ other ∈ run, other.isCut = false)
    (hmark : mark.isCut) : run <:+: front ∨ run <:+: back := by
  have hnot : mark ∉ run := fun hmem => by simp [h mark hmem] at hmark
  have hempty {part : List Mark} (hpart : part <+: mark :: back) (hsub : part ⊆ run) :
      part = [] := by
    cases part with
    | nil => rfl
    | cons other part =>
      obtain ⟨rfl, -⟩ := List.cons_prefix_cons.1 hpart
      exact absurd (hsub List.mem_cons_self) hnot
  rcases List.infix_append_iff.1 hrun with hfront | hback | ⟨left, right, rfl, hleft, hright⟩
  · exact .inl hfront
  · rcases List.infix_cons_iff.1 hback with hstart | hback
    · rw [hempty hstart (List.Subset.refl _)]
      exact .inr List.nil_infix
    · exact .inr hback
  · obtain rfl := hempty hright (List.subset_append_right left right)
    rw [List.append_nil]
    exact .inl hleft.isInfix

/-! ## Segments -/

/-- The segments of a scanned text are runs of its marks, scanned from the top level on. -/
theorem Segments.infix_ofMarks (nesting : Nesting) (s : List Char) :
    (levels nesting (Segments.ofMarks (scanAfter nesting 0 s)).first).map Mark.ofLevel <+:
        scanAfter nesting 0 s ∧
      ∀ joint ∈ (Segments.ofMarks (scanAfter nesting 0 s)).rest,
        (levels .outside joint.2).map Mark.ofLevel <:+: scanAfter nesting 0 s := by
  induction nesting, s using scanInduction with
  | nil nesting => exact ⟨List.nil_prefix, by simp [scanAfter, Segments.ofMarks]⟩
  | char nesting c rest hno ih =>
    obtain ⟨hfirst, hrest⟩ := ih
    rw [scanAfter_char hno, Segments.ofMarks]
    refine ⟨List.cons_prefix_cons.2 ⟨rfl, hfirst⟩, ?_⟩
    intro joint hjoint
    exact List.infix_cons (hrest joint hjoint)
  | link nesting connector rest htop hread ih =>
    obtain rfl := Nesting.eq_outside htop
    obtain ⟨hfirst, hrest⟩ := ih
    rw [scanAfter_link htop hread, Segments.ofMarks]
    refine ⟨List.nil_prefix, ?_⟩
    intro joint hjoint
    rcases List.mem_cons.1 hjoint with rfl | hjoint
    · exact List.infix_cons hfirst.isInfix
    · exact List.infix_cons (hrest joint hjoint)

/-- The members of a statement are members of runs of its marks. -/
theorem exists_segment_of_mem_groups {statement member : List Char}
    (h : member ∈ (Chain.read statement).groups.flatten) :
    ∃ segment, (levels .outside segment).map Mark.ofLevel <:+: scan statement ∧
      member ∈ splitMembers segment := by
  obtain ⟨hfirst, hrest⟩ := Segments.infix_ofMarks .outside statement
  obtain ⟨group, hgroup, hmember⟩ := List.mem_flatten.1 h
  simp only [Chain.read, Chain.groups, List.map_map, List.mem_cons, List.mem_map,
    Function.comp_apply] at hgroup
  rcases hgroup with rfl | ⟨joint, hjoint, rfl⟩
  · exact ⟨_, hfirst.isInfix, hmember⟩
  · exact ⟨_, hrest joint hjoint, hmember⟩

/-! ## Runs -/

theorem flatMap_text_ofLevel (levels : List (Char × Bool)) :
    (levels.map Mark.ofLevel).flatMap Mark.text = levels.map Prod.fst := by
  induction levels with
  | nil => rfl
  | cons level levels ih => rw [List.map_cons, List.flatMap_cons, ih]; rfl

theorem isCut_ofLevel {level : Char × Bool} (hsemicolon : level ≠ (';', true))
    (hampersand : level ≠ ('&', true)) : (Mark.ofLevel level).isCut = false := by
  obtain ⟨c, top⟩ := level
  cases top with
  | false => rfl
  | true => simpa [Mark.ofLevel, Mark.isCut] using And.intro hsemicolon hampersand

/-- A member is empty or what a piece of the segment leaves when it is trimmed. -/
theorem exists_of_mem_splitMembers {segment member : List Char} (h : member ∈ splitMembers segment) :
    member = [] ∨ ∃ piece, piece <:+: levels .outside segment ∧ ('&', true) ∉ piece ∧
      member = Text.trim (piece.map Prod.fst) := by
  unfold splitMembers at h
  simp only at h
  split at h
  · exact .inl (List.mem_singleton.1 h)
  · simp only [trimmedPieces, List.mem_filter, List.mem_map] at h
    obtain ⟨⟨_, ⟨piece, hpiece, rfl⟩, rfl⟩, -⟩ := h
    obtain ⟨hinside, hampersand⟩ := infix_of_mem_splitOnP piece hpiece
    refine .inr ⟨piece, hinside, fun hmem => ?_, rfl⟩
    simpa using hampersand _ hmem

/-- A member of a statement is part of a run of its marks without cuts. -/
theorem exists_run_of_mem_groups {statement member : List Char}
    (hseparator : ∀ mark ∈ scan statement, mark.isSeparator = false)
    (h : member ∈ (Chain.read statement).groups.flatten) :
    ∃ run, run <:+: scan statement ∧ (∀ mark ∈ run, mark.isCut = false) ∧
      member <:+: run.flatMap Mark.text := by
  obtain ⟨segment, hsegment, hmember⟩ := exists_segment_of_mem_groups h
  rcases exists_of_mem_splitMembers hmember with rfl | ⟨piece, hpiece, hampersand, rfl⟩
  · exact ⟨[], List.nil_infix, by simp, List.nil_infix⟩
  · have hrun : piece.map Mark.ofLevel <:+: scan statement := (hpiece.map Mark.ofLevel).trans hsegment
    refine ⟨piece.map Mark.ofLevel, hrun, ?_, ?_⟩
    · intro mark hmark
      have hnot := hseparator mark (hrun.subset hmark)
      obtain ⟨level, hlevel, rfl⟩ := List.mem_map.1 hmark
      rw [isSeparator_ofLevel, beq_eq_false_iff_ne] at hnot
      exact isCut_ofLevel hnot fun hlevel' => hampersand (hlevel' ▸ hlevel)
    · rw [flatMap_text_ofLevel]
      exact Text.trim_isInfix _

/-- A member of a line is part of a run of the marks of the line without cuts. -/
theorem exists_run_of_mem_splitStatements {body statement member : List Char}
    (hstatement : statement ∈ splitStatements body)
    (h : member ∈ (Chain.read statement).groups.flatten) :
    ∃ run, run <:+: scan body ∧ (∀ mark ∈ run, mark.isCut = false) ∧
      member <:+: run.flatMap Mark.text := by
  obtain ⟨-, part, hpart, rfl⟩ := exists_of_mem_splitStatements hstatement
  obtain ⟨hinside, hseparator⟩ := infix_of_mem_splitOnP part hpart
  have hscan := scan_of_mem_splitOnP part hpart
  rw [← hscan] at hseparator
  obtain ⟨run, hrun, hcut, hmember⟩ := exists_run_of_mem_groups (isSeparator_scan_trim hseparator) h
  obtain ⟨u, v, top, -, hcore⟩ := exists_core_scan_trim (part.flatMap Mark.text)
  have hsame {marks : List Mark} (h : ∀ mark ∈ marks, mark.isCut = false) :
      marks.map Mark.core = marks :=
    calc marks.map Mark.core
      _ = marks.map id := List.map_congr_left fun mark hmark => Mark.core_of_not_isCut (h mark hmark)
      _ = marks := List.map_id marks
  -- trimming changes the scan at its ends only, where no member stands
  have hwhole : run <:+: (scan (part.flatMap Mark.text)).map Mark.core := by
    rw [hcore, ← hsame hcut]
    exact (hrun.map Mark.core).trans (List.infix_append _ _ _)
  obtain ⟨other, hother, rfl⟩ := List.infix_map_iff.1 hwhole
  have hcut' : ∀ mark ∈ other, mark.isCut = false := by
    intro mark hmark
    rw [← Mark.isCut_core]
    exact hcut _ (List.mem_map_of_mem hmark)
  rw [hscan] at hother
  refine ⟨other, hother.trans hinside, hcut', ?_⟩
  rwa [hsame hcut'] at hmember

/-- A member of a line stands before a cut or behind it. -/
theorem infix_of_mem_members {body statement member : List Char} {front back : List Mark}
    {mark : Mark} (hstatement : statement ∈ splitStatements body)
    (h : member ∈ (Chain.read statement).groups.flatten) (hscan : scan body = front ++ mark :: back)
    (hmark : mark.isCut) :
    member <:+: front.flatMap Mark.text ∨ member <:+: back.flatMap Mark.text := by
  have htext {run marks : List Mark} (h : run <:+: marks) :
      run.flatMap Mark.text <:+: marks.flatMap Mark.text := by
    obtain ⟨before, after, rfl⟩ := h
    rw [List.flatMap_append, List.flatMap_append]
    exact List.infix_append _ _ _
  obtain ⟨run, hrun, hcut, hmember⟩ := exists_run_of_mem_splitStatements hstatement h
  rw [hscan] at hrun
  rcases infix_of_isCut hrun hcut hmark with hrun | hrun
  · exact .inl (hmember.trans (htext hrun))
  · exact .inr (hmember.trans (htext hrun))

/-! ## Texts that are cut -/

/-- A line is cut at the start of this text, if nothing is open there. -/
def startsCut (s : List Char) : Bool :=
  s.head?.any (fun c => c == ';' || c == '&') || (Connector.read? s).isSome

/-- A text that `rest` follows is not cut. -/
def Nesting.hides (nesting : Nesting) (rest : List Char) : List Char → Bool
  | [] => true
  | c :: s => !(nesting.isTop && startsCut (c :: (s ++ rest))) && (nesting.step c).hides rest s

section Hides

variable {nesting : Nesting} {c : Char} {rest s : List Char}

theorem startsCut_cons_eq_false :
    startsCut (c :: s) = false ↔ (c ≠ ';' ∧ c ≠ '&') ∧ Connector.read? (c :: s) = none := by
  simp [startsCut]

theorem Nesting.hides_cons :
    nesting.hides rest (c :: s) ↔
      (nesting.isTop → startsCut (c :: (s ++ rest)) = false) ∧ (nesting.step c).hides rest s := by
  rw [hides]
  cases nesting.isTop <;> simp

theorem Nesting.quiet_of_hides (h : nesting.hides rest s) : nesting.Quiet rest s := by
  induction s generalizing nesting with
  | nil => trivial
  | cons c s ih =>
    obtain ⟨hcut, hs⟩ := hides_cons.1 h
    exact ⟨fun htop => (startsCut_cons_eq_false.1 (hcut htop)).2, ih hs⟩

theorem Nesting.notMem_levels_of_hides (h : nesting.hides rest s) :
    (';', true) ∉ levels nesting s ∧ ('&', true) ∉ levels nesting s := by
  induction s generalizing nesting with
  | nil => simp [levels]
  | cons c s ih =>
    obtain ⟨hcut, hs⟩ := hides_cons.1 h
    obtain ⟨hsemicolon, hampersand⟩ := ih hs
    have hfirst : nesting.isTop → c ≠ ';' ∧ c ≠ '&' :=
      fun htop => (startsCut_cons_eq_false.1 (hcut htop)).1
    simp only [levels, List.mem_cons, Prod.mk.injEq, not_or, not_and]
    exact ⟨⟨fun hc htop => (hfirst htop.symm).1 hc.symm, hsemicolon⟩,
      fun hc htop => (hfirst htop.symm).2 hc.symm, hampersand⟩

/-- Nothing is cut where nothing comes to the top level. -/
theorem Nesting.hides_of_isTop_eq_false
    (h : ∀ p d t, s = p ++ d :: t → (nesting.walk p).isTop = false) : nesting.hides rest s := by
  induction s generalizing nesting with
  | nil => rfl
  | cons c s ih =>
    refine hides_cons.2 ⟨fun htop => ?_, ih ?_⟩
    · rw [show nesting.isTop = false from h [] c s rfl] at htop
      cases htop
    · rintro p d t rfl
      exact h (c :: p) d t rfl

/-- A cut at the top level of a text that `rest` follows, with the marks on both sides of it. -/
structure Nesting.Cut (nesting : Nesting) (rest s : List Char) where
  before : List Char
  first : Char
  after : List Char
  eq_append : s = before ++ first :: after
  isTop : (nesting.walk before).isTop
  front : List Mark
  mark : Mark
  back : List Mark
  scan_eq : scanAfter nesting 0 (s ++ rest) = front ++ mark :: back
  isCut : mark.isCut
  text_front : front.flatMap Mark.text = before
  text_back : back.flatMap Mark.text <:+ after ++ rest

theorem Nesting.Cut.before_isInfix (cut : nesting.Cut rest s) : cut.before <:+: s :=
  ⟨[], cut.first :: cut.after, cut.eq_append.symm⟩

theorem Nesting.Cut.after_isInfix (cut : nesting.Cut rest s) : cut.after <:+: s := by
  refine ⟨cut.before ++ [cut.first], [], ?_⟩
  rw [List.append_nil, List.append_assoc]
  exact cut.eq_append.symm

/-- A cut is made where a text starts like one. -/
theorem Nesting.Cut.nonempty_of_startsCut (htop : nesting.isTop)
    (h : startsCut (c :: (s ++ rest))) : Nonempty (nesting.Cut rest (c :: s)) := by
  cases hread : Connector.read? (c :: (s ++ rest)) with
  | none =>
    have hc : c = ';' ∨ c = '&' := by simpa [startsCut, hread] using h
    have hscan : scanAfter nesting 0 (c :: s ++ rest) =
        [] ++ .char c nesting.isTop :: scanAfter (nesting.step c) 0 (s ++ rest) :=
      scanAfter_char fun _ => hread
    refine ⟨[], c, s, rfl, htop, [], _, _, hscan, ?_, rfl, ?_⟩
    · simpa [Mark.isCut, htop] using hc
    · rw [flatMap_text_scanAfter]
      exact List.suffix_refl _
  | some connector =>
    obtain ⟨after, hafter⟩ := Connector.text_prefix hread
    rw [← hafter] at hread
    have hscan : scanAfter nesting 0 (c :: s ++ rest) =
        [] ++ .link connector :: scanAfter nesting 0 after := by
      rw [List.cons_append, ← hafter]
      exact scanAfter_link htop hread
    refine ⟨[], c, s, rfl, htop, [], _, _, hscan, rfl, rfl, ?_⟩
    obtain ⟨d, text, htext⟩ := List.exists_cons_of_ne_nil (Connector.text_ne_nil hread)
    rw [htext, List.cons_append] at hafter
    rw [flatMap_text_scanAfter, ← (List.cons.inj hafter).2]
    exact List.suffix_append _ _

/-- A character at which nothing is cut goes before a cut. -/
def Nesting.Cut.cons (hcut : nesting.isTop → startsCut (c :: (s ++ rest)) = false)
    (cut : (nesting.step c).Cut rest s) : nesting.Cut rest (c :: s) where
  before := c :: cut.before
  first := cut.first
  after := cut.after
  eq_append := congrArg (c :: ·) cut.eq_append
  isTop := cut.isTop
  front := .char c nesting.isTop :: cut.front
  mark := cut.mark
  back := cut.back
  scan_eq := by
    rw [List.cons_append, scanAfter_char fun htop => (startsCut_cons_eq_false.1 (hcut htop)).2,
      cut.scan_eq]
    rfl
  isCut := cut.isCut
  text_front := congrArg (c :: ·) cut.text_front
  text_back := cut.text_back

/-- A text that does not hide what is written in it has a cut. -/
theorem Nesting.Cut.nonempty (h : nesting.hides rest s = false) : Nonempty (nesting.Cut rest s) := by
  induction s generalizing nesting with
  | nil => cases h
  | cons c s ih =>
    by_cases hcut : nesting.isTop → startsCut (c :: (s ++ rest)) = false
    · have hs : (nesting.step c).hides rest s = false := by
        rw [← Bool.not_eq_true] at h ⊢
        exact fun hs => h (hides_cons.2 ⟨hcut, hs⟩)
      obtain ⟨cut⟩ := ih hs
      exact ⟨cut.cons hcut⟩
    · obtain ⟨htop, hstarts⟩ := Classical.not_imp.1 hcut
      exact nonempty_of_startsCut htop (by simpa using hstarts)

end Hides

end Flowchart
