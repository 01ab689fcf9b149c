-- SUMMARY: Where the lines of a text stand in it, and the lines of a text put together from lines.
import Flowchart.Text.Lines
import Flowchart.Proofs.White

/-!
# Lines of a text

A line stands between the start of the text or a line feed and the end of the text or a line break.
Every line of a text stands in it that way, and what is written in the place of a line is read as
lines of its own.
-/

namespace Flowchart.Text

/-! ## Line breaks -/

/-- A line ends before this text: at its end, or at a line break. A line feed does not end a line
    that a carriage return is the last character of, since that belongs to the break. -/
def EndsLine (line after : List Char) : Prop :=
  after = [] ∨ ((∃ rest, after = '\n' :: rest) ∧ line.getLast? ≠ some '\r') ∨
    ∃ rest, after = '\r' :: '\n' :: rest

/-- `line` is a line of the text `before ++ line ++ after`. -/
structure IsLine (before line after : List Char) : Prop where
  starts : ∀ c ∈ before.getLast?, c = '\n'
  whole : '\n' ∉ line
  ends : EndsLine line after

/-- What a line may follow stays so with more text before it. -/
theorem startsLine_cons {c : Char} {before : List Char} (h : ∀ d ∈ before.getLast?, d = '\n')
    (hc : before = [] → c = '\n') : ∀ d ∈ (c :: before).getLast?, d = '\n' := by
  cases before with
  | nil => simp [hc rfl]
  | cons d before => simpa [List.getLast?_cons_cons] using h

theorem startsLine_of_cons {c : Char} {before : List Char}
    (h : ∀ d ∈ (c :: before).getLast?, d = '\n') : ∀ d ∈ before.getLast?, d = '\n' := by
  cases before with
  | nil => simp
  | cons d before => simpa [List.getLast?_cons_cons] using h

theorem getLast?_ne_of_cons {c d : Char} {s : List Char} (h : (c :: s).getLast? ≠ some d) :
    s.getLast? ≠ some d := by
  cases s with
  | nil => simp
  | cons e s => simpa [List.getLast?_cons_cons] using h

/-- A character that begins no line break belongs to the first line. -/
theorem lines_cons {c : Char} {s : List Char} (hfeed : c ≠ '\n')
    (hreturn : c = '\r' → s.head? ≠ some '\n') :
    lines (c :: s) = (c :: (lines s).headD []) :: (lines s).tail := by
  rw [lines]
  · cases lines s <;> rfl
  · exact hfeed
  · rintro rest rfl rfl
    exact hreturn rfl rfl

theorem lines_eq_nil_iff {s : List Char} : lines s = [] ↔ s = [] := by
  fun_cases lines s <;> simp_all

/-! ## Putting lines together -/

/-- A text that ends with a line feed has its own lines, whatever follows. -/
theorem lines_append {s : List Char} (h : ∀ c ∈ s.getLast?, c = '\n') (t : List Char) :
    lines (s ++ t) = lines s ++ lines t := by
  fun_induction lines s with
  | case1 => rfl
  | case2 rest ih =>
    rw [List.cons_append, lines, ih (startsLine_of_cons h), List.cons_append]
  | case3 rest ih =>
    have hrest := startsLine_of_cons (startsLine_of_cons h)
    rw [List.cons_append, List.cons_append, lines, ih hrest, List.cons_append]
  | case4 c rest hfeed hreturn hnil ih =>
    rw [lines_eq_nil_iff.1 hnil] at h
    exact absurd (h c rfl) hfeed
  | case5 c rest hfeed hreturn line more hlines ih =>
    cases rest with
    | nil => cases hlines
    | cons d rest =>
      rw [List.cons_append, lines_cons hfeed, ih (startsLine_of_cons h)]
      · simp [hlines]
      · rintro rfl hd
        simp only [List.cons_append, List.head?_cons, Option.some.injEq] at hd
        exact hreturn _ rfl (by rw [hd])

/-- A line and what ends it. -/
theorem lines_line_append {line after : List Char} (hne : line ≠ []) (hwhole : '\n' ∉ line)
    (hends : EndsLine line after) : lines (line ++ after) = line :: (lines after).tail := by
  induction line with
  | nil => exact absurd rfl hne
  | cons c line ih =>
    have hfeed : c ≠ '\n' := fun hc => hwhole (hc ▸ List.mem_cons_self)
    cases line with
    | nil =>
      rw [List.cons_append, List.nil_append, lines_cons hfeed]
      · rcases hends with rfl | ⟨⟨rest, rfl⟩, -⟩ | ⟨rest, rfl⟩ <;> rfl
      · rintro rfl
        rcases hends with rfl | ⟨⟨rest, rfl⟩, hlast⟩ | ⟨rest, rfl⟩
        · simp
        · exact absurd rfl hlast
        · simp
    | cons d line =>
      have hmore := ih (by simp) (List.not_mem_of_not_mem_cons hwhole) hends
      rw [List.cons_append, lines_cons hfeed, hmore]
      · rfl
      · rintro - hd
        simp only [List.cons_append, List.head?_cons, Option.some.injEq] at hd
        exact hwhole (by simp [hd])

/-- A text without line feeds is one line. -/
theorem lines_of_feed_notMem {line : List Char} (hne : line ≠ []) (hwhole : '\n' ∉ line) :
    lines line = [line] := by
  have hline := lines_line_append hne hwhole (.inl rfl)
  rwa [List.append_nil] at hline

/-- A text that follows a line has an empty rest of that line, or is empty. -/
theorem lines_of_endsLine {line after : List Char} (h : EndsLine line after) :
    lines after = [] ∨ lines after = [] :: (lines after).tail := by
  rcases h with rfl | ⟨⟨rest, rfl⟩, -⟩ | ⟨rest, rfl⟩
  · exact .inl rfl
  · exact .inr rfl
  · exact .inr rfl

theorem IsLine.lines_eq {before line after : List Char} (h : IsLine before line after)
    (hne : line ≠ []) :
    lines (before ++ line ++ after) = lines before ++ line :: (lines after).tail := by
  rw [List.append_assoc, lines_append h.starts, lines_line_append hne h.whole h.ends]

/-- Lines written under each other in the place of a line. -/
theorem lines_intercalate_append {pieces : List (List Char)} {line after : List Char}
    (hpieces : ∀ piece ∈ pieces, piece ≠ [] ∧ '\n' ∉ piece ∧ piece.getLast? ≠ some '\r')
    (hne : pieces ≠ []) (hends : EndsLine line after) :
    lines (['\n'].intercalate pieces ++ after) = pieces ++ (lines after).tail := by
  induction pieces with
  | nil => exact absurd rfl hne
  | cons piece pieces ih =>
    obtain ⟨⟨hpiece, hwhole, hlast⟩, hmore⟩ := List.forall_mem_cons.1 hpieces
    cases pieces with
    | nil =>
      have hends' : EndsLine piece after := hends.imp_right (.imp_left fun h => ⟨h.1, hlast⟩)
      rw [List.intercalate_singleton, lines_line_append hpiece hwhole hends']
      rfl
    | cons next pieces =>
      have hfeed : EndsLine piece ('\n' :: (['\n'].intercalate (next :: pieces) ++ after)) :=
        .inr (.inl ⟨⟨_, rfl⟩, hlast⟩)
      rw [List.intercalate_cons_cons, List.append_assoc, List.append_assoc, List.singleton_append,
        lines_line_append hpiece hwhole hfeed, lines, List.tail_cons, ih hmore (by simp)]
      rfl

/-- Lines that each end with a line feed. -/
theorem lines_flatMap {pieces : List (List Char)}
    (hpieces : ∀ piece ∈ pieces, piece ≠ [] ∧ '\n' ∉ piece ∧ piece.getLast? ≠ some '\r') :
    lines (pieces.flatMap (· ++ ['\n'])) = pieces := by
  induction pieces with
  | nil => rfl
  | cons piece pieces ih =>
    obtain ⟨⟨hpiece, hwhole, hlast⟩, hmore⟩ := List.forall_mem_cons.1 hpieces
    rw [List.flatMap_cons, List.append_assoc, List.singleton_append,
      lines_line_append hpiece hwhole (.inr (.inl ⟨⟨_, rfl⟩, hlast⟩)), lines, List.tail_cons, ih hmore]

/-- A line stays one with a character before the text before it. -/
theorem IsLine.cons {c : Char} {before line after : List Char} (h : IsLine before line after)
    (hc : before = [] → c = '\n') : IsLine (c :: before) line after :=
  ⟨startsLine_cons h.starts hc, h.whole, h.ends⟩

/-- The first line of a text stays a line with a character before it that begins no line break. -/
theorem IsLine.cons_line {c : Char} {line after : List Char} (h : IsLine [] line after)
    (hfeed : c ≠ '\n') (hreturn : c = '\r' → (line ++ after).head? ≠ some '\n') :
    IsLine [] (c :: line) after := by
  refine ⟨by simp, by simpa [Ne.symm hfeed] using h.whole, ?_⟩
  rcases h.ends with rfl | ⟨⟨rest, rfl⟩, hlast⟩ | hbreak
  · exact .inl rfl
  · refine .inr (.inl ⟨⟨rest, rfl⟩, ?_⟩)
    cases line with
    | nil => simpa using hreturn
    | cons d line => simpa using hlast
  · exact .inr (.inr hbreak)

/-- Every line of a text stands in it as a line. -/
theorem exists_isLine {s line : List Char} {front back : List (List Char)}
    (h : lines s = front ++ line :: back) :
    ∃ before after, s = before ++ line ++ after ∧ IsLine before line after ∧
      lines before = front := by
  fun_induction lines s generalizing front line with
  | case1 => simp at h
  | case2 rest ih =>
    cases front with
    | nil =>
      obtain ⟨rfl, -⟩ := List.cons.inj h
      exact ⟨[], '\n' :: rest, rfl, ⟨by simp, by simp, .inr (.inl ⟨⟨rest, rfl⟩, by simp⟩)⟩, rfl⟩
    | cons first front =>
      obtain ⟨rfl, hmore⟩ := List.cons.inj h
      obtain ⟨before, after, rfl, hline, rfl⟩ := ih hmore
      exact ⟨'\n' :: before, after, by simp, hline.cons fun _ => rfl, rfl⟩
  | case3 rest ih =>
    cases front with
    | nil =>
      obtain ⟨rfl, -⟩ := List.cons.inj h
      exact ⟨[], '\r' :: '\n' :: rest, rfl, ⟨by simp, by simp, .inr (.inr ⟨rest, rfl⟩)⟩, rfl⟩
    | cons first front =>
      obtain ⟨rfl, hmore⟩ := List.cons.inj h
      obtain ⟨before, after, rfl, hline, rfl⟩ := ih hmore
      exact ⟨'\r' :: '\n' :: before, after, by simp, (hline.cons fun _ => rfl).cons (by simp), rfl⟩
  | case4 c rest hfeed hreturn hnil ih =>
    obtain rfl := lines_eq_nil_iff.1 hnil
    obtain ⟨rfl, hsingle⟩ : front = [] ∧ [c] = line := by
      cases front with
      | nil => exact ⟨rfl, (List.cons.inj h).1⟩
      | cons first front => simp at h
    subst hsingle
    exact ⟨[], [], by simp, ⟨by simp, by simpa using Ne.symm hfeed, .inl rfl⟩, rfl⟩
  | case5 c rest hfeed hreturn first more hlines ih =>
    have hhead : c = '\r' → rest.head? ≠ some '\n' := by
      rintro rfl hd
      obtain ⟨rest, rfl⟩ := List.head?_eq_some_iff.1 hd
      exact hreturn rest rfl rfl
    cases front with
    | nil =>
      obtain ⟨rfl, rfl⟩ := List.cons.inj h
      obtain ⟨before, after, rfl, hline, hbefore⟩ :=
        ih (show lines rest = [] ++ first :: more from hlines)
      obtain rfl := lines_eq_nil_iff.1 hbefore
      exact ⟨[], after, rfl, hline.cons_line hfeed hhead, rfl⟩
    | cons other front =>
      obtain ⟨rfl, rfl⟩ := List.cons.inj h
      obtain ⟨before, after, rfl, hline, hbefore⟩ :=
        ih (show lines rest = (first :: front) ++ line :: back from hlines)
      have hne : before ≠ [] := by
        rintro rfl
        cases hbefore
      refine ⟨c :: before, after, by simp, hline.cons (absurd · hne), ?_⟩
      rw [lines_cons hfeed, hbefore]
      · rfl
      · cases before with
        | nil => exact absurd rfl hne
        | cons d before => simpa using hhead

end Flowchart.Text
