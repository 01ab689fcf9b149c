-- SUMMARY: The scan of a text, part by part: what follows a part and white space around it make no difference.
import Flowchart.Statement
import Flowchart.Proofs.Connector

/-!
# Scanning

The scan of a text is described character by character and connector by connector, so that proofs
about it follow the marks. A scan that is cut between two marks is made of the scans of both parts,
and white space at the ends of a text changes neither its connectors nor its separators.
-/

namespace Flowchart

/-! ## Nesting -/

namespace Nesting

/-- The nesting after a text. -/
def walk (nesting : Nesting) (s : List Char) : Nesting :=
  s.foldl step nesting

@[simp] theorem walk_nil (nesting : Nesting) : nesting.walk [] = nesting := rfl

@[simp] theorem walk_cons (nesting : Nesting) (c : Char) (s : List Char) :
    nesting.walk (c :: s) = (nesting.step c).walk s := rfl

theorem walk_append (nesting : Nesting) (s t : List Char) :
    nesting.walk (s ++ t) = (nesting.walk s).walk t :=
  List.foldl_append

/-- At the top level nothing is open. -/
theorem eq_outside {nesting : Nesting} (h : nesting.isTop) : nesting = outside := by
  obtain ⟨depth, quoted, piped⟩ := nesting
  simp only [isTop, Bool.and_eq_true, beq_iff_eq, Bool.not_eq_eq_eq_not, Bool.not_true] at h
  obtain ⟨⟨rfl, rfl⟩, rfl⟩ := h
  rfl

@[simp] theorem isTop_outside : outside.isTop = true := rfl

/-- The characters that open or close something. -/
def isDelimiter (c : Char) : Bool :=
  c == '"' || c == '|' || c == '(' || c == '[' || c == '{' || c == ')' || c == ']' || c == '}'

theorem step_of_not_isDelimiter (nesting : Nesting) {c : Char} (h : isDelimiter c = false) :
    nesting.step c = nesting := by
  simp only [isDelimiter, Bool.or_eq_false_iff] at h
  simp [step, h]

theorem walk_eq_self {nesting : Nesting} {s : List Char}
    (h : ∀ c ∈ s, nesting.step c = nesting) : nesting.walk s = nesting := by
  induction s with
  | nil => rfl
  | cons c s ih =>
    obtain ⟨hc, hs⟩ := List.forall_mem_cons.1 h
    rw [walk_cons, hc, ih hs]

theorem walk_of_not_isDelimiter (nesting : Nesting) {s : List Char}
    (h : ∀ c ∈ s, isDelimiter c = false) : nesting.walk s = nesting :=
  walk_eq_self fun c hc => step_of_not_isDelimiter nesting (h c hc)

/-- The nesting after a mark. A connector leaves it as it is. -/
def after (nesting : Nesting) : Mark → Nesting
  | .char c _ => nesting.step c
  | .link _ => nesting

end Nesting

/-! ## Mark by mark -/

section Marks

variable {nesting : Nesting} {c : Char} {connector : Connector} {rest : List Char}

theorem scanAfter_eq_drop (nesting : Nesting) (skip : Nat) (s : List Char) :
    scanAfter nesting skip s = scanAfter nesting 0 (s.drop skip) := by
  induction s generalizing skip with
  | nil => cases skip <;> rfl
  | cons c s ih =>
    cases skip with
    | zero => rfl
    | succ skip => rw [scanAfter, ih, List.drop_succ_cons]

/-- Where no connector starts, a character is marked. -/
theorem scanAfter_char (h : nesting.isTop → Connector.read? (c :: rest) = none) :
    scanAfter nesting 0 (c :: rest) =
      .char c nesting.isTop :: scanAfter (nesting.step c) 0 rest := by
  rw [scanAfter]
  split
  · next connector hread =>
    split at hread
    · next htop => rw [h htop] at hread; cases hread
    · cases hread
  · rfl

/-- A connector at the top level is marked whole. -/
theorem scanAfter_link (htop : nesting.isTop)
    (h : Connector.read? (connector.text ++ rest) = some connector) :
    scanAfter nesting 0 (connector.text ++ rest) = .link connector :: scanAfter nesting 0 rest := by
  obtain ⟨c, text, htext⟩ := List.exists_cons_of_ne_nil (Connector.text_ne_nil h)
  rw [htext, List.cons_append] at h ⊢
  rw [scanAfter, if_pos htop, h]
  simp only [htext, List.length_cons, Nat.add_sub_cancel]
  rw [scanAfter_eq_drop, List.drop_left]

/-- To prove something of every text and nesting, follow the marks of the scan. -/
@[elab_as_elim]
theorem scanInduction {motive : Nesting → List Char → Prop} (nil : ∀ nesting, motive nesting [])
    (char : ∀ nesting c rest, (nesting.isTop → Connector.read? (c :: rest) = none) →
      motive (nesting.step c) rest → motive nesting (c :: rest))
    (link : ∀ nesting connector rest, nesting.isTop →
      Connector.read? (connector.text ++ rest) = some connector → motive nesting rest →
        motive nesting (connector.text ++ rest))
    (nesting : Nesting) (s : List Char) : motive nesting s := by
  induction hn : s.length using Nat.strongRecOn generalizing nesting s with
  | ind n ih =>
    cases s with
    | nil => exact nil nesting
    | cons c s =>
      by_cases h : nesting.isTop → Connector.read? (c :: s) = none
      · exact char nesting c s h (ih _ (by simp [← hn]) _ _ rfl)
      · obtain ⟨htop, hread⟩ := Classical.not_imp.1 h
        obtain ⟨connector, hread⟩ := Option.ne_none_iff_exists'.1 hread
        obtain ⟨rest, hrest⟩ := Connector.text_prefix hread
        rw [← hrest] at hread hn ⊢
        refine link nesting connector rest htop hread (ih _ ?_ _ _ rfl)
        rw [← hn, List.length_append]
        have := List.length_pos_iff.2 (Connector.text_ne_nil hread)
        omega

end Marks

/-! ## Cutting a scan -/

/-- What follows some marks of a scan is the scan of what follows their text. -/
theorem scanAfter_of_append {nesting : Nesting} {s : List Char} {front back : List Mark}
    (h : scanAfter nesting 0 s = front ++ back) :
    ∃ t, s = front.flatMap Mark.text ++ t ∧
      scanAfter (front.foldl Nesting.after nesting) 0 t = back := by
  induction nesting, s using scanInduction generalizing front with
  | nil nesting =>
    obtain ⟨rfl, rfl⟩ := List.append_eq_nil_iff.1 h.symm
    exact ⟨[], rfl, rfl⟩
  | char nesting c rest hno ih =>
    cases front with
    | nil => exact ⟨c :: rest, rfl, h⟩
    | cons mark front =>
      rw [scanAfter_char hno, List.cons_append] at h
      obtain ⟨rfl, hmore⟩ := List.cons.inj h
      obtain ⟨t, rfl, ht⟩ := ih hmore
      exact ⟨t, rfl, ht⟩
  | link nesting connector rest htop hread ih =>
    cases front with
    | nil => exact ⟨connector.text ++ rest, rfl, h⟩
    | cons mark front =>
      rw [scanAfter_link htop hread, List.cons_append] at h
      obtain ⟨rfl, hmore⟩ := List.cons.inj h
      obtain ⟨t, rfl, ht⟩ := ih hmore
      exact ⟨t, by rw [List.flatMap_cons, List.append_assoc]; rfl, ht⟩

/-- The first marks of a scan are the scan of their text. -/
theorem scanAfter_flatMap_text {nesting : Nesting} {s : List Char} {front back : List Mark}
    (h : scanAfter nesting 0 s = front ++ back) :
    scanAfter nesting 0 (front.flatMap Mark.text) = front := by
  induction nesting, s using scanInduction generalizing front with
  | nil nesting =>
    obtain ⟨rfl, rfl⟩ := List.append_eq_nil_iff.1 h.symm
    rfl
  | char nesting c rest hno ih =>
    cases front with
    | nil => rfl
    | cons mark front =>
      rw [scanAfter_char hno, List.cons_append] at h
      obtain ⟨rfl, hmore⟩ := List.cons.inj h
      obtain ⟨t, ht, -⟩ := scanAfter_of_append hmore
      rw [List.flatMap_cons, Mark.text, List.singleton_append, scanAfter_char, ih hmore]
      intro htop
      refine Connector.read?_eq_none_of_append (t := t) ?_
      rw [List.cons_append, ← ht]
      exact hno htop
  | link nesting connector rest htop hread ih =>
    cases front with
    | nil => rfl
    | cons mark front =>
      rw [scanAfter_link htop hread, List.cons_append] at h
      obtain ⟨rfl, hmore⟩ := List.cons.inj h
      obtain ⟨t, ht, -⟩ := scanAfter_of_append hmore
      rw [ht, ← List.append_assoc] at hread
      rw [List.flatMap_cons, Mark.text, scanAfter_link htop, ih hmore]
      exact Connector.read?_of_append hread (List.prefix_append _ _)

/-! ## Quiet texts -/

/-- No connector starts at the top level in a text that `rest` follows. -/
def Nesting.Quiet (nesting : Nesting) (rest : List Char) : List Char → Prop
  | [] => True
  | c :: s =>
    (nesting.isTop → Connector.read? (c :: (s ++ rest)) = none) ∧ (nesting.step c).Quiet rest s

/-- The mark of a character with its level. -/
def Mark.ofLevel : Char × Bool → Mark
  | (c, top) => .char c top

/-- Without dashes and equals signs a text is quiet. -/
theorem Nesting.quiet_of_forall {nesting : Nesting} {rest s : List Char}
    (h : ∀ c ∈ s, c ≠ '-' ∧ c ≠ '=') : nesting.Quiet rest s := by
  induction s generalizing nesting with
  | nil => trivial
  | cons c s ih =>
    obtain ⟨hc, hs⟩ := List.forall_mem_cons.1 h
    exact ⟨fun _ => Connector.read?_eq_none_of_ne _ hc.1 hc.2, ih hs⟩

/-- Below the top level a text is quiet as long as nothing is closed in it. -/
theorem Nesting.quiet_of_not_isTop {nesting : Nesting} {s : List Char} (htop : nesting.isTop = false)
    (h : ∀ c ∈ s, nesting.step c = nesting) (rest : List Char) : nesting.Quiet rest s := by
  induction s with
  | nil => trivial
  | cons c s ih =>
    obtain ⟨hc, hs⟩ := List.forall_mem_cons.1 h
    rw [Quiet, hc, htop]
    exact ⟨nofun, ih hs⟩

theorem Nesting.quiet_append {nesting : Nesting} {rest s t : List Char} :
    nesting.Quiet rest (s ++ t) ↔ nesting.Quiet (t ++ rest) s ∧ (nesting.walk s).Quiet rest t := by
  induction s generalizing nesting with
  | nil => simp [Nesting.Quiet]
  | cons c s ih => simp [Nesting.Quiet, ih, and_assoc]

/-- The characters of a quiet text are marked one by one. -/
theorem scanAfter_append_of_quiet {nesting : Nesting} {s rest : List Char}
    (h : nesting.Quiet rest s) :
    scanAfter nesting 0 (s ++ rest) =
      (levels nesting s).map Mark.ofLevel ++ scanAfter (nesting.walk s) 0 rest := by
  induction s generalizing nesting with
  | nil => rfl
  | cons c s ih =>
    rw [List.cons_append, scanAfter_char h.1, ih h.2]
    rfl

theorem scanAfter_of_quiet {nesting : Nesting} {s : List Char} (h : nesting.Quiet [] s) :
    scanAfter nesting 0 s = (levels nesting s).map Mark.ofLevel := by
  have := scanAfter_append_of_quiet h
  rw [List.append_nil] at this
  rw [this]
  exact List.append_nil _

theorem levels_append (nesting : Nesting) (s t : List Char) :
    levels nesting (s ++ t) = levels nesting s ++ levels (nesting.walk s) t := by
  induction s generalizing nesting with
  | nil => rfl
  | cons c s ih => rw [List.cons_append, levels, ih]; rfl

theorem map_fst_levels (nesting : Nesting) (s : List Char) :
    (levels nesting s).map Prod.fst = s := by
  induction s generalizing nesting with
  | nil => rfl
  | cons c s ih => rw [levels, List.map_cons, ih]

theorem not_mem_levels {nesting : Nesting} {s : List Char} {c : Char} (h : c ∉ s) (top : Bool) :
    (c, top) ∉ levels nesting s := by
  rw [← map_fst_levels nesting s] at h
  exact fun hlevel => h (List.mem_map_of_mem hlevel)

/-- Characters that open and close nothing stand at one level. -/
theorem levels_eq_map {nesting : Nesting} {s : List Char}
    (h : ∀ c ∈ s, nesting.step c = nesting) : levels nesting s = s.map (·, nesting.isTop) := by
  induction s with
  | nil => rfl
  | cons c s ih =>
    obtain ⟨hc, hs⟩ := List.forall_mem_cons.1 h
    rw [levels, hc, ih hs]
    rfl

theorem levels_of_not_isDelimiter (nesting : Nesting) {s : List Char}
    (h : ∀ c ∈ s, Nesting.isDelimiter c = false) : levels nesting s = s.map (·, nesting.isTop) :=
  levels_eq_map fun c hc => Nesting.step_of_not_isDelimiter nesting (h c hc)

/-! ## White ends -/

/-- What a connector says, however many blanks are written after it. -/
def Connector.sense (connector : Connector) : EdgeKind × Stroke × Option (List Char) :=
  (connector.kind, connector.stroke, connector.label)

namespace Mark

/-- A mark without the text that a connector was read from. -/
def core : Mark → Mark
  | char c top => char c top
  | link connector => link { connector with text := [] }

/-- What a connector among the marks says. -/
def sense? : Mark → Option (EdgeKind × Stroke × Option (List Char))
  | char _ _ => none
  | link connector => some connector.sense

@[simp] theorem sense?_core (mark : Mark) : mark.core.sense? = mark.sense? := by
  cases mark <;> rfl

@[simp] theorem isSeparator_link (connector : Connector) :
    (link connector).isSeparator = false := rfl

@[simp] theorem isSeparator_core (mark : Mark) : mark.core.isSeparator = mark.isSeparator := by
  cases mark <;> rfl

end Mark

theorem isDelimiter_of_isWhite {c : Char} (h : Text.isWhite c) : Nesting.isDelimiter c = false := by
  cases hdelimiter : Nesting.isDelimiter c with
  | false => rfl
  | true =>
    simp only [Nesting.isDelimiter, Bool.or_eq_true, beq_iff_eq] at hdelimiter
    rcases hdelimiter with ((((((rfl | rfl) | rfl) | rfl) | rfl) | rfl) | rfl) | rfl <;>
      exact absurd h (by decide)

theorem scanAfter_white_append (nesting : Nesting) {s : List Char} (h : ∀ c ∈ s, Text.isWhite c)
    (rest : List Char) :
    scanAfter nesting 0 (s ++ rest) =
      s.map (.char · nesting.isTop) ++ scanAfter nesting 0 rest := by
  have hdelimiter : ∀ c ∈ s, Nesting.isDelimiter c = false :=
    fun c hc => isDelimiter_of_isWhite (h c hc)
  have hquiet : nesting.Quiet rest s := by
    refine Nesting.quiet_of_forall fun c hc => ⟨?_, ?_⟩
    · exact Text.ne_of_apply (h c hc) (by decide)
    · exact Text.ne_of_apply (h c hc) (by decide)
  rw [scanAfter_append_of_quiet hquiet, levels_of_not_isDelimiter nesting hdelimiter,
    Nesting.walk_of_not_isDelimiter nesting hdelimiter, List.map_map]
  rfl

theorem map_core_scanAfter_white (nesting : Nesting) {s : List Char} (h : ∀ c ∈ s, Text.isWhite c) :
    (scanAfter nesting 0 s).map Mark.core = s.map (.char · nesting.isTop) := by
  have := scanAfter_white_append nesting h []
  rw [List.append_nil] at this
  rw [this]
  simp [scanAfter, Mark.core, Function.comp_def]

/-- A text that is one connector is marked so. -/
theorem scanAfter_of_text_eq {nesting : Nesting} {connector : Connector} {s : List Char}
    (htop : nesting.isTop) (h : Connector.read? s = some connector) (htext : connector.text = s) :
    scanAfter nesting 0 s = [.link connector] := by
  have hread : Connector.read? (connector.text ++ []) = some connector := by
    rw [List.append_nil, htext]
    exact h
  have hlink := scanAfter_link htop hread
  rw [List.append_nil, htext] at hlink
  exact hlink

/-- White space behind a text is marked character by character, apart from blanks that belong to a
    connector at the end. -/
theorem scanAfter_append_white (nesting : Nesting) (s : List Char) {t : List Char}
    (ht : ∀ c ∈ t, Text.isWhite c) :
    ∃ (u : List Char) (top : Bool), (∀ c ∈ u, Text.isWhite c) ∧
      (scanAfter nesting 0 (s ++ t)).map Mark.core =
        (scanAfter nesting 0 s).map Mark.core ++ u.map (.char · top) := by
  induction hn : s.length using Nat.strongRecOn generalizing nesting s with
  | ind n ih =>
    cases s with
    | nil => exact ⟨t, nesting.isTop, ht, map_core_scanAfter_white nesting ht⟩
    | cons c s =>
      by_cases h : nesting.isTop → Connector.read? (c :: (s ++ t)) = none
      · have h' : nesting.isTop → Connector.read? (c :: s) = none :=
          fun htop => Connector.read?_eq_none_of_append (t := t) (h htop)
        obtain ⟨u, top, hu, heq⟩ := ih _ (by simp [← hn]) (nesting.step c) s rfl
        refine ⟨u, top, hu, ?_⟩
        rw [List.cons_append, scanAfter_char h, scanAfter_char h', List.map_cons, heq]
        rfl
      · obtain ⟨htop, hread⟩ := Classical.not_imp.1 h
        obtain ⟨connector, hread⟩ := Option.ne_none_iff_exists'.1 hread
        rw [← List.cons_append] at hread
        rcases Connector.read?_of_append_white ht hread with hs | ⟨u, v, rfl, htext, hs⟩
        · obtain ⟨rest, hrest⟩ := Connector.text_prefix hs
          rw [← hrest] at hread hs hn ⊢
          have hpos := List.length_pos_iff.2 (Connector.text_ne_nil hs)
          obtain ⟨u, top, hu, heq⟩ :=
            ih _ (by rw [← hn, List.length_append]; omega) nesting rest rfl
          refine ⟨u, top, hu, ?_⟩
          rw [scanAfter_link htop hs, List.append_assoc, scanAfter_link htop, List.map_cons, heq]
          · rfl
          · rw [← List.append_assoc]
            exact hread
        · -- the connector takes up the whole text and the blanks `u` behind it
          refine ⟨v, nesting.isTop, fun d hd => ht d (List.mem_append_right _ hd), ?_⟩
          have hwhole : scanAfter nesting 0 (c :: s) = [.link { connector with text := c :: s }] :=
            scanAfter_of_text_eq htop hs rfl
          rw [← List.append_assoc, ← htext] at hread ⊢
          rw [scanAfter_link htop hread, hwhole, List.map_cons,
            map_core_scanAfter_white nesting fun d hd => ht d (List.mem_append_right _ hd)]
          rfl

/-- Trimming a text takes white space off its scan and leaves the connectors as they are, but for
    blanks behind them. -/
theorem exists_core_scan_trim (s : List Char) :
    ∃ (u v : List Char) (top : Bool), (∀ c ∈ u ++ v, Text.isWhite c) ∧
      (scan s).map Mark.core =
        u.map (.char · true) ++ (scan (Text.trim s)).map Mark.core ++ v.map (.char · top) := by
  obtain ⟨u, t, hs, hu, ht⟩ := Text.exists_eq_append_trim s
  obtain ⟨v, top, hv, heq⟩ := scanAfter_append_white .outside (Text.trim s) ht
  refine ⟨u, v, top, fun c hc => (List.mem_append.1 hc).elim (hu c) (hv c), ?_⟩
  calc (scan s).map Mark.core
    _ = (scanAfter .outside 0 (u ++ (Text.trim s ++ t))).map Mark.core := by
      rw [scan, ← List.append_assoc, ← hs]
    _ = u.map (.char · true) ++ (scanAfter .outside 0 (Text.trim s ++ t)).map Mark.core := by
      rw [scanAfter_white_append _ hu, List.map_append, List.map_map]
      rfl
    _ = u.map (.char · true) ++ (scan (Text.trim s)).map Mark.core ++ v.map (.char · top) := by
      rw [heq, List.append_assoc]
      rfl

end Flowchart
