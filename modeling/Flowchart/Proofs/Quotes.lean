-- SUMMARY: A label in quotes hides what it holds, so that its member can stand anywhere in a statement.
import Flowchart.Proofs.Label
import Flowchart.Proofs.Grammar

/-!
# Quoted labels

No scanner looks between quotes. An identifier with a quoted label between the delimiters of a shape
is therefore self-contained, whatever the label says.
-/

namespace Flowchart

/-! ## Quotes -/

/-- Between quotes nothing opens or closes but a quote. -/
theorem Nesting.step_of_quoted {nesting : Nesting} (hquoted : nesting.quoted) {c : Char}
    (hc : c ≠ '"') : nesting.step c = nesting := by
  simp [step, hquoted, hc]

section Quoted

variable (shape : Shape) (s : List Char)

theorem ne_quote_of_mem_escapeQuotes {c : Char} (h : c ∈ Label.escapeQuotes s) : c ≠ '"' := by
  rcases Label.mem_of_mem_escapeQuotes h with h | ⟨-, h⟩
  · exact fun hc => absurd (hc ▸ h) (by decide)
  · exact h

/-- The nesting inside the quotes of a label. -/
def Shape.quotedNesting : Nesting :=
  { shape.nesting with quoted := true }

theorem Shape.step_quotedNesting :
    ∀ c ∈ Label.escapeQuotes s, shape.quotedNesting.step c = shape.quotedNesting :=
  fun _ hc => Nesting.step_of_quoted rfl (ne_quote_of_mem_escapeQuotes s hc)

theorem Shape.step_nesting_quote : shape.nesting.step '"' = shape.quotedNesting := rfl

theorem Shape.step_quotedNesting_quote : shape.quotedNesting.step '"' = shape.nesting := rfl

theorem Shape.isTop_quotedNesting : shape.quotedNesting.isTop = false := by
  cases shape <;> rfl

@[simp] theorem Shape.walk_quoted : shape.nesting.walk (Label.quoted s) = shape.nesting := by
  rw [Label.quoted, Nesting.walk_cons, shape.step_nesting_quote, Nesting.walk_append,
    Nesting.walk_eq_self (shape.step_quotedNesting s)]
  rfl

/-- No connector is looked for in a quoted label. -/
theorem Shape.quiet_quoted (rest : List Char) : shape.nesting.Quiet rest (Label.quoted s) := by
  have hquiet := Nesting.quiet_of_not_isTop shape.isTop_quotedNesting (shape.step_quotedNesting s)
  rw [Label.quoted, Nesting.Quiet, shape.step_nesting_quote, Nesting.quiet_append,
    Nesting.walk_eq_self (shape.step_quotedNesting s), Nesting.Quiet,
    shape.step_quotedNesting_quote, shape.isTop_nesting, shape.isTop_quotedNesting]
  exact ⟨(absurd · Bool.false_ne_true), hquiet _, (absurd · Bool.false_ne_true), trivial⟩

/-- Nothing in a quoted label stands at the top level. -/
theorem Shape.levels_quoted : ∀ level ∈ levels shape.nesting (Label.quoted s), level.2 = false := by
  rw [Label.quoted, levels, shape.step_nesting_quote, levels_append,
    levels_eq_map (shape.step_quotedNesting s), Nesting.walk_eq_self (shape.step_quotedNesting s)]
  intro level hlevel
  rw [List.mem_cons, List.mem_append] at hlevel
  rcases hlevel with rfl | hlevel | hlevel
  · exact shape.isTop_nesting
  · obtain ⟨c, -, rfl⟩ := List.mem_map.1 hlevel
    exact shape.isTop_quotedNesting
  · rw [List.mem_singleton.1 hlevel]
    exact shape.isTop_quotedNesting

end Quoted

/-- Without double quotes in it a label is written as it is. -/
theorem Label.quoted_of_notMem {s : List Char} (h : '"' ∉ s) : Label.quoted s = '"' :: (s ++ ['"']) := by
  have hsame : Label.escapeQuotes s = s := by
    induction s with
    | nil => rfl
    | cons c s ih =>
      rw [List.mem_cons, not_or] at h
      rw [Label.escapeQuotes_cons_of_ne (Ne.symm h.1), ih h.2]
  rw [Label.quoted, hsame]

/-! ## Members with a quoted label -/

section Member

variable (id : Identifier) (shape : Shape) (s : List Char)

/-- A quoted label hides the separators in it. -/
theorem not_mem_levels_quoted {c : Char} (hword : Text.isWord c = false)
    (hopening : c ∉ shape.opening) (hclosing : c ∉ shape.closing) :
    (c, true) ∉
      levels .outside (id.chars ++ (shape.opening ++ (Label.quoted s ++ shape.closing))) := by
  simp only [levels_append, Identifier.walk_chars, Shape.walk_opening, Shape.walk_quoted,
    List.mem_append, not_or]
  refine ⟨id.not_mem_levels_chars hword, not_mem_levels hopening _, fun h => ?_,
    not_mem_levels hclosing _⟩
  cases shape.levels_quoted _ _ h

theorem not_mem_levels_quoted_ampersand :
    ('&', true) ∉
      levels .outside (id.chars ++ (shape.opening ++ (Label.quoted s ++ shape.closing))) :=
  not_mem_levels_quoted id shape s (by decide) shape.separator_notMem.2.1 shape.separator_notMem.2.2

theorem selfContained_quoted :
    SelfContained (id.chars ++ (shape.opening ++ (Label.quoted s ++ shape.closing))) where
  quiet rest := by
    simp only [Nesting.quiet_append, Identifier.walk_chars, Shape.walk_opening, Shape.walk_quoted]
    exact ⟨id.quiet _ _, shape.quiet_opening _ _, shape.quiet_quoted _ _, shape.quiet_closing _ _⟩
  walk := by simp [Nesting.walk_append]
  semicolon :=
    not_mem_levels_quoted id shape s (by decide) shape.separator_notMem.1.1 shape.separator_notMem.1.2

end Member

end Flowchart
