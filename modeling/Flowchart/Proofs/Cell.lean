-- SUMMARY: What flattening line breaks and cutting do to the characters of a cell.
import Mathlib.Data.List.Infix
import Flowchart.Text.Cell

/-!
# Characters of table cells

Flattening takes break tags out of a text and puts spaces in, so that a text without them stays as it
is. Cutting leaves a start of the text. Nothing in a cell is new but spaces and the mark of a cut.
-/

namespace Flowchart.Text

/-! ## Line breaks -/

/-- No tag is taken out where none starts. -/
theorem breakLength_eq_zero {s : List Char}
    (h : ∀ tag ∈ breakTags, ¬ tag <+: s.map Char.toLower) : breakLength s = 0 := by
  have hnone : breakTags.find? (fun tag => (s.take tag.length).map Char.toLower == tag) = none := by
    refine List.find?_eq_none.2 fun tag htag hstart => h tag htag ?_
    rw [← beq_iff_eq.1 hstart, List.map_take]
    exact List.take_prefix _ _
  simp only [breakLength, hnone]

/-- A text without break tags is flat. -/
theorem flattenBreaks_eq_self {s : List Char}
    (h : ∀ tag ∈ breakTags, ¬ tag <:+: s.map Char.toLower) : flattenBreaks s = s := by
  unfold flattenBreaks
  induction s with
  | nil => rfl
  | cons c s ih =>
    have hstart : breakLength (c :: s) = 0 :=
      breakLength_eq_zero fun tag htag hprefix => h tag htag hprefix.isInfix
    have hrest := ih fun tag htag hinfix => h tag htag (List.infix_cons hinfix)
    rw [flattenAfter, hstart]
    exact congrArg (c :: ·) hrest

/-- Flattening puts nothing into a text but spaces. -/
theorem mem_of_mem_flattenAfter {c : Char} {skip : Nat} {s : List Char}
    (h : c ∈ flattenAfter skip s) : c ∈ s ∨ c = ' ' := by
  fun_induction flattenAfter skip s with
  | case1 => cases h
  | case2 skip d rest ih => exact (ih h).imp_left (List.mem_cons_of_mem d)
  | case3 d rest hnone ih =>
    rcases List.mem_cons.1 h with rfl | h
    · exact .inl List.mem_cons_self
    · exact (ih h).imp_left (List.mem_cons_of_mem d)
  | case4 d rest more htag ih =>
    rcases List.mem_cons.1 h with rfl | h
    · exact .inr rfl
    · exact (ih h).imp_left (List.mem_cons_of_mem d)

/-! ## Cutting -/

theorem takeColumns_isPrefix (max used : Nat) (s : List Char) : takeColumns max used s <+: s := by
  fun_induction takeColumns max used s with
  | case1 => exact List.nil_prefix
  | case2 => exact List.nil_prefix
  | case3 used c rest width hfits ih => exact (List.prefix_cons_inj c).2 ih

/-- Cutting puts nothing into a text but the mark of the cut. -/
theorem mem_of_mem_truncateToWidth {c : Char} {s : List Char} {max : Nat}
    (h : c ∈ truncateToWidth s max) : c ∈ s ∨ c = cutMark := by
  unfold truncateToWidth at h
  split at h
  · exact .inl h
  · exact (List.mem_append.1 h).imp (fun h => (takeColumns_isPrefix max 0 s).subset h)
      List.mem_singleton.1

end Flowchart.Text
