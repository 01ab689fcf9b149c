-- SUMMARY: How many brackets a text shows, and how they bound its nesting.
import Flowchart.Statement
import Flowchart.Proofs.Label
import Flowchart.Proofs.Scan

/-!
# Brackets

A text shows its brackets and those written as tokens. A label shows as many after decoding, and a
part of a text shows no more than the whole. To come back to the top level, a text must hold as many
closing brackets as were open.
-/

namespace Flowchart

theorem countP_cons_toNat {α : Type} (p : α → Bool) (c : α) (s : List α) :
    (c :: s).countP p = (p c).toNat + s.countP p := by
  rw [List.countP_cons, Nat.add_comm]
  cases p c <;> rfl

/-- The brackets that open something. -/
def isOpening (c : Char) : Bool :=
  c == '(' || c == '[' || c == '{'

/-- The brackets that close something. -/
def isClosing (c : Char) : Bool :=
  c == ')' || c == ']' || c == '}'

def isBracket (c : Char) : Bool :=
  isOpening c || isClosing c

theorem isBracket_of_not_isDelimiter {c : Char} (h : Nesting.isDelimiter c = false) :
    isBracket c = false := by
  simp only [Nesting.isDelimiter, Bool.or_eq_false_iff] at h
  simp [isBracket, isOpening, isClosing, h]

/-! ## Shown brackets -/

/-- The text starts with a bracket or with the token of one. -/
def startsBracket (s : List Char) : Bool :=
  s.head?.any isBracket || Escape.openParen.token.isPrefixOf s ||
    Escape.closeParen.token.isPrefixOf s

/-- The number of brackets that a text shows. -/
def shownBrackets : List Char → Nat
  | [] => 0
  | c :: s => (startsBracket (c :: s)).toNat + shownBrackets s

theorem startsBracket_iff {c : Char} {s : List Char} :
    startsBracket (c :: s) ↔
      isBracket c ∨ Escape.openParen.token <+: c :: s ∨ Escape.closeParen.token <+: c :: s := by
  simp [startsBracket, or_assoc]

theorem startsBracket_append {c : Char} {s : List Char} (h : startsBracket (c :: s))
    (t : List Char) : startsBracket (c :: (s ++ t)) := by
  rw [startsBracket_iff] at h ⊢
  rcases h with h | h | h
  · exact .inl h
  · exact .inr (.inl (h.trans (List.prefix_append (c :: s) t)))
  · exact .inr (.inr (h.trans (List.prefix_append (c :: s) t)))

/-- Two parts of a text show no more brackets than both together, where a token may go across. -/
theorem shownBrackets_append_le (s t : List Char) :
    shownBrackets s + shownBrackets t ≤ shownBrackets (s ++ t) := by
  induction s with
  | nil => simp [shownBrackets]
  | cons c s ih =>
    have hstart : (startsBracket (c :: s)).toNat ≤ (startsBracket (c :: (s ++ t))).toNat := by
      cases h : startsBracket (c :: s) with
      | false => exact Nat.zero_le _
      | true => rw [startsBracket_append h]
    rw [List.cons_append, shownBrackets, shownBrackets]
    omega

theorem shownBrackets_le_of_isInfix {s t : List Char} (h : s <:+: t) :
    shownBrackets s ≤ shownBrackets t := by
  obtain ⟨front, back, rfl⟩ := h
  have hfront := shownBrackets_append_le front s
  have hback := shownBrackets_append_le (front ++ s) back
  omega

/-- A bracket that is written is shown. -/
theorem countP_isBracket_le (s : List Char) : s.countP isBracket ≤ shownBrackets s := by
  induction s with
  | nil => exact Nat.le_refl _
  | cons c s ih =>
    have hstart : (isBracket c).toNat ≤ (startsBracket (c :: s)).toNat := by
      cases h : isBracket c with
      | false => exact Nat.zero_le _
      | true => rw [startsBracket_iff.2 (.inl h)]
    rw [countP_cons_toNat, shownBrackets]
    omega

theorem notMem_token {c : Char} (hc : isBracket c) (e : Escape) : c ∉ e.token := by
  intro hmem
  have hplain : ∀ d ∈ e.token, isBracket d = false := by
    cases e <;> simp [Escape.token, isBracket, isOpening, isClosing]
  rw [hplain c hmem] at hc
  cases hc

/-- No token goes across a bracket. -/
theorem shownBrackets_append_cons (s : List Char) {c : Char} (hc : isBracket c) (t : List Char) :
    shownBrackets (s ++ c :: t) = shownBrackets s + shownBrackets (c :: t) := by
  induction s with
  | nil => simp [shownBrackets]
  | cons d s ih =>
    have hstart : startsBracket (d :: (s ++ c :: t)) = startsBracket (d :: s) := by
      rw [Bool.eq_iff_iff, startsBracket_iff, startsBracket_iff, ← List.cons_append,
        Label.isPrefix_append_cons_iff (notMem_token hc _), Label.isPrefix_append_cons_iff (notMem_token hc _)]
    calc shownBrackets (d :: (s ++ c :: t))
      _ = (startsBracket (d :: s)).toNat + shownBrackets (s ++ c :: t) := by rw [shownBrackets, hstart]
      _ = shownBrackets (d :: s) + shownBrackets (c :: t) := by rw [ih, ← Nat.add_assoc]; rfl

theorem shownBrackets_append_of_forall {s : List Char}
    (h : ∀ c ∈ s, c ≠ '#' ∧ isBracket c = false) (t : List Char) :
    shownBrackets (s ++ t) = shownBrackets t := by
  induction s with
  | nil => rfl
  | cons c s ih =>
    obtain ⟨⟨hhash, hbracket⟩, hs⟩ := List.forall_mem_cons.1 h
    have hstart : startsBracket (c :: (s ++ t)) = false := by
      rw [Bool.eq_false_iff, ne_eq, startsBracket_iff, hbracket]
      rintro (h | ⟨rest, hrest⟩ | ⟨rest, hrest⟩)
      · cases h
      · exact hhash (List.cons.inj hrest).1.symm
      · exact hhash (List.cons.inj hrest).1.symm
    rw [List.cons_append, shownBrackets, hstart, ih hs]
    exact Nat.zero_add _

/-- Brackets in a row show themselves. -/
theorem shownBrackets_append_of_isBracket {s : List Char} (h : ∀ c ∈ s, isBracket c)
    (t : List Char) : shownBrackets (s ++ t) = s.length + shownBrackets t := by
  induction s with
  | nil => exact (Nat.zero_add _).symm
  | cons c s ih =>
    obtain ⟨hc, hs⟩ := List.forall_mem_cons.1 h
    rw [List.cons_append, shownBrackets, startsBracket_iff.2 (.inl hc), ih hs, List.length_cons,
      Bool.toNat_true]
    omega

/-- What a text shows is what is left of its brackets when tokens are replaced. -/
theorem countP_unescape (s : List Char) : (Label.unescape s).countP isBracket = shownBrackets s := by
  induction s using Label.unescapeInduction with
  | nil => rfl
  | token e rest ih =>
    have htoken : ∃ p, e.token = '#' :: p ∧ ∀ c ∈ p, c ≠ '#' ∧ isBracket c = false := by
      cases e <;> exact ⟨_, rfl, by simp [isBracket, isOpening, isClosing]⟩
    have hstart : startsBracket (e.token ++ rest) = isBracket e.char := by cases e <;> rfl
    obtain ⟨p, hp, hplain⟩ := htoken
    rw [hp, List.cons_append] at hstart
    rw [Label.unescape_token_append, countP_cons_toNat, ih, hp, List.cons_append, shownBrackets,
      hstart, shownBrackets_append_of_forall hplain]
  | char c s hno ih =>
    have hstart : startsBracket (c :: s) = isBracket c := by
      rw [Bool.eq_iff_iff, startsBracket_iff]
      simp [hno]
    rw [Label.unescape_cons hno, countP_cons_toNat, ih, shownBrackets, hstart]

/-! ## Decoded labels -/

section Dropping

variable {p q : Char → Bool} (h : ∀ c, p c → q c = false) (s : List Char)

include h

/-- Dropping elements that do not count leaves the number of those that do. -/
theorem countP_dropWhile : (s.dropWhile p).countP q = s.countP q := by
  induction s with
  | nil => rfl
  | cons c s ih =>
    rw [List.dropWhile_cons]
    split
    · next hc => rw [ih, List.countP_cons, h c hc]; rfl
    · rfl

theorem countP_dropEndWhile : (Text.dropEndWhile p s).countP q = s.countP q := by
  rw [Text.dropEndWhile, List.countP_reverse, countP_dropWhile h, List.countP_reverse]

end Dropping

/-- Trimming and stripping quotes take no brackets away. -/
theorem countP_decode (s : List Char) : (Label.decode s).countP isBracket = shownBrackets s := by
  have hwhite : ∀ c, Text.isWhite c → isBracket c = false :=
    fun c hc => isBracket_of_not_isDelimiter (isDelimiter_of_isWhite hc)
  have hquote : ∀ c, (c == '"') → isBracket c = false := by
    intro c hc
    obtain rfl : c = '"' := by simpa using hc
    rfl
  rw [Label.decode, Text.trim, Text.trimEnd, countP_dropEndWhile hwhite, Text.trimStart,
    countP_dropWhile hwhite, Label.stripQuotes, countP_dropEndWhile hquote, countP_dropWhile hquote,
    Text.trim, Text.trimEnd, countP_dropEndWhile hwhite, Text.trimStart, countP_dropWhile hwhite,
    countP_unescape]

/-! ## Depth -/

/-- Every bracket that is closed was opened before, whatever its kind, and all are closed at the
    end. -/
structure Balanced (s : List Char) : Prop where
  closed_le : ∀ p, p <+: s → p.countP isClosing ≤ p.countP isOpening
  closed_eq : s.countP isClosing = s.countP isOpening

namespace Nesting

/-- Inside brackets a character changes the depth only, unless it is a quote. -/
theorem step_of_depth {depth : Nat} (hdepth : 0 < depth) {c : Char} (hc : c ≠ '"') :
    step { depth } c = { depth := depth + (isOpening c).toNat - (isClosing c).toNat } := by
  by_cases hopening : isOpening c
  · simp only [isOpening, Bool.or_eq_true, beq_iff_eq] at hopening
    rcases hopening with (rfl | rfl) | rfl <;> rfl
  · by_cases hclosing : isClosing c
    · simp only [isClosing, Bool.or_eq_true, beq_iff_eq] at hclosing
      rcases hclosing with (rfl | rfl) | rfl <;> rfl
    · simp only [isOpening, isClosing, Bool.not_eq_true, Bool.or_eq_false_iff] at hopening hclosing
      simp [step, isOpening, isClosing, hopening, hclosing, hc, Nat.ne_of_gt hdepth]

/-- As long as nothing is closed that was open before a text, only its brackets count. -/
theorem walk_of_countP_lt {depth : Nat} {s : List Char} (hquote : '"' ∉ s)
    (h : ∀ p, p <+: s → p.countP isClosing < depth + p.countP isOpening) :
    walk { depth } s = { depth := depth + s.countP isOpening - s.countP isClosing } := by
  induction s generalizing depth with
  | nil => rfl
  | cons c s ih =>
    have hdepth : 0 < depth := h [] List.nil_prefix
    have hc : c ≠ '"' := fun hc => hquote (hc ▸ List.mem_cons_self)
    have hfirst := h [c] (by simp)
    rw [countP_cons_toNat, countP_cons_toNat, List.countP_nil, List.countP_nil] at hfirst
    have hrest : ∀ p, p <+: s →
        p.countP isClosing < depth + (isOpening c).toNat - (isClosing c).toNat + p.countP isOpening := by
      intro p hp
      have := h (c :: p) (List.cons_prefix_cons.2 ⟨rfl, hp⟩)
      rw [countP_cons_toNat, countP_cons_toNat] at this
      omega
    rw [walk_cons, step_of_depth hdepth hc, ih (List.not_mem_of_not_mem_cons hquote) hrest,
      countP_cons_toNat, countP_cons_toNat]
    congr 1
    omega

/-- Every level that is left again takes a closing bracket. -/
theorem depth_le_walk (nesting : Nesting) (s : List Char) :
    nesting.depth ≤ (nesting.walk s).depth + s.countP isClosing := by
  induction s generalizing nesting with
  | nil => exact Nat.le_refl _
  | cons c s ih =>
    have hstep : nesting.depth ≤ (nesting.step c).depth + (isClosing c).toNat := by
      unfold step
      split_ifs with hquote hquoted hpipe hopening hclosing
      · exact Nat.le_add_right _ _
      · exact Nat.le_add_right _ _
      · exact Nat.le_add_right _ _
      · show nesting.depth ≤ nesting.depth + 1 + (isClosing c).toNat
        omega
      · show nesting.depth ≤ nesting.depth - 1 + (isClosing c).toNat
        rw [show isClosing c = true from hclosing, Bool.toNat_true]
        omega
      · exact Nat.le_add_right _ _
    have := ih (nesting.step c)
    rw [walk_cons, countP_cons_toNat]
    omega

end Nesting

end Flowchart
