-- SUMMARY: White space is apart from word characters, and trimming leaves what stands between white ends.
import Mathlib.Data.List.DropRight
import Mathlib.Data.List.TakeWhile
import Flowchart.Text.White
import Flowchart.Text.Word

/-!
# White space and trimming

A text is trimmed when it neither starts nor ends with white space. Trimming takes a text apart into
white space, a trimmed text and white space again.
-/

namespace Flowchart.Text

/-! ## Classes of characters -/

/-- The code points of white space. -/
def whiteCodes : List Nat :=
  [0x9, 0xA, 0xB, 0xC, 0xD, 0x20, 0x85, 0xA0, 0x1680, 0x2000, 0x2001, 0x2002, 0x2003, 0x2004,
   0x2005, 0x2006, 0x2007, 0x2008, 0x2009, 0x200A, 0x2028, 0x2029, 0x202F, 0x205F, 0x3000]

theorem toNat_mem_whiteCodes {c : Char} (h : isWhite c) : c.toNat ∈ whiteCodes := by
  simp only [isWhite, Ranges.contains, whiteRanges, Ranges.holds, Nat.ble_eq, Bool.if_false_left,
    Bool.and_eq_true, Bool.or_eq_true, Bool.not_eq_eq_eq_not, Bool.not_true,
    decide_eq_false_iff_not, Bool.or_false] at h
  simp only [whiteCodes, List.mem_cons, List.not_mem_nil, or_false]
  omega

theorem isWord_of_mem_whiteCodes : ∀ n ∈ whiteCodes, isWord (Char.ofNat n) = false := by
  decide +kernel

/-- No character of an identifier is white space. -/
theorem isWhite_of_isWord {c : Char} (h : isWord c) : isWhite c = false := by
  cases hwhite : isWhite c with
  | false => rfl
  | true =>
    have hcode := isWord_of_mem_whiteCodes _ (toNat_mem_whiteCodes hwhite)
    rw [Char.ofNat_toNat, h] at hcode
    cases hcode

/-- Blanks are white space. -/
theorem isWhite_of_isBlank {c : Char} (h : isBlank c) : isWhite c := by
  simp only [isBlank, Bool.or_eq_true, beq_iff_eq] at h
  rcases h with rfl | rfl <;> decide

theorem isBlank_of_isWhite_eq_false {c : Char} (h : isWhite c = false) : isBlank c = false := by
  cases hblank : isBlank c with
  | false => rfl
  | true => rw [isWhite_of_isBlank hblank] at h; cases h

theorem isBlank_of_isWord {c : Char} (h : isWord c) : isBlank c = false :=
  isBlank_of_isWhite_eq_false (isWhite_of_isWord h)

theorem isWord_of_isWhite {c : Char} (h : isWhite c) : isWord c = false := by
  rw [Bool.eq_false_iff]
  intro hword
  rw [isWhite_of_isWord hword] at h
  cases h

theorem isWhite_of_forall_isBlank {s : List Char} (h : ∀ c ∈ s, isBlank c) :
    ∀ c ∈ s, isWhite c :=
  fun c hc => isWhite_of_isBlank (h c hc)

/-- Two characters differ if only one of them has a property. -/
theorem ne_of_apply {p : Char → Bool} {c d : Char} (hc : p c) (hd : p d = false) : c ≠ d := by
  rintro rfl
  rw [hc] at hd
  cases hd

/-! ## Trimming -/

/-- What is left after dropping does not start with an element to be dropped. -/
theorem apply_head?_dropWhile {α : Type} (p : α → Bool) (s : List α) :
    ∀ c ∈ (s.dropWhile p).head?, p c = false := by
  intro c hc
  have := List.head?_dropWhile_not p s
  rw [Option.mem_def.1 hc] at this
  simpa using this

/-- A part of the text whose elements are all taken is taken whole, if what follows is not. -/
theorem takeWhile_append_of_head? {α : Type} {p : α → Bool} {s rest : List α} (hs : ∀ c ∈ s, p c)
    (hrest : ∀ c ∈ rest.head?, p c = false) : (s ++ rest).takeWhile p = s := by
  rw [List.takeWhile_append_of_pos hs]
  cases rest with
  | nil => simp
  | cons c rest => simp [hrest c rfl]

theorem dropWhile_append_of_head? {α : Type} {p : α → Bool} {s rest : List α} (hs : ∀ c ∈ s, p c)
    (hrest : ∀ c ∈ rest.head?, p c = false) : (s ++ rest).dropWhile p = rest := by
  rw [List.dropWhile_append_of_pos hs]
  cases rest with
  | nil => rfl
  | cons c rest => exact List.dropWhile_cons_of_neg (by simp [hrest c rfl])

theorem dropWhile_eq_self {α : Type} {p : α → Bool} {s : List α}
    (h : ∀ c ∈ s.head?, p c = false) : s.dropWhile p = s :=
  dropWhile_append_of_head? (s := []) (by simp) h

theorem dropEndWhile_eq_rdropWhile {α : Type} (p : α → Bool) (s : List α) :
    dropEndWhile p s = s.rdropWhile p := rfl

/-- A text that starts another one starts with the same element, if it is not empty. -/
theorem head?_of_isPrefix {α : Type} {s t : List α} (h : s <+: t) : ∀ c ∈ s.head?, c ∈ t.head? := by
  obtain ⟨rest, rfl⟩ := h
  intro c hc
  rw [List.head?_append, Option.mem_def.1 hc]
  rfl

/-- An element that is not dropped keeps everything before it. -/
theorem dropEndWhile_append {α : Type} {p : α → Bool} (s : List α) {t : List α}
    (h : ∃ c ∈ t, p c = false) : dropEndWhile p (s ++ t) = s ++ dropEndWhile p t := by
  have hkept : ¬ (t.reverse.dropWhile p).isEmpty := by
    obtain ⟨c, hc, hpc⟩ := h
    rw [List.isEmpty_iff, List.dropWhile_eq_nil_iff]
    intro hall
    rw [hall c (List.mem_reverse.2 hc)] at hpc
    cases hpc
  rw [dropEndWhile, List.reverse_append, List.dropWhile_append, if_neg hkept, List.reverse_append,
    List.reverse_reverse, dropEndWhile]

/-- It does not matter at which end dropping starts. -/
theorem dropEndWhile_dropWhile {α : Type} (p : α → Bool) (s : List α) :
    dropEndWhile p (s.dropWhile p) = (dropEndWhile p s).dropWhile p := by
  by_cases h : ∃ c ∈ s.dropWhile p, p c = false
  · have hkept := dropEndWhile_append (s.takeWhile p) h
    rw [List.takeWhile_append_dropWhile] at hkept
    rw [hkept, List.dropWhile_append_of_pos fun _ => List.mem_takeWhile_imp]
    refine (dropWhile_eq_self ?_).symm
    intro c hc
    exact apply_head?_dropWhile p s c (head?_of_isPrefix (List.rdropWhile_prefix p _) c hc)
  · have hall : ∀ c ∈ s, p c := by
      intro c hc
      by_contra hpc
      have hne : s.dropWhile p ≠ [] := fun hnil => hpc (List.dropWhile_eq_nil_iff.1 hnil c hc)
      obtain ⟨d, rest, hd⟩ := List.exists_cons_of_ne_nil hne
      exact h ⟨d, by simp [hd], apply_head?_dropWhile p s d (by simp [hd])⟩
    rw [List.dropWhile_eq_nil_iff.2 hall, dropEndWhile, dropEndWhile,
      List.dropWhile_eq_nil_iff.2 fun c hc => hall c (List.mem_reverse.1 hc)]
    rfl

/-- Dropping at both ends does the same in a text that is written backwards. -/
theorem dropEndWhile_dropWhile_reverse {α : Type} (p : α → Bool) (s : List α) :
    dropEndWhile p (s.reverse.dropWhile p) = (dropEndWhile p (s.dropWhile p)).reverse := by
  rw [dropEndWhile_dropWhile, dropEndWhile, dropEndWhile, List.reverse_reverse, List.reverse_reverse]

/-- A text that ends with anything but white space keeps its end. -/
theorem trimEnd_eq_self {s : List Char} (h : ∀ c ∈ s.getLast?, isWhite c = false) :
    trimEnd s = s := by
  rw [trimEnd, dropEndWhile_eq_rdropWhile, List.rdropWhile_eq_self_iff]
  intro hne
  simp [h _ (List.getLast?_eq_some_getLast hne)]

/-- A text that starts with anything but white space keeps its start. -/
theorem trimStart_eq_self {s : List Char} (h : ∀ c ∈ s.head?, isWhite c = false) :
    trimStart s = s :=
  dropWhile_eq_self h

/-- A text without white space at its ends is trimmed. -/
theorem trim_eq_self {s : List Char} (hstart : ∀ c ∈ s.head?, isWhite c = false)
    (hend : ∀ c ∈ s.getLast?, isWhite c = false) : trim s = s := by
  rw [trim, trimStart_eq_self hstart, trimEnd_eq_self hend]

/-- Trimming at the end drops white space only. -/
theorem exists_eq_trimEnd_append (s : List Char) :
    ∃ after, s = trimEnd s ++ after ∧ ∀ c ∈ after, isWhite c :=
  ⟨s.rtakeWhile isWhite, List.rdropWhile_append_rtakeWhile.symm, fun _ => List.mem_rtakeWhile_imp⟩

/-- Trimming takes off white space at both ends. -/
theorem exists_eq_append_trim (s : List Char) :
    ∃ before after, s = before ++ trim s ++ after ∧ (∀ c ∈ before, isWhite c) ∧
      ∀ c ∈ after, isWhite c := by
  obtain ⟨after, hafter, hwhite⟩ := exists_eq_trimEnd_append (trimStart s)
  refine ⟨s.takeWhile isWhite, after, ?_, fun _ => List.mem_takeWhile_imp, hwhite⟩
  rw [trim, List.append_assoc, ← hafter, trimStart, List.takeWhile_append_dropWhile]

theorem trim_isInfix (s : List Char) : trim s <:+: s :=
  (List.rdropWhile_prefix isWhite _).isInfix.trans (List.dropWhile_suffix isWhite).isInfix

theorem trim_sublist (s : List Char) : (trim s).Sublist s :=
  (trim_isInfix s).sublist

/-- What trimming at the end leaves does not end with white space. -/
theorem isWhite_getLast?_trimEnd (s : List Char) : ∀ c ∈ (trimEnd s).getLast?, isWhite c = false := by
  intro c hc
  have hne : trimEnd s ≠ [] := by
    rintro h
    rw [h] at hc
    cases hc
  rw [List.getLast?_eq_some_getLast hne] at hc
  have hlast : ¬ isWhite ((trimEnd s).getLast hne) := List.rdropWhile_last_not isWhite s hne
  rw [Option.mem_some] at hc
  subst hc
  simpa using hlast

/-- What trimming leaves does not start with white space. -/
theorem isWhite_head?_trim (s : List Char) : ∀ c ∈ (trim s).head?, isWhite c = false := by
  intro c hc
  exact apply_head?_dropWhile isWhite s c (head?_of_isPrefix (List.rdropWhile_prefix isWhite _) c hc)

theorem head?_trim_cons {c : Char} (h : isWhite c = false) (s : List Char) :
    (trim (c :: s)).head? = some c := by
  have hstart : trimStart (c :: s) = c :: s := by
    apply trimStart_eq_self
    rintro _ ⟨⟩
    exact h
  obtain ⟨after, hafter, hwhite⟩ := exists_eq_trimEnd_append (c :: s)
  rw [trim, hstart]
  cases htrim : trimEnd (c :: s) with
  | nil =>
    rw [htrim, List.nil_append] at hafter
    rw [hwhite c (by simp [← hafter])] at h
    cases h
  | cons d rest =>
    rw [htrim, List.cons_append] at hafter
    rw [(List.cons.inj hafter).1]
    rfl

theorem trim_reverse (s : List Char) : trim s.reverse = (trim s).reverse :=
  dropEndWhile_dropWhile_reverse isWhite s

@[simp] theorem trim_trim (s : List Char) : trim (trim s) = trim s :=
  trim_eq_self (isWhite_head?_trim s) (isWhite_getLast?_trimEnd _)

/-- A trimmed text has no white space to drop at either end. -/
theorem trimEnd_of_trim {s : List Char} (h : trim s = s) : trimEnd s = s := by
  have hlast := isWhite_getLast?_trimEnd (trimStart s)
  rw [← trim, h] at hlast
  exact trimEnd_eq_self hlast

theorem skipBlanks_of_trim {s : List Char} (h : trim s = s) : skipBlanks s = s := by
  have hhead := isWhite_head?_trim s
  rw [h] at hhead
  exact dropWhile_eq_self fun c hc => isBlank_of_isWhite_eq_false (hhead c hc)

theorem trimEnd_append_white (s : List Char) {t : List Char} (ht : ∀ c ∈ t, isWhite c) :
    trimEnd (s ++ t) = trimEnd s := by
  rw [trimEnd, trimEnd, dropEndWhile, dropEndWhile, List.reverse_append, List.dropWhile_append_of_pos]
  intro c hc
  exact ht c (List.mem_reverse.1 hc)

/-- White space behind a text is taken off with what is white at its end. -/
theorem trim_append_white (s : List Char) {t : List Char} (ht : ∀ c ∈ t, isWhite c) :
    trim (s ++ t) = trim s := by
  rw [trim, trim, trimStart, trimStart, List.dropWhile_append]
  split
  · next hwhite =>
    rw [List.isEmpty_iff.1 hwhite, List.dropWhile_eq_nil_iff.2 ht]
  · exact trimEnd_append_white _ ht

/-- White space before a text is taken off with what is white at its start. -/
theorem trim_white_append {s : List Char} (hs : ∀ c ∈ s, isWhite c) (t : List Char) :
    trim (s ++ t) = trim t := by
  rw [trim, trim, trimStart, trimStart, List.dropWhile_append_of_pos hs]

/-- A text between two trimmed texts is trimmed with them. -/
theorem trim_between {s u : List Char} (hs : trim s = s) (hsne : s ≠ []) (hu : trim u = u)
    (hune : u ≠ []) (t : List Char) : trim (s ++ (t ++ u)) = s ++ (t ++ u) := by
  apply trim_eq_self
  · intro c hc
    rw [List.head?_append_of_ne_nil _ hsne, ← hs] at hc
    exact isWhite_head?_trim s c hc
  · intro c hc
    rw [← List.append_assoc, List.getLast?_append_of_ne_nil _ hune, ← hu] at hc
    exact isWhite_getLast?_trimEnd _ c hc

/-! ## Blanks at the start -/

theorem skipBlanks_blanks_append {front : List Char} (h : ∀ c ∈ front, isBlank c) (s : List Char) :
    skipBlanks (front ++ s) = skipBlanks s :=
  List.dropWhile_append_of_pos h

theorem skipBlanks_eq_nil {s : List Char} (h : ∀ c ∈ s, isBlank c) : skipBlanks s = [] :=
  List.dropWhile_eq_nil_iff.2 h

end Flowchart.Text
