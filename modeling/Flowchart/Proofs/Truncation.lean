-- SUMMARY: When a text that was cut is within the columns it was cut to, and by how much it can go beyond them.
import Mathlib.Tactic.SplitIfs
import Flowchart.Proofs.Cell
import Flowchart.Proofs.Width

/-!
# Cutting to a width

A text is cut by the columns that its characters take on their own, but its width is that of the text
as a whole. Most characters take no more columns in a text than on their own. The exceptions are
control characters, which have no width of their own and count one column each, and the variation
selectors that make the character before them wider. Only by so many columns can a cut text be too
wide.
-/

namespace Flowchart.Text

/-! ## Columns of characters on their own -/

/-- The columns of a character on its own, as cutting counts them. -/
def columnsAlone (c : Char) : Nat :=
  (charWidth? c).getD 0

/-- The columns of the characters of a text, each on its own. -/
def columnsApart : List Char → Nat
  | [] => 0
  | c :: s => columnsAlone c + columnsApart s

@[simp] theorem columnsApart_nil : columnsApart [] = 0 := rfl

@[simp] theorem columnsApart_cons (c : Char) (s : List Char) :
    columnsApart (c :: s) = columnsAlone c + columnsApart s :=
  rfl

/-- What is kept leaves a column free for the mark. -/
theorem columnsApart_takeColumns_lt {max used : Nat} (h : used < max) (s : List Char) :
    used + columnsApart (takeColumns max used s) < max := by
  fun_induction takeColumns max used s with
  | case1 => simpa using h
  | case2 => simpa using h
  | case3 used c rest width hfits ih =>
    have hrest := ih (by omega)
    rw [columnsApart_cons, ← Nat.add_assoc]
    exact hrest

/-- No longer start of the text leaves a column free. -/
theorem isPrefix_takeColumns {max used : Nat} {start s : List Char} (hstart : start <+: s)
    (hfree : used + columnsApart start < max) : start <+: takeColumns max used s := by
  induction s generalizing start used with
  | nil => simpa [takeColumns] using hstart
  | cons c rest ih =>
    cases start with
    | nil => exact List.nil_prefix
    | cons d start =>
      obtain ⟨rfl, hrest⟩ := List.cons_prefix_cons.1 hstart
      rw [columnsApart_cons, ← Nat.add_assoc] at hfree
      have hfits : ¬ used + columnsAlone d + 1 > max := by omega
      have hkept : takeColumns max used (d :: rest) =
          d :: takeColumns max (used + columnsAlone d) rest := if_neg hfits
      rw [hkept]
      exact (List.prefix_cons_inj d).2 (ih hrest hfree)

/-! ## Characters that take more columns in a text -/

/-- The selectors U+FE0F and U+FE01, which make the character before them wider. -/
def isWidening (c : Char) : Bool :=
  c.toNat == 0xFE0F || c.toNat == 0xFE01

/-- A character for which a text can take one column more than its characters on their own. -/
def isUndercounted (c : Char) : Bool :=
  (charWidth? c).isNone || isWidening c

/-- The columns by which what follows a character has fallen short of its characters on their own.
    Flags that were tied together can take them back. -/
def Joint.saved : Joint → Int
  | .joinedFlags even => if even then 2 else 0
  | _ => 0

/-- The columns that the selectors can add to the character before them. -/
def Selectors.promised (selectors : Selectors) : Int :=
  selectors.emoji.toNat + selectors.fullwidth.toNat

/-- The columns that the next character can take beyond its own. -/
def Follow.reserve (follow : Follow) : Int :=
  follow.joint.saved + follow.selectors.promised

theorem Joint.saved_nonneg (joint : Joint) : 0 ≤ joint.saved := by
  fun_cases Joint.saved joint <;> grind

theorem Joint.saved_tied (joint : Joint) : joint.tied.saved = joint.saved := by
  cases joint <;> rfl

theorem Selectors.promised_nonneg (selectors : Selectors) : 0 ≤ selectors.promised :=
  Int.add_nonneg (Int.natCast_nonneg _) (Int.natCast_nonneg _)

theorem Follow.reserve_nonneg (follow : Follow) : 0 ≤ follow.reserve :=
  Int.add_nonneg follow.joint.saved_nonneg follow.selectors.promised_nonneg

@[simp] theorem Follow.reserve_bare (joint : Joint) : reserve ⟨joint, .none⟩ = joint.saved :=
  Int.add_zero _

@[simp] theorem Follow.reserve_nothing : nothing.reserve = 0 := rfl

theorem Follow.reserve_kept_le (next : Follow) : next.kept.reserve ≤ next.reserve := by
  unfold Follow.kept
  split
  · exact Int.le_refl _
  · exact next.reserve_nonneg

/-! ## Characters without columns of their own -/

theorem Ranges.holds_cons_iff {code first last : Nat} {ranges : Ranges} :
    holds code ((first, last) :: ranges) ↔ first ≤ code ∧ (code ≤ last ∨ ranges.holds code) := by
  simp [holds]

/-- No code point is in both of two lists of ranges. Both are gone through only once. -/
def Ranges.apart : Ranges → Ranges → Bool
  | [], _ => true
  | (first, last) :: ranges, others =>
    match others.dropWhile (·.2 < first) with
    | [] => true
    | other :: others => last < other.1 && apart ranges (other :: others)

/-- Ranges that end before a code point do not matter for it. -/
theorem Ranges.holds_dropWhile {ranges : Ranges} {first code : Nat} (hfirst : first ≤ code)
    (h : ranges.holds code) :
    holds code (ranges.dropWhile (·.2 < first)) := by
  induction ranges with
  | nil => exact h
  | cons range ranges ih =>
    rw [List.dropWhile_cons]
    split
    · next hbefore =>
      have hlast : range.2 < first := of_decide_eq_true hbefore
      obtain ⟨-, hin | hrest⟩ := holds_cons_iff.1 h
      · omega
      · exact ih hrest
    · exact h

theorem Ranges.not_holds_of_apart {ranges others : Ranges} {code : Nat} (hapart : ranges.apart others)
    (h : ranges.holds code) : others.holds code = false := by
  rw [Bool.eq_false_iff]
  intro hother
  fun_induction apart ranges others with
  | case1 => cases h
  | case2 others first last ranges hdropped =>
    have hahead := holds_dropWhile (holds_cons_iff.1 h).1 hother
    rw [hdropped] at hahead
    cases hahead
  | case3 others first last ranges other ahead hdropped ih =>
    obtain ⟨hfirst, hin⟩ := holds_cons_iff.1 h
    have hahead := holds_dropWhile hfirst hother
    rw [hdropped] at hahead
    obtain ⟨hbefore, hrest⟩ := Bool.and_eq_true_iff.1 hapart
    have hbehind := (holds_cons_iff.1 hahead).1
    have hlast := of_decide_eq_true hbefore
    exact ih hrest (hin.resolve_left (by omega)) hahead

/-- The characters that have no columns of their own: control characters and those of width zero. -/
def emptyRanges : Ranges :=
  (0, 0x1F) :: (0x7F, 0x9F) :: zeroWidthRanges

theorem holds_zeroWidthRanges {n : Nat} (h : (plainWidth n).1 = 0) : zeroWidthRanges.holds n := by
  have hselectors : ∀ n ∈ [0xFE01, 0xFE0E, 0xFE0F], zeroWidthRanges.holds n := by decide +kernel
  fun_cases plainWidth n <;> simp_all [plainWidth]

theorem holds_emptyRanges {c : Char} (h : columnsAlone c = 0) : emptyRanges.holds c.toNat := by
  have hwidth : charWidth? c = none ∨ charWidth? c = some 0 := by
    cases hwidth : charWidth? c <;> simp_all [columnsAlone]
  simp only [charWidth?] at hwidth
  simp only [emptyRanges, Ranges.holds_cons_iff]
  split_ifs at hwidth with hcontrol hlow
  · grind
  · simp at hwidth
  · have hzero := holds_zeroWidthRanges (by simpa using hwidth)
    grind

theorem columnsAlone_pos {ranges : Ranges} (hapart : ranges.apart emptyRanges) {c : Char}
    (h : ranges.holds c.toNat) : 1 ≤ columnsAlone c := by
  by_contra hnone
  have hempty := holds_emptyRanges (Nat.eq_zero_of_not_pos hnone)
  rw [Ranges.not_holds_of_apart hapart h] at hempty
  cases hempty

theorem columnsAlone_of_emojiSelectable {c : Char} (h : emojiSelectableRanges.holds c.toNat) :
    1 ≤ columnsAlone c :=
  columnsAlone_pos (by decide +kernel) h

theorem columnsAlone_of_textSelectable {c : Char} (h : textSelectableRanges.holds c.toNat) :
    1 ≤ columnsAlone c :=
  columnsAlone_pos (by decide +kernel) h

/-! ## One more character -/

theorem columnsAlone_eq_plainWidth {c : Char} (h : ¬ c.toNat ≤ 0xA0) :
    columnsAlone c = (plainWidth c.toNat).1 := by
  have hprintable : charWidth? c = some (plainWidth c.toNat).1 := by
    have hlow : ¬ (c.toNat < 0x20 ∨ (0x7F ≤ c.toNat ∧ c.toNat < 0xA0)) := by omega
    simp [charWidth?, hlow, h]
  rw [columnsAlone, hprintable, Option.getD_some]

/-- A character up to U+00A0 has one column, or is a control character and counted as one. -/
theorem columnsAlone_add_of_le {c : Char} (h : c.toNat ≤ 0xA0) :
    columnsAlone c + (isUndercounted c).toNat = 1 := by
  have hplain : isWidening c = false := by
    simp only [isWidening, Bool.or_eq_false_iff, beq_eq_false_iff_ne]
    omega
  have hwidth : charWidth? c = none ∨ charWidth? c = some 1 := by
    simp only [charWidth?]
    split_ifs
    · exact .inl rfl
    · exact .inr rfl
  rcases hwidth with hnone | hone
  · simp [columnsAlone, isUndercounted, hnone]
  · simp [columnsAlone, isUndercounted, hone, hplain]

theorem plainWidth_regionalIndicator {n : Nat} (h : isRegionalIndicator n) : (plainWidth n).1 = 1 := by
  simp [isRegionalIndicator] at h
  have hall : ∀ n ∈ List.range' 0x1F1E6 26, (plainWidth n).1 = 1 := by decide +kernel
  exact hall n (by rw [List.mem_range'_1]; omega)

/-- Joining takes no more columns than the character on its own and what was saved. -/
theorem Joint.saved_add_le_of_join? {joint left : Joint} {n : Nat} {width : Int}
    (h : joint.join? n = some (width, left)) :
    left.saved + width ≤ joint.saved + (plainWidth n).1 := by
  have hindicator := @plainWidth_regionalIndicator n
  have hjoiner : (plainWidth 0x2D7F).1 = 1 := by decide +kernel
  have hvowel : (plainWidth 0x16D68).1 = 1 := by decide +kernel
  cases joint <;> grind [Joint.join?, Joint.saved]

/-- Only the selectors leave anything for the character before them. -/
theorem reserve_plainWidth {n : Nat} (hemoji : n ≠ 0xFE0F) (hfullwidth : n ≠ 0xFE01) :
    (plainWidth n).2.reserve = 0 := by
  fun_cases plainWidth n <;> first | rfl | grind

theorem columnsAlone_of_isQuotationMark {c : Char} (h : isQuotationMark c.toNat) :
    columnsAlone c = 1 := by
  have hall : ∀ n ∈ [0x2018, 0x2019, 0x201C, 0x201D], columnsAlone (Char.ofNat n) = 1 := by
    decide +kernel
  have hcode := hall c.toNat (by simpa [isQuotationMark, or_assoc] using h)
  rwa [Char.ofNat_toNat] at hcode

theorem Follow.reserve_asked_le (next : Follow) :
    (if next.selectors.emoji then
      ⟨next.kept.joint, { next.kept.selectors with emoji := false }⟩ else next : Follow).reserve ≤
      next.reserve := by
  split
  · have hkept := next.reserve_kept_le
    simp only [reserve, Selectors.promised] at hkept ⊢
    have hemoji := Int.natCast_nonneg next.kept.selectors.emoji.toNat
    simp only [Bool.toNat_false]
    omega
  · exact Int.le_refl _

theorem Follow.reserve_le_of_eq {next : Follow} {joint : Joint} {selectors : Selectors} {most : Int}
    (h : next = ⟨joint, selectors⟩) (hmost : next.reserve ≤ most) :
    joint.saved + selectors.promised ≤ most := by
  rwa [h] at hmost

theorem Selectors.promised_emoji_le (selectors : Selectors) :
    ({ selectors with emoji := true } : Selectors).promised ≤ selectors.promised + 1 := by
  simp only [promised, Bool.toNat_true]
  omega

theorem Selectors.promised_fullwidth_le (selectors : Selectors) :
    ({ selectors with fullwidth := true } : Selectors).promised ≤ selectors.promised + 1 := by
  simp only [promised, Bool.toNat_true]
  omega

theorem isUndercounted_of_mem {c : Char} (h : c.toNat = 0xFE0F ∨ c.toNat = 0xFE01) :
    isUndercounted c := by
  simp [isUndercounted, isWidening, h]

/-- A character takes no more columns than on its own and what is kept in reserve, and one more if it
    is undercounted. -/
theorem reserve_widthBefore_le (c : Char) (next : Follow) :
    (widthBefore c next).2.reserve + (widthBefore c next).1 ≤
      next.reserve + columnsAlone c + (isUndercounted c).toNat := by
  have hnonneg := next.reserve_nonneg
  have hasked := next.reserve_asked_le
  fun_cases widthBefore c next with
  | case1 n hemoji =>
    obtain ⟨hselected, hselectable⟩ := Bool.and_eq_true_iff.1 hemoji
    have halone := columnsAlone_of_emojiSelectable hselectable
    have hpromised : 1 ≤ next.reserve := by
      have hsaved := next.joint.saved_nonneg
      simp only [Follow.reserve, Selectors.promised, hselected, Bool.toNat_true]
      omega
    have htwo : (if next.joint.isGlued then 0 else 2 : Int) ≤ 2 := by split <;> decide
    simp only [Follow.reserve_bare, Joint.saved]
    omega
  | case2 n _ asked joint selectors heq hlow | case3 n _ asked joint selectors heq hlow
  | case4 n _ asked joint selectors heq hlow =>
    have halone := columnsAlone_add_of_le hlow
    simp only [Follow.reserve_bare, Follow.reserve_nothing, Joint.saved]
    omega
  | case5 n _ asked joint selectors heq _ hselector left =>
    have hcounted : isUndercounted c := isUndercounted_of_mem (.inl hselector)
    have hleft : left.reserve ≤ next.reserve := by
      unfold left
      split
      · exact hasked
      · exact Int.le_trans asked.reserve_kept_le hasked
    have hmore := left.selectors.promised_emoji_le
    simp only [Follow.reserve, hcounted, Bool.toNat_true] at hleft ⊢
    omega
  | case6 n _ asked =>
    have hkept := Int.le_trans asked.reserve_kept_le hasked
    simp only [Follow.reserve, Selectors.promised] at hkept ⊢
    omega
  | case7 n _ asked joint selectors heq _ _ _ hselector =>
    have hcounted : isUndercounted c := isUndercounted_of_mem (.inr hselector)
    have hkept := Int.le_trans asked.reserve_kept_le hasked
    have hmore := asked.kept.selectors.promised_fullwidth_le
    simp only [Follow.reserve, hcounted, Bool.toNat_true] at hkept ⊢
    omega
  | case8 n _ asked joint selectors heq _ _ _ _ htext =>
    have halone := columnsAlone_of_textSelectable (Bool.and_eq_true_iff.1 htext).2
    simp only [Follow.reserve_nothing]
    omega
  | case9 n _ asked joint selectors heq hlow _ _ _ _ hquote =>
    obtain ⟨hselected, hmark⟩ := Bool.and_eq_true_iff.1 hquote
    have halone := columnsAlone_of_isQuotationMark hmark
    have hpart := Follow.reserve_le_of_eq heq hasked
    have hsaved := joint.saved_nonneg
    simp only [Selectors.promised, hselected, Bool.toNat_true] at hpart
    simp only [Follow.reserve_nothing]
    omega
  | case10 n _ asked joint selectors heq =>
    have hpart := Follow.reserve_le_of_eq heq hasked
    have hpromised := selectors.promised_nonneg
    simp only [Follow.reserve_bare, joint.saved_tied]
    omega
  | case11 n _ asked joint selectors heq =>
    have hpart := Follow.reserve_le_of_eq heq hasked
    have hpromised := selectors.promised_nonneg
    simp only [Follow.reserve_bare]
    omega
  | case12 n _ asked joint selectors heq hlow _ _ _ _ _ _ _ width left hjoin =>
    have hpart := Follow.reserve_le_of_eq heq hasked
    have hpromised := selectors.promised_nonneg
    have hwidth := Joint.saved_add_le_of_join? hjoin
    have halone : columnsAlone c = (plainWidth n).1 := columnsAlone_eq_plainWidth hlow
    simp only [Follow.reserve_bare]
    omega
  | case13 n _ asked joint selectors heq hlow hemoji _ hfullwidth =>
    have hplain : (plainWidth n).2.reserve = 0 := reserve_plainWidth hemoji hfullwidth
    have halone : columnsAlone c = (plainWidth n).1 := columnsAlone_eq_plainWidth hlow
    simp only [hplain]
    omega

/-! ## Cut texts -/

/-- A text takes no more columns than its characters on their own, and one for each that is
    undercounted. -/
theorem displayWidth_le (s : List Char) :
    displayWidth s ≤ columnsApart s + s.countP isUndercounted := by
  have hreserve : (widthAndStart s).2.reserve + (widthAndStart s).1 ≤
      columnsApart s + s.countP isUndercounted := by
    induction s with
    | nil => decide
    | cons c rest ih =>
      have hstep := reserve_widthBefore_le c (widthAndStart rest).2
      have hcount : (c :: rest).countP isUndercounted =
          rest.countP isUndercounted + (isUndercounted c).toNat := by
        rw [List.countP_cons]
        cases isUndercounted c <;> rfl
      rw [columnsApart_cons, hcount]
      simp only [widthAndStart]
      omega
  have hnonneg := (widthAndStart s).2.reserve_nonneg
  rw [displayWidth, Int.toNat_le]
  omega

/-- The mark of a cut joins with nothing and takes one column. -/
theorem displayWidth_append_cutMark (s : List Char) :
    displayWidth (s ++ [cutMark]) = displayWidth s + 1 := by
  have hjoin : (widthAndStart [cutMark]).2 = .nothing := by decide +kernel
  have hone : displayWidth [cutMark] = 1 := by decide +kernel
  rw [displayWidth_append s hjoin, hone]

/-- A text is cut to its longest start whose characters, on their own, leave one of `max` columns free
    for the mark. It is within `max` columns exactly if that start leaves one free as a whole. Beyond them
    it goes by one column at most for every control character and every widening selector kept, so a text
    without those is always within them. -/
theorem displayWidth_truncateToWidth_le_iff (s : List Char) {max : Nat} (h : 1 ≤ max) :
    ∃ kept, kept <+: s ∧ columnsApart kept < max ∧
      (∀ start, start <+: s → columnsApart start < max → start <+: kept) ∧
      truncateToWidth s max = (if displayWidth s ≤ max then s else kept ++ ['…']) ∧
      (displayWidth (truncateToWidth s max) ≤ max ↔ displayWidth s ≤ max ∨ displayWidth kept < max) ∧
      displayWidth (truncateToWidth s max) ≤ max + kept.countP isUndercounted ∧
      ((∀ c ∈ s, isUndercounted c = false) → displayWidth (truncateToWidth s max) ≤ max) := by
  have hfront := takeColumns_isPrefix max 0 s
  have hkept : columnsApart (takeColumns max 0 s) < max := by
    simpa using columnsApart_takeColumns_lt h s
  have hiff : displayWidth (truncateToWidth s max) ≤ max ↔
      displayWidth s ≤ max ∨ displayWidth (takeColumns max 0 s) < max := by
    by_cases hfits : displayWidth s ≤ max
    · simp [truncateToWidth, hfits]
    · rw [truncateToWidth, if_neg hfits, displayWidth_append_cutMark, or_iff_right hfits]
      exact Nat.succ_le_iff
  have hbound : displayWidth (truncateToWidth s max) ≤
      max + (takeColumns max 0 s).countP isUndercounted := by
    unfold truncateToWidth
    split
    · next hfits => exact Nat.le_add_right_of_le hfits
    · have hwidth := displayWidth_le (takeColumns max 0 s)
      rw [displayWidth_append_cutMark]
      omega
  refine ⟨takeColumns max 0 s, hfront, hkept, ?_, rfl, hiff, hbound, ?_⟩
  · intro start hstart hfree
    exact isPrefix_takeColumns hstart (by simpa using hfree)
  · intro hplain
    have hcount : (takeColumns max 0 s).countP isUndercounted = 0 := by
      refine List.countP_eq_zero.2 fun c hc => ?_
      simp [hplain c (hfront.subset hc)]
    rwa [hcount] at hbound

/-- Warning signs in their emoji form take two columns each, but are cut as if they took one. -/
theorem displayWidth_truncateToWidth_le_iff_signs :
    let signs := "⚠️⚠️⚠️".toList
    1 ≤ 3 ∧ truncateToWidth signs 3 = "⚠️⚠️…".toList ∧ ¬ displayWidth (truncateToWidth signs 3) ≤ 3 := by
  intro signs
  have hpositive : 1 ≤ 3 := by decide
  have htoo : ¬ displayWidth signs ≤ 3 := by decide +kernel
  have hresult : truncateToWidth signs 3 = "⚠️⚠️".toList ++ ['…'] := by decide +kernel
  obtain ⟨kept, -, -, -, hcut, hiff, -⟩ := displayWidth_truncateToWidth_le_iff signs hpositive
  rw [hresult, if_neg htoo] at hcut
  obtain rfl := List.append_cancel_right hcut
  have hkept : ¬ displayWidth "⚠️⚠️".toList < 3 := by decide +kernel
  exact ⟨hpositive, hresult, fun hle => (hiff.1 hle).elim htoo hkept⟩

end Flowchart.Text
