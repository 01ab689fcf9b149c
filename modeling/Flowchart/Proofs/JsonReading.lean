-- SUMMARY: Typed readers of JSON: what they read is what is skipped, and what follows a value does not change it.
import Flowchart.Json.Shapes
import Flowchart.Proofs.JsonText

/-!
# Reading JSON values

A typed reader rejects what is not of its type, and what it reads is one whole value: it leaves what
skipping the value leaves. A number is read in the same way wherever it stands, as long as what follows
does not go on with it.
-/

namespace Flowchart.Json

/-! ## Numbers -/

section Digits

variable {rest : List Char} (hrest : ∀ c ∈ rest.head?, c.isDigit = false)

include hrest

theorem dropWhile_digits_append (s : List Char) : dropDigits (s ++ rest) = dropDigits s ++ rest := by
  induction s with
  | nil => exact dropDigits_append (s := []) (by simp) hrest
  | cons c s ih =>
    rw [dropDigits, dropDigits, List.cons_append, List.dropWhile_cons, List.dropWhile_cons]
    split
    · exact ih
    · rfl

theorem takeWhile_digits_append (s : List Char) :
    (s ++ rest).takeWhile Char.isDigit = s.takeWhile Char.isDigit := by
  induction s with
  | nil =>
    cases rest with
    | nil => rfl
    | cons c rest => exact List.takeWhile_cons_of_neg (by simp [hrest c rfl])
  | cons c s ih =>
    rw [List.cons_append, List.takeWhile_cons, List.takeWhile_cons, ih]

theorem extendSignificand_append (significand used : Nat) (s : List Char) :
    extendSignificand significand used (s ++ rest) =
      ((extendSignificand significand used s).1, (extendSignificand significand used s).2.1,
        (extendSignificand significand used s).2.2 ++ rest) := by
  fun_induction extendSignificand significand used s with
  | case1 significand used =>
    cases rest with
    | nil => rfl
    | cons c rest =>
      rw [List.nil_append, extendSignificand, if_neg (by simp [hrest c rfl])]
  | case2 significand used c s more h ih => rw [List.cons_append, extendSignificand, if_pos h, ih]
  | case3 significand used c s more h => rw [List.cons_append, extendSignificand, if_neg h]

theorem extendExponent_append (exponent : Nat) (s : List Char) :
    extendExponent exponent (s ++ rest) =
      ((extendExponent exponent s).1, (extendExponent exponent s).2 ++ rest) := by
  fun_induction extendExponent exponent s with
  | case1 exponent =>
    cases rest with
    | nil => rfl
    | cons c rest =>
      rw [List.nil_append, extendExponent, if_neg (by simp [hrest c rfl])]
  | case2 exponent c s hc more h ih =>
    rw [List.cons_append, extendExponent, if_pos hc]
    exact (if_pos h).trans ih
  | case3 exponent c s hc more h =>
    rw [List.cons_append, extendExponent, if_pos hc]
    exact if_neg h
  | case4 exponent c s hc => rw [List.cons_append, extendExponent, if_neg hc]

end Digits

/-- The digits that a significand takes are dropped anyway. -/
theorem dropDigits_extendSignificand (significand used : Nat) (s : List Char) :
    dropDigits (extendSignificand significand used s).2.2 = dropDigits s := by
  fun_induction extendSignificand significand used s with
  | case1 => rfl
  | case2 significand used c s more h ih =>
    rw [ih, dropDigits, dropDigits, List.dropWhile_cons_of_pos (Bool.and_eq_true_iff.1 h).1]
  | case3 => rfl

/-- So are the digits that an exponent takes. -/
theorem dropDigits_extendExponent (exponent : Nat) (s : List Char) :
    dropDigits (extendExponent exponent s).2 = dropDigits s ∧
      ((extendExponent exponent s).1.isSome →
        dropDigits (extendExponent exponent s).2 = (extendExponent exponent s).2) := by
  fun_induction extendExponent exponent s with
  | case1 => exact ⟨rfl, fun _ => rfl⟩
  | case2 exponent c s hc more h ih =>
    rw [dropDigits, dropDigits, List.dropWhile_cons_of_pos hc]
    exact ih
  | case3 exponent c s hc more h =>
    rw [dropDigits, dropDigits, List.dropWhile_cons_of_pos hc]
    exact ⟨rfl, fun hsome => absurd hsome (by simp)⟩
  | case4 exponent c s hc => exact ⟨rfl, fun _ => List.dropWhile_cons_of_neg hc⟩

theorem realNumber_eq {positive : Bool} {significand : Nat} {exponent : Int} {s rest : List Char}
    {number : Number} (h : realNumber positive significand exponent s = .ok (number, rest)) :
    rest = s ∧ ∀ t, realNumber positive significand exponent t = .ok (number, t) := by
  rw [realNumber] at h
  split at h
  · next value hvalue =>
    cases h
    exact ⟨rfl, fun t => by rw [realNumber, hvalue]⟩
  · cases h

theorem readExponentSign_cons_append (c : Char) (s rest : List Char) :
    readExponentSign (c :: (s ++ rest)) =
      ((readExponentSign (c :: s)).1, (readExponentSign (c :: s)).2 ++ rest) := by
  rw [readExponentSign.eq_def, readExponentSign.eq_def (c :: s)]
  split
  · next heq => obtain ⟨rfl, rfl⟩ := List.cons.inj heq; rfl
  · next heq => obtain ⟨rfl, rfl⟩ := List.cons.inj heq; rfl
  · next hplus hminus =>
    split
    · next heq => obtain ⟨rfl, rfl⟩ := List.cons.inj heq; exact absurd rfl (hplus _)
    · next heq => obtain ⟨rfl, rfl⟩ := List.cons.inj heq; exact absurd rfl (hminus _)
    · rfl

/-- An exponent is read as it is skipped, and in the same way before anything that stops it. -/
theorem readExponent_eq {positive : Bool} {significand : Nat} {start : Int} {s rest : List Char}
    {number : Number} (h : readExponent positive significand start s = .ok (number, rest)) :
    skipExponent s = .ok rest ∧
      (rest = [] → ∀ t, Stops t → readExponent positive significand start (s ++ t) = .ok (number, t)) := by
  cases s with
  | nil => cases h
  | cons d s =>
    rw [readExponent.eq_def] at h
    rw [skipExponent]
    simp only at h
    split at h
    · cases h
    · next c u hu =>
      split at h
      · cases h
      · next hc =>
        have hdigit : c.isDigit := by simpa using hc
        simp only [if_pos hdigit]
        have happend (t : List Char) (ht : Stops t) :=
          extendExponent_append (fun c hc => (ht c hc).1) (c.toNat - '0'.toNat) u
        obtain ⟨hdrop, hsome⟩ := dropDigits_extendExponent (c.toNat - '0'.toNat) u
        split at h
        · next exponent v hv =>
          obtain ⟨rfl, hreal⟩ := realNumber_eq h
          rw [hv] at hdrop hsome
          rw [← hdrop, hsome rfl]
          refine ⟨rfl, fun hnil t ht => ?_⟩
          rw [List.cons_append, readExponent, readExponentSign_cons_append, hu]
          simp only [List.cons_append, if_neg hc, happend t ht, hv]
          rw [hnil]
          exact hreal t
        · next v hv =>
          split at h
          · cases h
          · next hsmall =>
            cases h
            rw [hv] at hdrop
            rw [← hdrop]
            refine ⟨rfl, fun hnil t ht => ?_⟩
            rw [List.cons_append, readExponent, readExponentSign_cons_append, hu]
            simp only [List.cons_append, if_neg hc, happend t ht, hv, if_neg hsmall]
            rw [dropWhile_digits_append (fun c hc => (ht c hc).1), hnil]
            rfl

/-- What is behind the fraction of a number, and the number it completes. -/
def readPastFraction (positive : Bool) (significand : Nat) (exponent : Int) :
    List Char → Reading (Number × List Char)
  | 'e' :: rest | 'E' :: rest => readExponent positive significand exponent rest
  | rest => realNumber positive significand exponent rest

theorem readPastFraction_eq {positive : Bool} {significand : Nat} {exponent : Int}
    {s rest : List Char} {number : Number}
    (h : readPastFraction positive significand exponent s = .ok (number, rest)) :
    skipPastFraction s = .ok rest ∧
      (rest = [] → ∀ t, Stops t →
        readPastFraction positive significand exponent (s ++ t) = .ok (number, t)) := by
  rw [readPastFraction.eq_def] at h
  split at h
  · exact readExponent_eq h
  · exact readExponent_eq h
  · next he hE =>
    obtain ⟨rfl, hreal⟩ := realNumber_eq h
    refine ⟨skipPastFraction.eq_3 _ he hE, ?_⟩
    rintro rfl t ht
    obtain ⟨-, hte, htE⟩ := ht.ne_cons
    rw [List.nil_append, readPastFraction.eq_3 _ _ _ _ hte htE, hreal]

theorem readFraction_cons (positive : Bool) (significand : Nat) (start : Int) {c : Char}
    (hc : c.isDigit) (s : List Char) :
    readFraction positive significand start (c :: s) =
      readPastFraction positive (extendSignificand significand 0 (c :: s)).1
        (start - (extendSignificand significand 0 (c :: s)).2.1)
        (dropDigits (extendSignificand significand 0 (c :: s)).2.2) := by
  rw [readFraction, if_neg (by simp [hc])]
  rfl

theorem readFraction_eq {positive : Bool} {significand : Nat} {start : Int} {s rest : List Char}
    {number : Number} (h : readFraction positive significand start s = .ok (number, rest)) :
    skipFraction s = .ok rest ∧
      (rest = [] → ∀ t, Stops t → readFraction positive significand start (s ++ t) = .ok (number, t)) := by
  cases s with
  | nil => cases h
  | cons c s =>
    by_cases hc : c.isDigit
    · rw [readFraction_cons _ _ _ hc] at h
      obtain ⟨hskip, hlocal⟩ := readPastFraction_eq h
      rw [skipFraction_eq, if_neg (by simp [hc])]
      rw [dropDigits_extendSignificand] at hskip
      refine ⟨hskip, fun hnil t ht => ?_⟩
      have hdigit := fun c hc => (ht c hc).1
      rw [List.cons_append, readFraction_cons _ _ _ hc, ← List.cons_append,
        extendSignificand_append hdigit]
      simp only [dropWhile_digits_append hdigit]
      exact hlocal hnil t ht
    · rw [readFraction, if_pos (by simpa using hc)] at h
      cases h

theorem readAfterInteger_eq {positive : Bool} {significand dropped : Nat} {s rest : List Char}
    {number : Number}
    (h : readNumber.readAfterInteger positive significand dropped s = .ok (number, rest)) :
    skipPastWhole s = .ok rest ∧
      (rest = [] → ∀ t, Stops t →
        readNumber.readAfterInteger positive significand dropped (s ++ t) = .ok (number, t)) := by
  rw [readNumber.readAfterInteger.eq_def] at h
  split at h
  · exact readFraction_eq h
  · exact readExponent_eq h
  · exact readExponent_eq h
  · next hdot he hE =>
    rw [skipPastWhole.eq_4 _ hdot he hE]
    split at h
    · next hzero =>
      cases h
      refine ⟨rfl, ?_⟩
      rintro rfl t ht
      obtain ⟨htdot, hte, htE⟩ := ht.ne_cons
      rw [List.nil_append, readNumber.readAfterInteger.eq_4 _ _ _ _ htdot hte htE, if_pos hzero]
    · next hzero =>
      obtain ⟨rfl, hreal⟩ := realNumber_eq h
      refine ⟨rfl, ?_⟩
      rintro rfl t ht
      obtain ⟨htdot, hte, htE⟩ := ht.ne_cons
      rw [List.nil_append, readNumber.readAfterInteger.eq_4 _ _ _ _ htdot hte htE, if_neg hzero,
        hreal]

theorem readNumber_zero (positive : Bool) {s : List Char} (hs : ∀ d ∈ s.head?, d.isDigit = false) :
    readNumber positive ('0' :: s) = readNumber.readAfterInteger positive 0 0 s := by
  cases s with
  | nil => rfl
  | cons c s => rw [readNumber, if_neg (by simp [hs c rfl])]

theorem readNumber_cons (positive : Bool) {c : Char} (hc : c.isDigit) (hzero : c ≠ '0') (s : List Char) :
    readNumber positive (c :: s) =
      readNumber.readAfterInteger positive (extendSignificand 0 0 (c :: s)).1
        ((extendSignificand 0 0 (c :: s)).2.2.takeWhile Char.isDigit).length
        (dropDigits (extendSignificand 0 0 (c :: s)).2.2) := by
  rw [readNumber.eq_3 _ _ _ fun _ _ h _ => hzero h, if_pos hc]

/-- Only digits start a number, and no digit follows a leading zero. -/
theorem of_readNumber {positive : Bool} {s rest : List Char} {number : Number}
    (h : readNumber positive s = .ok (number, rest)) :
    ∃ c t, s = c :: t ∧ c.isDigit ∧ (c = '0' → ∀ d ∈ t.head?, d.isDigit = false) := by
  rw [readNumber.eq_def] at h
  split at h
  · cases h
  · next d t =>
    split at h
    · cases h
    · next hd => exact ⟨'0', d :: t, rfl, rfl, fun _ _ he => Option.some.inj he ▸ by simpa using hd⟩
  · next c t hshort =>
    split at h
    · next hc =>
      refine ⟨c, t, rfl, hc, fun hzero d hd => ?_⟩
      obtain ⟨more, rfl⟩ := List.head?_eq_some_iff.1 hd
      exact absurd rfl (hshort d more hzero)
    · cases h

/-- A number is read as it is skipped, and in the same way before anything that stops it. -/
theorem readNumber_eq {positive : Bool} {s rest : List Char} {number : Number}
    (h : readNumber positive s = .ok (number, rest)) :
    skipNumber s = .ok rest ∧
      (rest = [] → ∀ t, Stops t → readNumber positive (s ++ t) = .ok (number, t)) := by
  obtain ⟨c, u, rfl, hc, hzero⟩ := of_readNumber h
  rw [skipNumber_cons hc hzero]
  by_cases heq : c = '0'
  · subst heq
    have hu := hzero rfl
    rw [readNumber_zero _ hu] at h
    obtain ⟨hskip, hlocal⟩ := readAfterInteger_eq h
    have hdrop : dropDigits u = u := dropDigits_append (s := []) (by simp) hu
    refine ⟨by rwa [hdrop], fun hnil t ht => ?_⟩
    rw [List.cons_append, readNumber_zero]
    · exact hlocal hnil t ht
    · intro d hd
      cases u with
      | nil => exact (ht d hd).1
      | cons e u => exact hu d hd
  · rw [readNumber_cons _ hc heq] at h
    obtain ⟨hskip, hlocal⟩ := readAfterInteger_eq h
    rw [dropDigits_extendSignificand, dropDigits, List.dropWhile_cons_of_pos hc] at hskip
    refine ⟨hskip, fun hnil t ht => ?_⟩
    have hdigit := fun c hc => (ht c hc).1
    rw [List.cons_append, readNumber_cons _ hc heq, ← List.cons_append, extendSignificand_append hdigit]
    simp only [dropWhile_digits_append hdigit, takeWhile_digits_append hdigit]
    exact hlocal hnil t ht

/-! ## Values of one type -/

/-- No value is read where one of another type must stand. -/
theorem rejectValue_ne_ok {α : Type} (expected : String) (s : List Char) (found : α) :
    rejectValue expected s ≠ .ok found := by
  have hfail {β : Type} {reading : Reading β} {next : β → Reading α}
      (hnext : ∀ b, next b ≠ .ok found) : reading >>= next ≠ .ok found := by
    intro h
    obtain ⟨b, -, hb⟩ := bind_eq_ok_iff.1 h
    exact hnext b hb
  have hwrong (cause : Cause) (rest : List Char) : (failAt cause rest : Reading α) ≠ .ok found := by
    intro h
    cases h
  rw [rejectValue.eq_def]
  simp only
  split
  · exact hfail fun rest => hwrong _ rest
  · exact hfail fun rest => hwrong _ rest
  · exact hfail fun rest => hwrong _ rest
  · exact hfail fun found => hwrong _ found.2
  · exact hfail fun found => hwrong _ found.2
  · exact hwrong _ _
  · exact hwrong _ _
  · intro h
    cases h
  · split
    · exact hfail fun found => hwrong _ found.2
    · intro h
      cases h

theorem nextValue_eq {s t : List Char} (h : nextValue s = .ok t) : skipSpace s = t := by
  rw [nextValue] at h
  split at h
  · cases h
  · exact Except.ok.inj h

theorem nextValue_cons {c : Char} (hc : isSpace c = false) (s : List Char) :
    nextValue (c :: s) = .ok (c :: s) := by
  rw [nextValue, skipSpace_cons hc]

/-- Where a string is read, a string is skipped. -/
theorem skipsTo_of_readStringValue {s rest : List Char} {value : String}
    (h : readStringValue s = .ok (value, rest)) : SkipsTo s rest := by
  obtain ⟨text, htext, h⟩ := bind_eq_ok_iff.1 h
  split at h
  · next t =>
    obtain ⟨⟨found, u⟩, hfound, h⟩ := bind_eq_ok_iff.1 h
    cases h
    refine .of_start ?_
    rw [nextValue_eq htext, skipStart, (readString_eq_ok_iff.1 hfound).quoted.skipString_eq]
    rfl
  · exact absurd h (rejectValue_ne_ok _ _ _)

/-- Where a number is read, a number is skipped. -/
theorem skipsTo_of_readFloatValue {s rest : List Char} {value : Float}
    (h : readFloatValue s = .ok (value, rest)) : SkipsTo s rest := by
  obtain ⟨text, htext, h⟩ := bind_eq_ok_iff.1 h
  refine .of_start ?_
  rw [nextValue_eq htext]
  split at h
  · obtain ⟨⟨number, u⟩, hnumber, h⟩ := bind_eq_ok_iff.1 h
    cases h
    rw [skipStart, (readNumber_eq hnumber).1]
    rfl
  · split at h
    · next hc =>
      obtain ⟨⟨number, u⟩, hnumber, h⟩ := bind_eq_ok_iff.1 h
      cases h
      exact skipStart_digit hc (readNumber_eq hnumber).1
    · exact absurd h (rejectValue_ne_ok _ _ _)
  · exact absurd h (rejectValue_ne_ok _ _ _)

section Compound

variable {α : Type} {read : List Char → Reading (α × List Char)}
  (hread : ∀ {s rest value}, read s = .ok (value, rest) → SkipsTo s rest)

include hread

theorem skipsTo_of_readOptional {s rest : List Char} {value : Option α}
    (h : readOptional read s = .ok (value, rest)) : SkipsTo s rest := by
  rw [readOptional] at h
  split at h
  · next t hs =>
    obtain ⟨u, hword, h⟩ := bind_eq_ok_iff.1 h
    cases h
    refine .of_start ?_
    rw [hs, skipStart, hword]
    rfl
  · obtain ⟨⟨found, u⟩, hfound, h⟩ := bind_eq_ok_iff.1 h
    cases h
    exact (hread hfound).of_skipSpace_eq (skipSpace_skipSpace s).symm

/-- Where items are read up to the end of a list, the list is skipped. -/
theorem leaves_of_readItems {fuel : Nat} {first : Bool} {s t rest : List Char} {items : List α}
    (h : readItems read fuel first s = .ok (items, t)) (hend : endList t = .ok rest)
    {opened : List Bracket} {out : List Char} (hleaves : Leaves false opened rest out) :
    Leaves first (.list :: opened) s out := by
  induction fuel generalizing first s items with
  | zero => cases h
  | succ fuel ih =>
    have hspace := spaces_skipSpace s
    rw [readItems] at h
    obtain ⟨⟨more, u⟩, hnext, h⟩ := bind_eq_ok_iff.1 h
    have hitem (hmore : more = true) : Skips (.list :: opened) u out := by
      simp only [hmore, if_true] at h
      obtain ⟨⟨item, v⟩, hitem, h⟩ := bind_eq_ok_iff.1 h
      obtain ⟨⟨others, w⟩, hothers, h⟩ := bind_eq_ok_iff.1 h
      cases h
      exact hread hitem _ _ (ih hothers)
    rw [nextItem] at hnext
    split at hnext
    · cases hnext
    · next v hs =>
      obtain ⟨rfl, rfl⟩ := Prod.mk.inj (Except.ok.inj hnext)
      cases h
      obtain rfl : v = rest := Except.ok.inj hend
      exact .of_closing (hs ▸ hspace) hleaves
    · next c v hclosing hs =>
      split at hnext
      · next hfirst =>
        obtain ⟨rfl, rfl⟩ := Prod.mk.inj (Except.ok.inj hnext)
        subst hfirst
        refine .of_fresh hs hclosing ⟨s, rfl, ?_⟩
        exact (hitem rfl).of_skipSpace_eq (by rw [← hs, skipSpace_skipSpace])
      · next hfirst =>
        simp only [Bool.not_eq_true] at hfirst
        subst hfirst
        split at hnext
        · next hc =>
          subst hc
          have hskips (hu : u = skipSpace v) (hmore : more = true) :
              Leaves false (.list :: opened) s out :=
            .of_comma (hs ▸ hspace)
              ⟨v, rfl, (hitem hmore).of_skipSpace_eq (by rw [hu, skipSpace_skipSpace])⟩
          split at hnext
          · cases hnext
          · cases hnext
          · obtain ⟨rfl, rfl⟩ := Prod.mk.inj (Except.ok.inj hnext)
            exact hskips rfl rfl
        · cases hnext

theorem skipsTo_of_readList {s rest : List Char} {items : List α}
    (h : readList read s = .ok (items, rest)) : SkipsTo s rest := by
  obtain ⟨text, htext, h⟩ := bind_eq_ok_iff.1 h
  split at h
  · next t =>
    obtain ⟨⟨found, u⟩, hfound, h⟩ := bind_eq_ok_iff.1 h
    obtain ⟨v, hend, h⟩ := bind_eq_ok_iff.1 h
    cases h
    have hstart : skipStart (skipSpace s) = .ok (some .list, t) := by
      rw [nextValue_eq htext]
      rfl
    exact fun opened out hleaves => .of_start hstart (leaves_of_readItems hread hfound hend hleaves)
  · exact absurd h (rejectValue_ne_ok _ _ _)

end Compound

end Flowchart.Json
