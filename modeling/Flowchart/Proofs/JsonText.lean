-- SUMMARY: What JSON texts are made of, and that skipping a value leaves what follows it.
import Flowchart.Json.Reader

/-!
# JSON texts

The grammar of JSON, apart from any reader. Its parts are relations between a text and what is left of
it behind the part, so that nothing has to be said about appending. A value is skipped whole, however
deep it is and whatever is in it.
-/

namespace Flowchart.Json

/-! ## Readings -/

/-- A reading in two steps succeeds if both of them do. -/
theorem bind_eq_ok_iff {α β : Type} {reading : Reading α} {next : α → Reading β} {result : β} :
    reading >>= next = .ok result ↔ ∃ found, reading = .ok found ∧ next found = .ok result := by
  cases reading with
  | error fault =>
    constructor
    · intro h
      cases h
    · rintro ⟨_, h, -⟩
      cases h
  | ok found =>
    constructor
    · exact fun h => ⟨found, rfl, h⟩
    · rintro ⟨_, h, hnext⟩
      cases h
      exact hnext

/-! ## Spaces -/

/-- Spaces, and then `rest`. -/
inductive Spaces : List Char → List Char → Prop
  | none {rest : List Char} : Spaces rest rest
  | more {c : Char} {s rest : List Char} (hc : isSpace c) (h : Spaces s rest) : Spaces (c :: s) rest

theorem Spaces.skipSpace_eq {s rest : List Char} (h : Spaces s rest) : skipSpace s = skipSpace rest := by
  induction h with
  | none => rfl
  | more hc h ih => rwa [skipSpace, List.dropWhile_cons_of_pos hc]

/-- A text that does not start with a space. -/
theorem skipSpace_cons {c : Char} (hc : isSpace c = false) (rest : List Char) :
    skipSpace (c :: rest) = c :: rest :=
  List.dropWhile_cons_of_neg (by simp [hc])

theorem Spaces.skipSpace_cons {s rest : List Char} {c : Char} (h : Spaces s (c :: rest))
    (hc : isSpace c = false) : skipSpace s = c :: rest :=
  h.skipSpace_eq.trans (Json.skipSpace_cons hc rest)

theorem spaces_skipSpace (s : List Char) : Spaces s (skipSpace s) := by
  induction s with
  | nil => exact .none
  | cons c s ih =>
    rw [skipSpace, List.dropWhile_cons]
    split
    · next hc => exact .more hc ih
    · exact .none

theorem isSpace_of_skipSpace {s rest : List Char} {c : Char} (h : skipSpace s = c :: rest) :
    isSpace c = false := by
  have hhead := List.head?_dropWhile_not isSpace s
  rw [← skipSpace, h] at hhead
  simpa using hhead

@[simp] theorem skipSpace_skipSpace (s : List Char) : skipSpace (skipSpace s) = skipSpace s := by
  cases h : skipSpace s with
  | nil => rfl
  | cons c rest => exact skipSpace_cons (isSpace_of_skipSpace h) rest

/-- What can follow a value: spaces, a comma, a closing bracket, or the end of the text. -/
def Ends (rest : List Char) : Prop :=
  ∀ c ∈ rest.head?, isSpace c ∨ c = ',' ∨ c = ']' ∨ c = '}'

theorem Spaces.length_le {s rest : List Char} (h : Spaces s rest) : rest.length ≤ s.length := by
  induction h with
  | none => exact Nat.le_refl _
  | more hc h ih => exact Nat.le_succ_of_le ih

theorem Spaces.ends {s rest : List Char} {c : Char} (h : Spaces s (c :: rest))
    (hc : c = ',' ∨ c = ']' ∨ c = '}') : Ends s := by
  intro d hd
  cases h with
  | none => exact .inr (Option.some.inj hd ▸ hc)
  | more hspace h => exact .inl (Option.some.inj hd ▸ hspace)

/-! ## Strings -/

/-- What is left of a string with its closing quote, and then `rest`. Any four hexadecimal digits can
    stand after `\u`. -/
inductive Quoted : List Char → List Char → Prop
  | close {rest : List Char} : Quoted ('"' :: rest) rest
  | plain {c : Char} {s rest : List Char} (hquote : c ≠ '"') (hslash : c ≠ '\\')
      (hcontrol : 0x20 ≤ c.toNat) (h : Quoted s rest) : Quoted (c :: s) rest
  | escape {c : Char} {s rest : List Char} (hc : (simpleEscape? c).isSome) (h : Quoted s rest) :
      Quoted ('\\' :: c :: s) rest
  | unit {unit : Nat} {s t rest : List Char} (hunit : hexUnit? s = some (unit, t)) (h : Quoted t rest) :
      Quoted ('\\' :: 'u' :: s) rest

/-- What is left of a string that stands for `value`, with its closing quote, and then `rest`. A
    character can be written as itself, as an escape of one letter, or by its UTF-16 units. -/
inductive Spells : List Char → List Char → List Char → Prop
  | close {rest : List Char} : Spells [] ('"' :: rest) rest
  | plain {c : Char} {value s rest : List Char} (hquote : c ≠ '"') (hslash : c ≠ '\\')
      (hcontrol : 0x20 ≤ c.toNat) (h : Spells value s rest) : Spells (c :: value) (c :: s) rest
  | escape {c char : Char} {value s rest : List Char} (hc : simpleEscape? c = some char)
      (h : Spells value s rest) : Spells (char :: value) ('\\' :: c :: s) rest
  | unit {unit : Nat} {value s t rest : List Char} (hunit : hexUnit? s = some (unit, t))
      (hhigh : isHighSurrogate unit = false) (hlow : isLowSurrogate unit = false)
      (h : Spells value t rest) : Spells (Char.ofNat unit :: value) ('\\' :: 'u' :: s) rest
  | pair {high low : Nat} {value s t u rest : List Char}
      (hhigh : hexUnit? s = some (high, '\\' :: 'u' :: t)) (hishigh : isHighSurrogate high)
      (hlow : hexUnit? t = some (low, u)) (hislow : isLowSurrogate low) (h : Spells value u rest) :
      Spells (Char.ofNat (0x10000 + (high - 0xD800) * 0x400 + (low - 0xDC00)) :: value)
        ('\\' :: 'u' :: s) rest

/-- Four hexadecimal digits are four characters. -/
theorem length_of_hexUnit? {s rest : List Char} {unit : Nat} (h : hexUnit? s = some (unit, rest)) :
    s.length = rest.length + 4 := by
  rw [hexUnit?.eq_def] at h
  split at h
  · simp only [Option.bind_eq_bind, Option.bind_eq_some_iff, Option.some.injEq, Prod.mk.injEq] at h
    obtain ⟨-, -, -, -, -, -, -, -, -, rfl⟩ := h
    rfl
  · cases h

theorem length_le_length_bytes (s : List Char) : s.length ≤ (bytes s).length := by
  induction s with
  | nil => exact Nat.zero_le _
  | cons c s ih =>
    have hc := c.utf8Size_pos
    rw [bytes, List.flatMap_cons, List.length_append, String.length_utf8EncodeChar, ← bytes,
      List.length_cons]
    omega

theorem readHexUnit_eq {s rest : List Char} {unit : Nat} (h : hexUnit? s = some (unit, rest)) :
    readHexUnit s = .ok (unit, rest) := by
  have hlength := length_of_hexUnit? h
  have hbytes := length_le_length_bytes (s.take 4)
  rw [List.length_take] at hbytes
  rw [readHexUnit, if_neg (by omega), h]

theorem hexUnit?_of_readHexUnit {s rest : List Char} {unit : Nat}
    (h : readHexUnit s = .ok (unit, rest)) : hexUnit? s = some (unit, rest) := by
  rw [readHexUnit] at h
  split at h
  · cases h
  · split at h
    · next found hfound => rw [hfound, Except.ok.inj h]
    · cases h

/-- A string is skipped whole. -/
theorem Quoted.skipStringFrom_eq {s rest : List Char} (h : Quoted s rest) {fuel : Nat}
    (hfuel : s.length < fuel) : skipStringFrom fuel s = .ok rest := by
  induction h generalizing fuel with
  | close => rw [skipStringFrom]; omega
  | @plain c s rest hquote hslash hcontrol h ih =>
    obtain ⟨fuel, rfl⟩ := Nat.exists_eq_succ_of_ne_zero (Nat.ne_zero_of_lt hfuel)
    rw [List.length_cons] at hfuel
    rw [skipStringFrom.eq_7 _ _ _ hquote (fun hc _ => hslash hc) (fun _ hc _ => hslash hc)
      (fun _ _ hc _ => hslash hc), if_neg (by omega), ih (by omega)]
  | @escape c s rest hc h ih =>
    obtain ⟨fuel, rfl⟩ := Nat.exists_eq_succ_of_ne_zero (Nat.ne_zero_of_lt hfuel)
    simp only [List.length_cons] at hfuel
    have hunit : c ≠ 'u' := by
      rintro rfl
      exact absurd hc (by decide)
    rw [skipStringFrom.eq_6 _ _ _ hunit, if_pos hc, ih (by omega)]
  | @unit unit s t rest hunit h ih =>
    obtain ⟨fuel, rfl⟩ := Nat.exists_eq_succ_of_ne_zero (Nat.ne_zero_of_lt hfuel)
    have hlength := length_of_hexUnit? hunit
    simp only [List.length_cons] at hfuel
    rw [skipStringFrom, readHexUnit_eq hunit]
    exact ih (by omega)

theorem Quoted.skipString_eq {s rest : List Char} (h : Quoted s rest) : skipString s = .ok rest :=
  h.skipStringFrom_eq (Nat.lt_succ_self _)

theorem readEscape_of_simpleEscape? {c char : Char} (h : simpleEscape? c = some char)
    (rest : List Char) : readEscape (c :: rest) = .ok (char, rest) := by
  have hunit : c ≠ 'u' := by
    rintro rfl
    cases h
  rw [readEscape.eq_3 _ _ hunit, h]

/-- What a string stands for is read from it. -/
theorem Spells.readStringFrom_eq {value s rest : List Char} (h : Spells value s rest) {fuel : Nat}
    (hfuel : s.length < fuel) : readStringFrom fuel s = .ok (value, rest) := by
  induction h generalizing fuel with
  | close => rw [readStringFrom]; omega
  | @plain c value s rest hquote hslash hcontrol h ih =>
    obtain ⟨fuel, rfl⟩ := Nat.exists_eq_succ_of_ne_zero (Nat.ne_zero_of_lt hfuel)
    rw [List.length_cons] at hfuel
    rw [readStringFrom.eq_5 _ _ _ hquote hslash, if_neg (by omega), ih (by omega)]
    rfl
  | @escape c char value s rest hc h ih =>
    obtain ⟨fuel, rfl⟩ := Nat.exists_eq_succ_of_ne_zero (Nat.ne_zero_of_lt hfuel)
    simp only [List.length_cons] at hfuel
    have hread := ih (show s.length < fuel by omega)
    simp only [readStringFrom, readEscape_of_simpleEscape? hc, bind, Except.bind, hread]
  | @unit unit value s t rest hunit hhigh hlow h ih =>
    obtain ⟨fuel, rfl⟩ := Nat.exists_eq_succ_of_ne_zero (Nat.ne_zero_of_lt hfuel)
    have hlength := length_of_hexUnit? hunit
    simp only [List.length_cons] at hfuel
    have hescape : readEscape ('u' :: s) = .ok (Char.ofNat unit, t) := by
      simp [readEscape, readEscapedUnit, readHexUnit_eq hunit, hhigh, hlow, bind, Except.bind]
    have hread := ih (show t.length < fuel by omega)
    simp only [readStringFrom, hescape, bind, Except.bind, hread]
  | @pair high low value s t u rest hhigh hishigh hlow hislow h ih =>
    obtain ⟨fuel, rfl⟩ := Nat.exists_eq_succ_of_ne_zero (Nat.ne_zero_of_lt hfuel)
    have hlength := length_of_hexUnit? hhigh
    have hmore := length_of_hexUnit? hlow
    simp only [List.length_cons] at hfuel hlength
    have hnotlow : isLowSurrogate high = false := by
      simp only [isHighSurrogate, isLowSurrogate, Bool.and_eq_true, decide_eq_true_eq] at hishigh ⊢
      simp
      omega
    have hescape : readEscape ('u' :: s) =
        .ok (Char.ofNat (0x10000 + (high - 0xD800) * 0x400 + (low - 0xDC00)), u) := by
      simp [readEscape, readEscapedUnit, readHexUnit_eq hhigh, readHexUnit_eq hlow, hnotlow, hishigh,
        hislow, bind, Except.bind]
    have hread := ih (show u.length < fuel by omega)
    simp only [readStringFrom, hescape, bind, Except.bind, hread]

theorem Spells.readString_eq {value s rest : List Char} (h : Spells value s rest) :
    readString s = .ok (value, rest) :=
  h.readStringFrom_eq (Nat.lt_succ_self _)

theorem Spells.of_readEscape {c : Char} {value s t rest : List Char} (h : readEscape s = .ok (c, t))
    (hmore : Spells value t rest) : Spells (c :: value) ('\\' :: s) rest := by
  rw [readEscape.eq_def] at h
  split at h
  · cases h
  · next s =>
    obtain ⟨⟨unit, u⟩, hunit, h⟩ := bind_eq_ok_iff.1 h
    have hunit := hexUnit?_of_readHexUnit hunit
    simp only at h
    split at h
    · cases h
    · next hlow =>
      split at h
      · next hhigh =>
        split at h
        · next v =>
          obtain ⟨⟨low, w⟩, hmate, h⟩ := bind_eq_ok_iff.1 h
          have hmate := hexUnit?_of_readHexUnit hmate
          simp only at h
          split at h
          · next hislow =>
            obtain ⟨rfl, rfl⟩ := Prod.mk.inj (Except.ok.inj h)
            exact .pair hunit hhigh hmate hislow hmore
          · cases h
        all_goals cases h
      · next hhigh =>
        cases h
        exact .unit hunit (by simpa using hhigh) (by simpa using hlow) hmore
  · next d s _ =>
    split at h
    · next char hd =>
      cases h
      exact .escape hd hmore
    · cases h

theorem spells_of_readStringFrom {fuel : Nat} {value s rest : List Char}
    (h : readStringFrom fuel s = .ok (value, rest)) : Spells value s rest := by
  fun_induction readStringFrom fuel s generalizing value with
  | case1 | case2 | case5 => cases h
  | case3 =>
    cases h
    exact .close
  | case4 fuel s ih =>
    obtain ⟨⟨c, t⟩, hescape, h⟩ := bind_eq_ok_iff.1 h
    obtain ⟨⟨more, u⟩, hmore, h⟩ := bind_eq_ok_iff.1 h
    cases h
    exact .of_readEscape hescape (ih t hmore)
  | case6 fuel c s hquote hslash hcontrol ih =>
    obtain ⟨⟨more, u⟩, hmore, h⟩ := bind_eq_ok_iff.1 h
    cases h
    exact .plain hquote hslash (Nat.le_of_not_lt hcontrol) (ih hmore)

/-- Reading a string gives exactly what it stands for. -/
theorem readString_eq_ok_iff {value s rest : List Char} :
    readString s = .ok (value, rest) ↔ Spells value s rest :=
  ⟨spells_of_readStringFrom, Spells.readString_eq⟩

/-- A string that stands for something is a string. -/
theorem Spells.quoted {value s rest : List Char} (h : Spells value s rest) : Quoted s rest := by
  induction h with
  | close => exact .close
  | plain hquote hslash hcontrol h ih => exact .plain hquote hslash hcontrol ih
  | escape hc h ih => exact .escape (by simp [hc]) ih
  | unit hunit hhigh hlow h ih => exact .unit hunit ih
  | pair hhigh hishigh hlow hislow h ih => exact .unit hhigh (.unit hlow ih)

/-! ## Numbers -/

/-- One digit or more. -/
def Digits (s : List Char) : Prop :=
  s ≠ [] ∧ ∀ c ∈ s, c.isDigit

/-- A number before its point: a single zero, or digits that do not start with one. -/
inductive Whole : List Char → Prop
  | zero : Whole ['0']
  | digits {c : Char} {s : List Char} (h : Digits (c :: s)) (hc : c ≠ '0') : Whole (c :: s)

/-- The point of a number and the digits after it, or nothing. -/
inductive Fraction : List Char → Prop
  | none : Fraction []
  | digits {s : List Char} (h : Digits s) : Fraction ('.' :: s)

/-- The exponent of a number, or nothing. -/
inductive Exponent : List Char → Prop
  | none : Exponent []
  | digits {letter : Char} {sign s : List Char} (hletter : letter = 'e' ∨ letter = 'E')
      (hsign : sign = [] ∨ sign = ['+'] ∨ sign = ['-']) (h : Digits s) :
      Exponent (letter :: (sign ++ s))

/-- A number from its first digit on. -/
inductive Unsigned : List Char → Prop
  | of {whole fraction exponent : List Char} (hwhole : Whole whole) (hfraction : Fraction fraction)
      (hexponent : Exponent exponent) : Unsigned (whole ++ (fraction ++ exponent))

/-- The first character of a number is a digit. -/
theorem Unsigned.exists_cons {s : List Char} (h : Unsigned s) : ∃ c t, s = c :: t ∧ c.isDigit := by
  obtain ⟨hwhole, -, -⟩ := h
  cases hwhole with
  | zero => exact ⟨'0', _, rfl, rfl⟩
  | digits h hc => exact ⟨_, _, rfl, h.2 _ List.mem_cons_self⟩

/-- A text that does not go on with a number. -/
def Stops (rest : List Char) : Prop :=
  ∀ c ∈ rest.head?, c.isDigit = false ∧ c ≠ '.' ∧ c ≠ 'e' ∧ c ≠ 'E'

theorem Ends.stops {rest : List Char} (h : Ends rest) : Stops rest := by
  intro c hc
  have hspace : isSpace c → c.isDigit = false ∧ c ≠ '.' ∧ c ≠ 'e' ∧ c ≠ 'E' := by
    simp only [isSpace, Bool.or_eq_true, beq_iff_eq]
    rintro (((rfl | rfl) | rfl) | rfl) <;> decide
  rcases h c hc with hc | rfl | rfl | rfl
  · exact hspace hc
  all_goals decide

/-- What stops a number begins neither a fraction nor an exponent. -/
theorem Stops.ne_cons {rest : List Char} (h : Stops rest) :
    (∀ s, rest ≠ '.' :: s) ∧ (∀ s, rest ≠ 'e' :: s) ∧ ∀ s, rest ≠ 'E' :: s := by
  refine ⟨?_, ?_, ?_⟩ <;> rintro s rfl
  · exact absurd rfl (h '.' rfl).2.1
  · exact absurd rfl (h 'e' rfl).2.2.1
  · exact absurd rfl (h 'E' rfl).2.2.2

/-- Digits before what is no digit are all dropped. -/
theorem dropDigits_append {s rest : List Char} (hs : ∀ c ∈ s, c.isDigit)
    (hrest : ∀ c ∈ rest.head?, c.isDigit = false) : dropDigits (s ++ rest) = rest := by
  rw [dropDigits, List.dropWhile_append_of_pos hs]
  cases rest with
  | nil => rfl
  | cons c rest => exact List.dropWhile_cons_of_neg (by simp [hrest c rfl])

theorem readExponentSign_append {sign s : List Char} (hsign : sign = [] ∨ sign = ['+'] ∨ sign = ['-'])
    (hs : Digits s) (rest : List Char) : (readExponentSign (sign ++ (s ++ rest))).2 = s ++ rest := by
  rcases hsign with rfl | rfl | rfl
  · obtain ⟨c, s, rfl⟩ := List.exists_cons_of_ne_nil hs.1
    have hc := hs.2 c List.mem_cons_self
    have hplus : c ≠ '+' := by rintro rfl; cases hc
    have hminus : c ≠ '-' := by rintro rfl; cases hc
    exact congrArg Prod.snd (readExponentSign.eq_3 _ (fun _ h => hplus (List.cons.inj h).1)
      fun _ h => hminus (List.cons.inj h).1)
  · rfl
  · rfl

/-- Skip what is behind the fraction of a number. -/
def skipPastFraction : List Char → Reading (List Char)
  | 'e' :: rest | 'E' :: rest => skipExponent rest
  | rest => .ok rest

/-- Skip what is behind the whole part of a number. -/
def skipPastWhole : List Char → Reading (List Char)
  | '.' :: rest => skipFraction rest
  | 'e' :: rest | 'E' :: rest => skipExponent rest
  | rest => .ok rest

theorem skipFraction_eq (s : List Char) :
    skipFraction s =
      if (s.takeWhile Char.isDigit).isEmpty then malformedOn .invalidNumber s
      else skipPastFraction (dropDigits s) :=
  rfl

theorem skipPastWhole_of_ne {s : List Char} (h : '.' ∉ s.head?) :
    skipPastWhole s = skipPastFraction s := by
  rw [skipPastWhole.eq_def]
  split
  · exact absurd rfl h
  · rfl
  · rfl
  · next hdot he hE => rw [skipPastFraction.eq_3 s he hE]

/-- A number is skipped digit by digit, and then what is behind its whole part. -/
theorem skipNumber_cons {c : Char} {s : List Char} (hc : c.isDigit)
    (hzero : c = '0' → ∀ d ∈ s.head?, d.isDigit = false) :
    skipNumber (c :: s) = skipPastWhole (dropDigits s) := by
  by_cases hlong : c = '0' ∧ s ≠ []
  · obtain ⟨rfl, hne⟩ := hlong
    obtain ⟨d, s, rfl⟩ := List.exists_cons_of_ne_nil hne
    have hd := hzero rfl d rfl
    rw [skipNumber.eq_2, if_neg (by simp [hd]), dropDigits, List.dropWhile_cons_of_neg (by simp [hd])]
    rfl
  · rw [skipNumber.eq_3 _ _ fun d rest hc hs => hlong ⟨hc, by simp [hs]⟩, if_pos hc]
    rfl

theorem of_skipNumber {s rest : List Char} (h : skipNumber s = .ok rest) :
    ∃ c t, s = c :: t ∧ c.isDigit ∧ skipPastWhole (dropDigits t) = .ok rest := by
  rw [skipNumber.eq_def] at h
  simp only at h
  split at h
  · cases h
  · next c t =>
    split at h
    · cases h
    · next hc =>
      refine ⟨'0', c :: t, rfl, rfl, ?_⟩
      rw [dropDigits, List.dropWhile_cons_of_neg hc]
      exact h
  · next c t _ =>
    split at h
    · next hc => exact ⟨c, t, rfl, hc, h⟩
    · cases h

section Numbers

variable {rest : List Char} (hrest : Stops rest)

include hrest

theorem Exponent.stops {exponent : List Char} (h : Exponent exponent) :
    ∀ c ∈ (exponent ++ rest).head?, c.isDigit = false ∧ c ≠ '.' := by
  intro c hc
  cases h with
  | none => exact ⟨(hrest c hc).1, (hrest c hc).2.1⟩
  | digits hletter hsign h =>
    obtain rfl := Option.some.inj hc
    rcases hletter with rfl | rfl <;> decide

theorem Fraction.stops {fraction exponent : List Char} (hfraction : Fraction fraction)
    (hexponent : Exponent exponent) :
    ∀ c ∈ (fraction ++ (exponent ++ rest)).head?, c.isDigit = false := by
  intro c hc
  cases hfraction with
  | none => exact (hexponent.stops hrest c hc).1
  | digits h =>
    obtain rfl := Option.some.inj hc
    rfl

theorem skipExponent_append {sign s : List Char} (hsign : sign = [] ∨ sign = ['+'] ∨ sign = ['-'])
    (hs : Digits s) : skipExponent (sign ++ s ++ rest) = .ok rest := by
  rw [skipExponent, List.append_assoc, readExponentSign_append hsign hs]
  obtain ⟨c, s, rfl⟩ := List.exists_cons_of_ne_nil hs.1
  obtain ⟨hc, hs⟩ := List.forall_mem_cons.1 hs.2
  simp [hc, dropDigits_append hs fun c hc => (hrest c hc).1]

theorem Exponent.skip_eq {exponent : List Char} (h : Exponent exponent) :
    skipPastFraction (exponent ++ rest) = .ok rest := by
  cases h with
  | none =>
    obtain ⟨-, he, hE⟩ := hrest.ne_cons
    exact skipPastFraction.eq_3 rest he hE
  | digits hletter hsign h =>
    have hskip := skipExponent_append hrest hsign h
    rcases hletter with rfl | rfl <;> exact hskip

theorem Fraction.skip_eq {fraction exponent : List Char} (hfraction : Fraction fraction)
    (hexponent : Exponent exponent) :
    skipPastWhole (fraction ++ (exponent ++ rest)) = .ok rest := by
  cases hfraction with
  | none =>
    have hdot : '.' ∉ (exponent ++ rest).head? := fun h => (hexponent.stops hrest '.' h).2 rfl
    rw [List.nil_append, skipPastWhole_of_ne hdot, hexponent.skip_eq hrest]
  | @digits s h =>
    have hdigit : (s ++ (exponent ++ rest)).takeWhile Char.isDigit ≠ [] := by
      obtain ⟨c, s, rfl⟩ := List.exists_cons_of_ne_nil h.1
      rw [List.cons_append, List.takeWhile_cons_of_pos (h.2 c List.mem_cons_self)]
      exact List.cons_ne_nil _ _
    rw [List.cons_append, skipPastWhole, skipFraction_eq, if_neg (by simpa using hdigit),
      dropDigits_append h.2 fun c hc => (hexponent.stops hrest c hc).1, hexponent.skip_eq hrest]

/-- A number is skipped whole. -/
theorem Unsigned.skipNumber_eq {s : List Char} (h : Unsigned s) : skipNumber (s ++ rest) = .ok rest := by
  obtain ⟨hwhole, hfraction, hexponent⟩ := h
  have hstops := hfraction.stops hrest hexponent
  rw [List.append_assoc, List.append_assoc, ← hfraction.skip_eq hrest hexponent]
  cases hwhole with
  | zero =>
    rw [List.singleton_append, skipNumber_cons rfl fun _ => hstops]
    exact congrArg skipPastWhole (dropDigits_append (s := []) (by simp) hstops)
  | @digits c s h hc =>
    obtain ⟨hdigit, hdigits⟩ := List.forall_mem_cons.1 h.2
    rw [List.cons_append, skipNumber_cons hdigit fun hzero => absurd hzero hc,
      dropDigits_append hdigits hstops]

end Numbers

/-! ## Values -/

/-- The bracket that opens what it stands for. -/
def Bracket.opening : Bracket → Char
  | list => '['
  | object => '{'

/-- The parts of a JSON text: a value, one of the items of a list or of the members of an object, and
    all of them with the closing bracket. -/
inductive Piece where
  | value
  | part (bracket : Bracket)
  | parts (bracket : Bracket)

/-- A piece of JSON text, and then `rest`. -/
inductive Piece.Text : Piece → List Char → List Char → Prop
  | word {word rest : List Char}
      (h : word = "null".toList ∨ word = "true".toList ∨ word = "false".toList) :
      Text value (word ++ rest) rest
  | string {s rest : List Char} (h : Quoted s rest) : Text value ('"' :: s) rest
  | number {s rest : List Char} (h : Unsigned s) : Text value (s ++ rest) rest
  | minus {s rest : List Char} (h : Unsigned s) : Text value ('-' :: (s ++ rest)) rest
  | empty {bracket : Bracket} {s rest : List Char} (h : Spaces s (bracket.closing :: rest)) :
      Text value (bracket.opening :: s) rest
  | full {bracket : Bracket} {s rest : List Char} (h : Text (parts bracket) s rest) :
      Text value (bracket.opening :: s) rest
  | item {s t rest : List Char} (hspace : Spaces s t) (h : Text value t rest) :
      Text (part .list) s rest
  | member {s key colon t u rest : List Char} (hspace : Spaces s ('"' :: key)) (hkey : Quoted key colon)
      (hcolon : Spaces colon (':' :: t)) (hmore : Spaces t u) (h : Text value u rest) :
      Text (part .object) s rest
  | last {bracket : Bracket} {s t rest : List Char} (hpart : Text (part bracket) s t)
      (hend : Spaces t (bracket.closing :: rest)) : Text (parts bracket) s rest
  | more {bracket : Bracket} {s t u rest : List Char} (hpart : Text (part bracket) s t)
      (hcomma : Spaces t (',' :: u)) (h : Text (parts bracket) u rest) : Text (parts bracket) s rest

/-! ## What skipping leaves -/

theorem length_skipSpace_le (s : List Char) : (skipSpace s).length ≤ s.length :=
  (List.dropWhile_suffix isSpace).length_le

theorem length_dropDigits_le (s : List Char) : (dropDigits s).length ≤ s.length :=
  (List.dropWhile_suffix Char.isDigit).length_le

theorem length_readWord_le {word s rest : List Char} (h : readWord word s = .ok rest) :
    rest.length ≤ s.length := by
  induction word generalizing s with
  | nil =>
    cases h
    exact Nat.le_refl _
  | cons letter word ih =>
    cases s with
    | nil => cases h
    | cons c s =>
      rw [readWord] at h
      split at h
      · exact Nat.le_succ_of_le (ih h)
      · cases h

theorem length_skipStringFrom_lt {fuel : Nat} {s rest : List Char}
    (h : skipStringFrom fuel s = .ok rest) : rest.length < s.length := by
  fun_induction skipStringFrom fuel s with
  | case1 | case2 | case4 | case7 | case8 => cases h
  | case3 =>
    cases h
    exact Nat.lt_succ_self _
  | case5 fuel s ih =>
    obtain ⟨⟨unit, t⟩, hunit, h⟩ := bind_eq_ok_iff.1 h
    have hlength := length_of_hexUnit? (hexUnit?_of_readHexUnit hunit)
    have hmore := ih t h
    simp only [List.length_cons]
    omega
  | case6 fuel c s hc hsimple ih => exact Nat.lt_succ_of_lt (Nat.lt_succ_of_lt (ih h))
  | case9 fuel c s hquote hslash hunit hsimple hcontrol ih => exact Nat.lt_succ_of_lt (ih h)

theorem length_skipExponent_le {s rest : List Char} (h : skipExponent s = .ok rest) :
    rest.length ≤ s.length := by
  have hsign : (readExponentSign s).2.length ≤ s.length := by
    rw [readExponentSign.eq_def]
    split <;> simp
  rw [skipExponent] at h
  split at h
  · cases h
  · next c t hs =>
    rw [hs, List.length_cons] at hsign
    split at h
    · cases h
      have hdrop := length_dropDigits_le t
      omega
    · cases h

theorem length_skipPastFraction_le {s rest : List Char} (h : skipPastFraction s = .ok rest) :
    rest.length ≤ s.length := by
  rw [skipPastFraction.eq_def] at h
  split at h
  · exact Nat.le_succ_of_le (length_skipExponent_le h)
  · exact Nat.le_succ_of_le (length_skipExponent_le h)
  · cases h
    exact Nat.le_refl _

theorem length_skipPastWhole_le {s rest : List Char} (h : skipPastWhole s = .ok rest) :
    rest.length ≤ s.length := by
  by_cases hdot : '.' ∈ s.head?
  · obtain ⟨t, rfl⟩ := List.head?_eq_some_iff.1 hdot
    rw [skipPastWhole, skipFraction_eq] at h
    split at h
    · cases h
    · have hpast := length_skipPastFraction_le h
      have hdrop := length_dropDigits_le t
      rw [List.length_cons]
      omega
  · rw [skipPastWhole_of_ne hdot] at h
    exact length_skipPastFraction_le h

theorem length_skipNumber_lt {s rest : List Char} (h : skipNumber s = .ok rest) :
    rest.length < s.length := by
  obtain ⟨c, t, rfl, -, h⟩ := of_skipNumber h
  have hpast := length_skipPastWhole_le h
  have hdrop := length_dropDigits_le t
  rw [List.length_cons]
  omega

/-- The start of a value is at least one character. -/
theorem length_skipStart_lt {s rest : List Char} {start : Option Bracket}
    (h : skipStart s = .ok (start, rest)) : rest.length < s.length := by
  have hpast {reading : Reading (List Char)} {t : List Char}
      (hlength : ∀ r, reading = .ok r → r.length < t.length)
      (h : (do return (none, ← reading) : Reading (Option Bracket × List Char)) = .ok (start, rest)) :
      rest.length < t.length := by
    obtain ⟨r, hr, h⟩ := bind_eq_ok_iff.1 h
    cases h
    exact hlength _ hr
  rw [skipStart.eq_def] at h
  split at h
  · cases h
  · exact hpast (fun r hr => Nat.lt_succ_of_le (length_readWord_le hr)) h
  · exact hpast (fun r hr => Nat.lt_succ_of_le (length_readWord_le hr)) h
  · exact hpast (fun r hr => Nat.lt_succ_of_le (length_readWord_le hr)) h
  · exact hpast (fun r hr => Nat.lt_succ_of_lt (length_skipStringFrom_lt hr)) h
  · exact hpast (fun r hr => Nat.lt_succ_of_lt (length_skipNumber_lt hr)) h
  · cases h
    exact Nat.lt_succ_self _
  · cases h
    exact Nat.lt_succ_self _
  · split at h
    · exact hpast (fun r => length_skipNumber_lt) h
    · cases h

theorem length_skipClosing_le {fresh : Bool} {opened outer : List Bracket} {s rest : List Char}
    (h : skipClosing fresh opened s = .ok (outer, rest)) : rest.length ≤ s.length := by
  induction opened generalizing fresh s with
  | nil =>
    cases h
    exact Nat.le_refl _
  | cons bracket opened ih =>
    have hspace := length_skipSpace_le s
    rw [skipClosing.eq_def] at h
    simp only at h
    split at h
    · cases h
    · next c t hs =>
      rw [hs, List.length_cons] at hspace
      split at h
      · have hmore := ih h
        omega
      · split at h
        · cases h
          simpa using hspace
        · split at h
          · cases h
            omega
          · cases h

theorem length_skipKey_le {bracket : Bracket} {s rest : List Char} (h : skipKey bracket s = .ok rest) :
    rest.length ≤ s.length := by
  have hspace := length_skipSpace_le s
  cases bracket with
  | list =>
    cases h
    exact Nat.le_refl _
  | object =>
    rw [skipKey] at h
    split at h
    · cases h
    · next t hs =>
      obtain ⟨u, hu, h⟩ := bind_eq_ok_iff.1 h
      have hstring := length_skipStringFrom_lt hu
      have hcolon := length_skipSpace_le u
      rw [readColon] at h
      split at h
      · cases h
      · next v hv =>
        cases h
        rw [hs] at hspace
        rw [hv] at hcolon
        simp only [List.length_cons] at hspace hcolon
        omega
      · cases h
    · cases h

theorem Quoted.length_lt {s rest : List Char} (h : Quoted s rest) : rest.length < s.length :=
  length_skipStringFrom_lt h.skipString_eq

/-- Every piece of text has at least one character. -/
theorem Piece.Text.length_lt {piece : Piece} {s rest : List Char} (h : piece.Text s rest) :
    rest.length < s.length := by
  induction h with
  | @word word rest h =>
    have hword : 0 < word.length := by rcases h with rfl | rfl | rfl <;> decide
    rw [List.length_append]
    omega
  | string h => exact Nat.lt_succ_of_lt h.length_lt
  | number h =>
    obtain ⟨c, t, rfl, -⟩ := h.exists_cons
    simp only [List.cons_append, List.length_cons, List.length_append]
    omega
  | minus h =>
    simp only [List.length_cons, List.length_append]
    omega
  | empty h =>
    have hspace := h.length_le
    simp only [List.length_cons] at hspace ⊢
    omega
  | full h ih => exact Nat.lt_succ_of_lt ih
  | item hspace h ih => exact Nat.lt_of_lt_of_le ih hspace.length_le
  | member hspace hkey hcolon hmore h ih =>
    have hlengths := And.intro hspace.length_le (And.intro hcolon.length_le hmore.length_le)
    have hquoted := hkey.length_lt
    simp only [List.length_cons] at hlengths
    omega
  | last hpart hend ih =>
    have hspace := hend.length_le
    rw [List.length_cons] at hspace
    omega
  | more hpart hcomma h ihpart ih =>
    have hspace := hcomma.length_le
    rw [List.length_cons] at hspace
    omega

/-! ## Skipping -/

/-- From `s` on, skipping a value and then what is left of the open brackets around it leaves `out`. -/
def Skips (opened : List Bracket) (s out : List Char) : Prop :=
  ∀ fuel, (skipSpace s).length < fuel → skipFrom fuel opened s = .ok out

/-- From `s` on, skipping what is left of the open brackets leaves `out`: closing brackets, and then the
    next part of one that stays open. -/
def Leaves (fresh : Bool) (opened : List Bracket) (s out : List Char) : Prop :=
  ∃ outer t, skipClosing fresh opened s = .ok (outer, t) ∧
    match outer with
    | [] => out = t
    | bracket :: _ => ∃ u, skipKey bracket t = .ok u ∧ Skips outer u out

/-- Skipping one value from `s` on leaves `rest`, whatever is open around it. -/
def SkipsTo (s rest : List Char) : Prop :=
  ∀ opened out, Leaves false opened rest out → Skips opened s out

theorem Skips.of_start {opened : List Bracket} {start : Option Bracket} {s t out : List Char}
    (hstart : skipStart (skipSpace s) = .ok (start, t))
    (h : Leaves start.isSome (start.toList ++ opened) t out) : Skips opened s out := by
  intro fuel hfuel
  obtain ⟨outer, u, hclosing, h⟩ := h
  obtain ⟨fuel, rfl⟩ := Nat.exists_eq_succ_of_ne_zero (Nat.ne_zero_of_lt hfuel)
  have hlt := length_skipStart_lt hstart
  have hle := length_skipClosing_le hclosing
  rw [skipFrom, hstart]
  simp only [bind, Except.bind, hclosing]
  cases outer with
  | nil => rw [h]
  | cons bracket outer =>
    obtain ⟨v, hkey, hskips⟩ := h
    have hmore := length_skipKey_le hkey
    have hspace := length_skipSpace_le v
    simp only [hkey]
    exact hskips fuel (by omega)

/-- Skipping starts with spaces. -/
theorem Skips.of_skipSpace_eq {opened : List Bracket} {s t out : List Char} (h : Skips opened t out)
    (hspace : skipSpace s = skipSpace t) : Skips opened s out := by
  intro fuel hfuel
  rw [hspace] at hfuel
  rw [← h fuel hfuel]
  obtain ⟨fuel, rfl⟩ := Nat.exists_eq_succ_of_ne_zero (Nat.ne_zero_of_lt hfuel)
  rw [skipFrom, skipFrom, hspace]

/-- What has no parts is skipped in one step. -/
theorem SkipsTo.of_start {s rest : List Char} (h : skipStart (skipSpace s) = .ok (none, rest)) :
    SkipsTo s rest :=
  fun _ _ hleaves => .of_start h hleaves

/-- Spaces before a value are skipped with it. -/
theorem SkipsTo.of_skipSpace_eq {s t rest : List Char} (h : SkipsTo t rest)
    (hspace : skipSpace s = skipSpace t) : SkipsTo s rest :=
  fun opened out hleaves => (h opened out hleaves).of_skipSpace_eq hspace

theorem SkipsTo.skipValue_eq {s rest : List Char} (h : SkipsTo s rest) : skipValue s = .ok rest :=
  h [] rest ⟨[], rest, rfl, rfl⟩ _ (Nat.lt_succ_of_le (length_skipSpace_le s))

theorem Bracket.isSpace_closing (bracket : Bracket) : isSpace bracket.closing = false := by
  cases bracket <;> rfl

section Brackets

variable {fresh : Bool} {bracket : Bracket} {opened : List Bracket} {s t out : List Char}

/-- A closing bracket closes the innermost of the open ones. -/
theorem Leaves.of_closing (hspace : Spaces s (bracket.closing :: t)) (h : Leaves false opened t out) :
    Leaves fresh (bracket :: opened) s out := by
  obtain ⟨outer, u, hclosing, h⟩ := h
  refine ⟨outer, u, ?_, h⟩
  rw [skipClosing.eq_def]
  simp only [hspace.skipSpace_cons bracket.isSpace_closing, if_true]
  exact hclosing

/-- After a comma the next part follows. -/
theorem Leaves.of_comma (hspace : Spaces s (',' :: t))
    (h : ∃ u, skipKey bracket t = .ok u ∧ Skips (bracket :: opened) u out) :
    Leaves false (bracket :: opened) s out := by
  refine ⟨bracket :: opened, t, ?_, h⟩
  have hcomma : ',' ≠ bracket.closing := by cases bracket <;> decide
  rw [skipClosing.eq_def]
  simp only [hspace.skipSpace_cons rfl, if_neg hcomma]
  rfl

/-- After an opening bracket the first part follows. -/
theorem Leaves.of_fresh {c : Char} (hs : skipSpace s = c :: t) (hc : c ≠ bracket.closing)
    (h : ∃ u, skipKey bracket s = .ok u ∧ Skips (bracket :: opened) u out) :
    Leaves true (bracket :: opened) s out := by
  have hclosing : skipClosing true (bracket :: opened) s = .ok (bracket :: opened, c :: t) := by
    rw [skipClosing.eq_def]
    simp only [hs, if_neg hc]
    rfl
  obtain ⟨u, hkey, hskips⟩ := h
  refine ⟨bracket :: opened, c :: t, hclosing, ?_⟩
  have hspace : skipSpace (c :: t) = skipSpace s := by rw [← hs, skipSpace_skipSpace]
  cases bracket with
  | list =>
    obtain rfl := Except.ok.inj hkey
    exact ⟨c :: t, rfl, hskips.of_skipSpace_eq hspace⟩
  | object =>
    refine ⟨u, ?_, hskips⟩
    rwa [skipKey, hspace]

end Brackets

theorem skipStart_digit {c : Char} (hc : c.isDigit) {s rest : List Char}
    (h : skipNumber (c :: s) = .ok rest) : skipStart (c :: s) = .ok (none, rest) := by
  have hne (d : Char) (hd : d.isDigit = false) : c ≠ d := by
    rintro rfl
    rw [hc] at hd
    cases hd
  rw [skipStart.eq_9 c s (hne 'n' rfl) (hne 't' rfl) (hne 'f' rfl) (hne '"' rfl) (hne '-' rfl)
    (hne '[' rfl) (hne '{' rfl), if_pos hc, h]
  rfl

theorem skipStart_opening (bracket : Bracket) (s : List Char) :
    skipStart (skipSpace (bracket.opening :: s)) = .ok (some bracket, s) := by
  cases bracket <;> rfl

theorem isSpace_of_isDigit {c : Char} (h : c.isDigit) : isSpace c = false := by
  rw [Bool.eq_false_iff]
  intro hspace
  simp only [isSpace, Bool.or_eq_true, beq_iff_eq] at hspace
  rcases hspace with ((rfl | rfl) | rfl) | rfl <;> cases h

/-- What the start of a value is, once the spaces before it are skipped. -/
theorem Piece.Text.exists_cons {s rest : List Char} (h : Text value s rest) :
    ∃ c t, s = c :: t ∧ isSpace c = false ∧ c ≠ ']' := by
  generalize hpiece : value = piece at h
  cases h with
  | word h =>
    rcases h with rfl | rfl | rfl
    · exact ⟨'n', _, rfl, rfl, by decide⟩
    · exact ⟨'t', _, rfl, rfl, by decide⟩
    · exact ⟨'f', _, rfl, rfl, by decide⟩
  | string h => exact ⟨'"', _, rfl, rfl, by decide⟩
  | number h =>
    obtain ⟨c, t, rfl, hc⟩ := h.exists_cons
    exact ⟨c, _, rfl, isSpace_of_isDigit hc, by rintro rfl; cases hc⟩
  | minus h => exact ⟨'-', _, rfl, rfl, by decide⟩
  | @empty bracket s rest h => exact ⟨_, s, rfl, by cases bracket <;> rfl, by cases bracket <;> decide⟩
  | @full bracket s rest h => exact ⟨_, s, rfl, by cases bracket <;> rfl, by cases bracket <;> decide⟩
  | item | member | last | more => cases hpiece

/-- The parts of a list or an object do not start with the closing bracket. -/
theorem Piece.Text.exists_skipSpace_eq {piece : Piece} {bracket : Bracket} {s rest : List Char}
    (h : piece.Text s rest) (hpiece : piece = part bracket ∨ piece = parts bracket) :
    ∃ c t, skipSpace s = c :: t ∧ c ≠ bracket.closing := by
  induction h with
  | word | string | number | minus | empty | full => rcases hpiece with h | h <;> cases h
  | item hspace h =>
    obtain ⟨c, t, rfl, hc, hclosing⟩ := h.exists_cons
    refine ⟨c, t, hspace.skipSpace_cons hc, ?_⟩
    rcases hpiece with h | h <;> cases h
    exact hclosing
  | member hspace =>
    refine ⟨'"', _, hspace.skipSpace_cons rfl, ?_⟩
    rcases hpiece with h | h <;> cases h
    decide
  | last hpart hend ih =>
    rcases hpiece with h | h <;> cases h
    exact ih (.inl rfl)
  | more hpart hcomma h ih =>
    rcases hpiece with h | h <;> cases h
    exact ih (.inl rfl)

/-- What it comes to that a piece is skipped: all that is left to skip is what follows it. -/
def Piece.Skipped : Piece → List Char → List Char → Prop
  | value, s, rest => Ends rest → SkipsTo s rest
  | part bracket, s, rest => Ends rest → ∀ opened out, Leaves false (bracket :: opened) rest out →
      ∃ t, skipKey bracket s = .ok t ∧ Skips (bracket :: opened) t out
  | parts bracket, s, rest => ∀ opened out, Leaves false opened rest out →
      ∃ t, skipKey bracket s = .ok t ∧ Skips (bracket :: opened) t out

theorem Piece.Text.skipped {piece : Piece} {s rest : List Char} (h : piece.Text s rest) :
    piece.Skipped s rest := by
  induction h with
  | word h =>
    intro _
    rcases h with rfl | rfl | rfl <;> exact .of_start rfl
  | string h =>
    refine fun _ => .of_start ?_
    rw [skipSpace_cons rfl, skipStart, h.skipString_eq]
    rfl
  | number h =>
    intro hends
    have hnumber := h.skipNumber_eq hends.stops
    obtain ⟨c, t, rfl, hc⟩ := h.exists_cons
    refine .of_start ?_
    rw [List.cons_append, skipSpace_cons (isSpace_of_isDigit hc)]
    exact skipStart_digit hc hnumber
  | minus h =>
    refine fun hends => .of_start ?_
    rw [skipSpace_cons rfl, skipStart, h.skipNumber_eq hends.stops]
    rfl
  | @empty bracket s rest hspace =>
    intro _ opened out hleaves
    exact .of_start (skipStart_opening bracket s) (.of_closing hspace hleaves)
  | @full bracket s rest h ih =>
    intro _ opened out hleaves
    obtain ⟨c, t, hs, hc⟩ := h.exists_skipSpace_eq (.inr rfl)
    exact .of_start (skipStart_opening bracket s) (.of_fresh hs hc (ih opened out hleaves))
  | item hspace h ih =>
    intro hends opened out hleaves
    exact ⟨_, rfl, (ih hends _ out hleaves).of_skipSpace_eq hspace.skipSpace_eq⟩
  | @member s key colon t u rest hspace hkey hcolon hmore h ih =>
    intro hends opened out hleaves
    refine ⟨t, ?_, (ih hends _ out hleaves).of_skipSpace_eq hmore.skipSpace_eq⟩
    rw [skipKey, hspace.skipSpace_cons rfl]
    simp only [hkey.skipString_eq, bind, Except.bind, readColon, hcolon.skipSpace_cons rfl]
  | @last bracket s t rest hpart hend ih =>
    intro opened out hleaves
    have hends : Ends t := hend.ends (by cases bracket <;> decide)
    exact ih hends opened out (.of_closing hend hleaves)
  | more hpart hcomma h ihpart ih =>
    intro opened out hleaves
    exact ihpart (hcomma.ends (.inl rfl)) opened out (.of_comma hcomma (ih opened out hleaves))

end Flowchart.Json
