-- SUMMARY: The hue of an identifier is a polynomial in its UTF-16 units, and no step of the hash overflows.
import Mathlib.Algebra.BigOperators.Fin
import Mathlib.Data.Nat.ModEq
import Mathlib.Tactic.Ring
import Flowchart.Color

/-!
# Hues of identifiers

The hash is reduced below 360 at every step, and a UTF-16 unit has 16 bits. So the next step stays
far below 2 ^ 32 before it is reduced, and arithmetic on machine words is arithmetic on numbers. The
hash of a text is then the value at 31 of the polynomial that has the units as its coefficients.
-/

namespace Flowchart.Color

/-! ## UTF-16 -/

/-- The units that spell a text in UTF-16. A character below U+10000 is a unit of its own. Any other
    one is a surrogate pair, which holds the upper and the lower ten bits of its distance from U+10000. -/
inductive IsUtf16 : List Char → List Nat → Prop
  | nil : IsUtf16 [] []
  | single {c : Char} {s : List Char} {us : List Nat} (hc : c.toNat < 0x10000) (h : IsUtf16 s us) :
      IsUtf16 (c :: s) (c.toNat :: us)
  | pair {c : Char} {s : List Char} {us : List Nat} {high low : Nat}
      (hc : c.toNat = 0x10000 + high * 0x400 + low) (hhigh : high < 0x400) (hlow : low < 0x400)
      (h : IsUtf16 s us) : IsUtf16 (c :: s) ((0xD800 + high) :: (0xDC00 + low) :: us)

theorem toNat_unitsOfChar_single {c : Char} (hc : c.toNat < 0x10000) :
    (unitsOfChar c).map UInt32.toNat = [c.toNat] := by
  have hval : c.val < 0x10000 := UInt32.lt_iff_toNat_lt.2 hc
  rw [unitsOfChar, if_pos hval]
  rfl

theorem toNat_unitsOfChar_pair {c : Char} {high low : Nat}
    (hc : c.toNat = 0x10000 + high * 0x400 + low) (hhigh : high < 0x400) (hlow : low < 0x400) :
    (unitsOfChar c).map UInt32.toNat = [0xD800 + high, 0xDC00 + low] := by
  have hval : ¬ c.val < 0x10000 := by
    rw [UInt32.lt_iff_toNat_lt]
    change ¬ c.toNat < 0x10000
    omega
  have hoffset : (c.val - 0x10000).toNat = high * 0x400 + low := by
    rw [UInt32.toNat_sub_of_le _ _ (UInt32.not_lt.1 hval)]
    change c.toNat - 0x10000 = high * 0x400 + low
    omega
  rw [unitsOfChar, if_neg hval]
  simp only [List.map_cons, List.map_nil, UInt32.toNat_add, UInt32.toNat_div, UInt32.toNat_mod,
    hoffset, UInt32.reduceToNat]
  congr 2 <;> omega

theorem toNat_char_lt (c : Char) : c.toNat < 0x110000 := by
  rcases c.valid with hlow | ⟨-, hhigh⟩
  · exact Nat.lt_trans hlow (by decide)
  · exact hhigh

/-- Every character has its units. -/
theorem isUtf16_unitsOfChar_append (c : Char) {s : List Char} {us : List Nat} (h : IsUtf16 s us) :
    IsUtf16 (c :: s) ((unitsOfChar c).map UInt32.toNat ++ us) := by
  by_cases hc : c.toNat < 0x10000
  · rw [toNat_unitsOfChar_single hc]
    exact .single hc h
  · have hmost : c.toNat < 0x110000 := toNat_char_lt c
    obtain ⟨high, low, hoffset, hlow⟩ : ∃ high low, c.toNat = 0x10000 + high * 0x400 + low ∧ low < 0x400 :=
      ⟨(c.toNat - 0x10000) / 0x400, (c.toNat - 0x10000) % 0x400, by omega, by omega⟩
    have hhigh : high < 0x400 := by omega
    rw [toNat_unitsOfChar_pair hoffset hhigh hlow]
    exact .pair hoffset hhigh hlow h

theorem map_toNat_units_cons (c : Char) (s : List Char) :
    (units (c :: s)).map UInt32.toNat =
      (unitsOfChar c).map UInt32.toNat ++ (units s).map UInt32.toNat := by
  rw [units, List.flatMap_cons, List.map_append, ← units]

/-- A text has one spelling in UTF-16. -/
theorem isUtf16_iff {s : List Char} {us : List Nat} :
    IsUtf16 s us ↔ (units s).map UInt32.toNat = us := by
  constructor
  · intro h
    induction h with
    | nil => rfl
    | single hc h ih =>
      rw [map_toNat_units_cons, toNat_unitsOfChar_single hc, ih]
      rfl
    | pair hc hhigh hlow h ih =>
      rw [map_toNat_units_cons, toNat_unitsOfChar_pair hc hhigh hlow, ih]
      rfl
  · rintro rfl
    induction s with
    | nil => exact .nil
    | cons c s ih =>
      rw [map_toNat_units_cons]
      exact isUtf16_unitsOfChar_append c ih

theorem IsUtf16.lt_of_mem {s : List Char} {us : List Nat} {unit : Nat} (h : IsUtf16 s us)
    (hunit : unit ∈ us) : unit < 0x10000 := by
  induction h with
  | nil => cases hunit
  | single hc h ih =>
    rcases List.mem_cons.1 hunit with rfl | hunit
    · exact hc
    · exact ih hunit
  | pair hc hhigh hlow h ih =>
    rcases List.mem_cons.1 hunit with rfl | hunit
    · omega
    · rcases List.mem_cons.1 hunit with rfl | hunit
      · omega
      · exact ih hunit

theorem toNat_lt_of_mem_units {s : List Char} {unit : UInt32} (h : unit ∈ units s) :
    unit.toNat < 0x10000 :=
  (isUtf16_iff.2 rfl).lt_of_mem (List.mem_map_of_mem h)

/-! ## One step -/

theorem hueStep_lt (hash unit : UInt32) : (hueStep hash unit).toNat < 360 := by
  rw [hueStep, UInt32.toNat_mod]
  exact Nat.mod_lt _ (by decide)

/-- Nothing overflows before the hash is reduced. -/
theorem unreduced_lt {hash unit : Nat} (hhash : hash < 360) (hunit : unit < 0x10000) :
    hash * 31 + unit < 2 ^ 32 := by
  omega

theorem toNat_hueStep {hash unit : UInt32} (hhash : hash.toNat < 360) (hunit : unit.toNat < 0x10000) :
    (hueStep hash unit).toNat = (hash.toNat * 31 + unit.toNat) % 360 := by
  have hfits := unreduced_lt hhash hunit
  have hsum : (hash * 31 + unit).toNat = hash.toNat * 31 + unit.toNat := by
    simp only [UInt32.toNat_add, UInt32.toNat_mul, UInt32.reduceToNat, Nat.mod_add_mod]
    exact Nat.mod_eq_of_lt hfits
  rw [hueStep, UInt32.toNat_mod, hsum]
  rfl

/-! ## Whole texts -/

theorem foldl_hueStep_lt {hash : UInt32} (hhash : hash.toNat < 360) (us : List UInt32) :
    (us.foldl hueStep hash).toNat < 360 := by
  induction us generalizing hash with
  | nil => exact hhash
  | cons unit us ih => exact ih (hueStep_lt hash unit)

/-- The value at 31 of the polynomial with these coefficients, the first one for the highest power. -/
def hashPolynomial (us : List Nat) : Nat :=
  ∑ i : Fin us.length, us[i] * 31 ^ (us.length - 1 - i)

theorem hashPolynomial_nil : hashPolynomial [] = 0 := rfl

theorem hashPolynomial_cons (unit : Nat) (us : List Nat) :
    hashPolynomial (unit :: us) = unit * 31 ^ us.length + hashPolynomial us := by
  have hpower (i : Fin us.length) : (unit :: us).length - 1 - i.succ = us.length - 1 - i := by
    rw [List.length_cons, Fin.val_succ]
    omega
  calc hashPolynomial (unit :: us)
    _ = unit * 31 ^ us.length + ∑ i : Fin us.length, us[i] * 31 ^ ((unit :: us).length - 1 - i.succ) :=
      Fin.sum_univ_succ _
    _ = unit * 31 ^ us.length + hashPolynomial us := by simp only [hpower, hashPolynomial]

/-- Any start of the hash counts as one more coefficient before the others. -/
theorem toNat_foldl_hueStep {us : List UInt32} (hunits : ∀ unit ∈ us, unit.toNat < 0x10000)
    {hash : UInt32} (hhash : hash.toNat < 360) :
    (us.foldl hueStep hash).toNat =
      (hash.toNat * 31 ^ us.length + hashPolynomial (us.map UInt32.toNat)) % 360 := by
  -- Each unit goes into the hash from which the rest starts, so that hash is arbitrary.
  induction us generalizing hash with
  | nil =>
    rw [List.map_nil, hashPolynomial_nil]
    simpa using (Nat.mod_eq_of_lt hhash).symm
  | cons unit us ih =>
    have hstep := toNat_hueStep hhash (hunits unit List.mem_cons_self)
    have hrest := ih (fun unit hunit => hunits unit (List.mem_cons_of_mem _ hunit)) (hueStep_lt hash unit)
    rw [List.foldl_cons, hrest, hstep, List.map_cons, hashPolynomial_cons, List.length_map,
      List.length_cons]
    generalize hashPolynomial (us.map UInt32.toNat) = rest
    calc ((hash.toNat * 31 + unit.toNat) % 360 * 31 ^ us.length + rest) % 360
      _ = ((hash.toNat * 31 + unit.toNat) * 31 ^ us.length + rest) % 360 :=
        ((Nat.mod_modEq _ 360).mul_right _).add_right _
      _ = (hash.toNat * 31 ^ (us.length + 1) + (unit.toNat * 31 ^ us.length + rest)) % 360 := by
        congr 1
        ring

/-- The hue of an identifier is the polynomial of its UTF-16 units, reduced. On the way the hash stays
    below 360, and no step exceeds a machine word. -/
theorem hueOf_eq_polynomial {id : String} {us : List Nat} (hid : id ≠ "") (hus : IsUtf16 id.toList us) :
    (units id.toList).map UInt32.toNat = us ∧
      (∀ before unit, before ++ [unit] <+: units id.toList →
        (before.foldl hueStep 0).toNat * 31 + unit.toNat < 2 ^ 32) ∧
      (∀ before, before <+: units id.toList → (before.foldl hueStep 0).toNat < 360) ∧
      (hueOf id).toNat = hashPolynomial us % 360 := by
  have hunits : ∀ unit ∈ units id.toList, unit.toNat < 0x10000 := fun unit => toNat_lt_of_mem_units
  have hstart : (0 : UInt32).toNat < 360 := by decide
  have hempty : ¬ id.isEmpty := by simpa using hid
  have hvalue : (hueOf id).toNat = hashPolynomial ((units id.toList).map UInt32.toNat) % 360 := by
    rw [hueOf, if_neg hempty, toNat_foldl_hueStep hunits hstart, UInt32.toNat_zero, Nat.zero_mul,
      Nat.zero_add]
  obtain rfl := isUtf16_iff.1 hus
  refine ⟨rfl, ?_, fun before _ => foldl_hueStep_lt hstart before, hvalue⟩
  intro before unit hprefix
  have hunit : unit ∈ units id.toList := hprefix.subset (by simp)
  exact unreduced_lt (foldl_hueStep_lt hstart before) (hunits unit hunit)

/-- A letter and a character of two units. -/
theorem hueOf_eq_polynomial_pair :
    "N😀" ≠ "" ∧ IsUtf16 "N😀".toList [78, 0xD83D, 0xDE00] ∧
      (hueOf "N😀").toNat = (78 * 31 ^ 2 + 0xD83D * 31 + 0xDE00) % 360 := by
  have hid : "N😀" ≠ "" := by decide
  have hus : IsUtf16 "N😀".toList [78, 0xD83D, 0xDE00] := by
    have hface : IsUtf16 ['😀'] [0xD800 + 0x3D, 0xDC00 + 0x200] :=
      .pair (by decide) (by decide) (by decide) .nil
    exact .single (by decide) hface
  have hpolynomial : hashPolynomial [78, 0xD83D, 0xDE00] = 78 * 31 ^ 2 + 0xD83D * 31 + 0xDE00 := rfl
  obtain ⟨-, -, -, hvalue⟩ := hueOf_eq_polynomial hid hus
  exact ⟨hid, hus, hpolynomial ▸ hvalue⟩

end Flowchart.Color
