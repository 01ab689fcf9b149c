-- SUMMARY: The exact value of a floating point number.

/-!
# Dyadic values

A finite floating point number is a sign and a natural number times a power of two. All decimal
output starts from this exact value.
-/

namespace Flowchart

/-- The number `mantissa · 2 ^ exponent`. The sign is kept for zero too. -/
structure Dyadic where
  negative : Bool
  mantissa : Nat
  exponent : Int
  /-- The next smaller number of the format is only half as far away as the next greater one. -/
  narrowBelow : Bool
  deriving DecidableEq, Repr

/-- A floating point number taken apart. -/
inductive FloatValue where
  | nan
  | infinite (negative : Bool)
  | finite (value : Dyadic)
  deriving DecidableEq, Repr

/-- Take apart the 64 bits of a number: a sign bit, 11 bits of exponent and 52 of fraction. -/
def FloatValue.ofBits (bits : UInt64) : FloatValue :=
  let n := bits.toNat
  let negative := n / Nat.pow 2 63 == 1
  let exponent : Nat := n / Nat.pow 2 52 % Nat.pow 2 11
  let fraction : Nat := n % Nat.pow 2 52
  if exponent = 0x7FF then
    if fraction = 0 then .infinite negative else .nan
  else if exponent = 0 then .finite ⟨negative, fraction, -1074, false⟩
  else
    .finite ⟨negative, Nat.pow 2 52 + fraction, (exponent : Int) - 1075, fraction == 0 && exponent > 1⟩

def FloatValue.ofFloat (x : Float) : FloatValue :=
  .ofBits x.toBits

/-- Numerator and denominator of `2 ^ two · 10 ^ ten`. -/
def powerRatio (two ten : Int) : Nat × Nat :=
  (Nat.pow 2 two.toNat * Nat.pow 10 ten.toNat,
    Nat.pow 2 (-two).toNat * Nat.pow 10 (-ten).toNat)

/-- `num / den` rounded to the nearest natural number, a half to the even one. -/
def roundHalfEven (num den : Nat) : Nat :=
  let below := num / den
  let twice := 2 * (num % den)
  if twice < den || (twice == den && below % 2 == 0) then below else below + 1

end Flowchart
