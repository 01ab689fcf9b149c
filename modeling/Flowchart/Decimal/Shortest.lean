-- SUMMARY: The shortest decimal that reads back as a given floating point number.
import Flowchart.Decimal.Dyadic

/-!
# Shortest decimals

The numbers that read back as a floating point number fill an interval around it, the ends included
if its mantissa is even. With one digit, two digits, and so on, the two neighbours of the number on
that decimal grid are tried, and the first grid with one of them in the interval is taken. Seventeen
digits always suffice.
-/

namespace Flowchart

/-- The number `digits · 10 ^ exponent`. -/
structure Decimal where
  digits : Nat
  exponent : Int
  deriving DecidableEq, Repr

namespace Decimal

/-- The number of digits before the point of a positive value; zero or less counts zeros after the
    point. -/
def magnitude (value : Dyadic) : Int :=
  let guess := ((value.mantissa.log2 : Int) + value.exponent) * 30103 / 100000 + 1
  let (num, den) := powerRatio value.exponent (-guess)
  if value.mantissa * num < den then guess else guess + 1

/-- The neighbour of a value on the grid of multiples of `10 ^ exponent` that reads back as the
    value. Of two, the nearer one counts, and of two equally near ones the even one. -/
def onGrid? (value : Dyadic) (exponent : Int) : Option Decimal :=
  let (num, den) := powerRatio (value.exponent - 2) (-exponent)
  let middle := 4 * value.mantissa * num
  let low := (4 * value.mantissa - if value.narrowBelow then 1 else 2) * num
  let high := (4 * value.mantissa + 2) * num
  let closed := value.mantissa % 2 == 0
  let below := middle / den
  let belowFits := low < below * den || (closed && low == below * den)
  let aboveFits := (below + 1) * den < high || (closed && (below + 1) * den == high)
  if belowFits && aboveFits then some ⟨roundHalfEven middle den, exponent⟩
  else if belowFits then some ⟨below, exponent⟩
  else if aboveFits then some ⟨below + 1, exponent⟩
  else none

/-- The shortest decimal for a positive value, starting with the grid that shows `shown` digits and
    trying at most `more` finer ones. -/
def shortestFrom (value : Dyadic) (magnitude : Int) (shown : Nat) : Nat → Decimal
  | 0 => ⟨0, 0⟩
  | more + 1 =>
    match onGrid? value (magnitude - shown) with
    | some decimal => decimal
    | none => shortestFrom value magnitude (shown + 1) more

/-- The decimal with the fewest digits that reads back as a positive value. -/
def shortest (value : Dyadic) : Decimal :=
  shortestFrom value (magnitude value) 1 17

/-- The significant digits of a decimal, without zeros at the end, and the place of the point
    relative to the first of them. -/
def significant (decimal : Decimal) : List Char × Int :=
  let digits := Nat.toDigits 10 decimal.digits
  ((digits.reverse.dropWhile (· == '0')).reverse, digits.length + decimal.exponent)

end Decimal

end Flowchart
