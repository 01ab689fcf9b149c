-- SUMMARY: Floating point numbers with a fixed number of decimal places.
import Flowchart.Decimal.Dyadic

/-!
# Fixed places

The exact value is rounded to a number of decimal places, a half going to the even neighbour. The
sign stays even where only zeros do.
-/

namespace Flowchart

/-- Digits with a point before the last `places` of them, and at least one before the point. -/
def withPoint (places digits : Nat) : List Char :=
  let text := Nat.toDigits 10 digits
  let padded := List.replicate (places + 1 - text.length) '0' ++ text
  let (whole, fraction) := padded.splitAt (padded.length - places)
  whole ++ '.' :: fraction

/-- A sign if the number is negative. -/
def signText (negative : Bool) : List Char :=
  if negative then ['-'] else []

/-- A number with a positive number of decimal places. -/
def fixedText (places : Nat) (x : Float) : List Char :=
  match FloatValue.ofFloat x with
  | .nan => ['N', 'a', 'N']
  | .infinite negative => signText negative ++ ['i', 'n', 'f']
  | .finite value =>
    let (num, den) := powerRatio value.exponent places
    signText value.negative ++ withPoint places (roundHalfEven (value.mantissa * num) den)

end Flowchart
