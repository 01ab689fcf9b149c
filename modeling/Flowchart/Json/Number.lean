-- SUMMARY: How JSON text shows a floating point number.
import Flowchart.Decimal.Shortest
import Flowchart.Decimal.Fixed

/-!
# Numbers in JSON text

A number is shown by the fewest digits that read back as it. From 0.00001 on and below 10^16 they
are written positionally, with at least one digit after the point, and otherwise with an exponent.
Zero keeps its sign. There is no JSON number for infinities and NaN.
-/

namespace Flowchart.Json

/-- Significant digits with the point `point` places after the start of them. -/
def placePoint (digits : List Char) (point : Int) : List Char :=
  if point ≤ 0 then '0' :: '.' :: List.replicate (-point).toNat '0' ++ digits
  else
    let point := point.toNat
    if digits.length ≤ point then
      digits ++ List.replicate (point - digits.length) '0' ++ ['.', '0']
    else digits.take point ++ '.' :: digits.drop point

/-- One digit before the point, the others after it, and an exponent with its sign. -/
def withExponent (digits : List Char) (exponent : Int) : List Char :=
  let sign := if exponent < 0 then '-' else '+'
  digits.take 1 ++ (if digits.length > 1 then '.' :: digits.drop 1 else []) ++
    'e' :: sign :: Nat.toDigits 10 exponent.natAbs

/-- The text of a positive decimal. -/
def decimalText (decimal : Decimal) : List Char :=
  let (digits, point) := decimal.significant
  if -5 < point ∧ point ≤ 16 then placePoint digits point
  else withExponent digits (point - 1)

/-- The text of a finite number. -/
def dyadicText (value : Dyadic) : List Char :=
  signText value.negative ++
    if value.mantissa = 0 then ['0', '.', '0'] else decimalText (Decimal.shortest value)

/-- The text of a number, if it is finite. -/
def numberText? (x : Float) : Option (List Char) :=
  match FloatValue.ofFloat x with
  | .finite value => some (dyadicText value)
  | _ => none

end Flowchart.Json
