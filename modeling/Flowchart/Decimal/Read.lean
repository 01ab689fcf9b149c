-- SUMMARY: Reading a floating point number from a whole text.

/-!
# Reading decimals

A number is a sign or none, digits with at most one point among or around them, and an exponent or
none. Infinity and NaN are read too, in any case. The result is the nearest floating point number.
-/

namespace Flowchart

/-- Why a text is not a number. -/
inductive FloatTextError where
  | empty
  | invalid
  deriving DecidableEq, Repr

def FloatTextError.message : FloatTextError → String
  | empty => "cannot parse float from empty string"
  | invalid => "invalid float literal"

/-- The number that decimal digits stand for. -/
def digitsValue (digits : List Char) : Nat :=
  digits.foldl (fun value c => value * 10 + (c.toNat - '0'.toNat)) 0

/-- A sign, if there is one; true for minus. -/
def readSign : List Char → Bool × List Char
  | '-' :: rest => (true, rest)
  | '+' :: rest => (false, rest)
  | rest => (false, rest)

/-- The exponent that a text consists of. No text is no exponent. -/
def readExponent? : List Char → Option Int
  | [] => some 0
  | c :: rest =>
    let (negative, digits) := readSign rest
    if (c == 'e' || c == 'E') && !digits.isEmpty && digits.all Char.isDigit then
      some (if negative then -digitsValue digits else digitsValue digits)
    else none

/-- The number nearest to `digits · 10 ^ exponent`. Exponents far out of range are not computed
    with. -/
def nearestFloat (digits : List Char) (exponent : Int) : Float :=
  let value := digitsValue digits
  let magnitude := exponent + digits.length
  if value = 0 || magnitude < -400 then 0
  else if exponent > 400 then 1 / 0
  else Float.ofScientific value (exponent < 0) exponent.natAbs

/-- A text that is a number without a sign. -/
def readUnsigned? (s : List Char) : Option Float :=
  let word := s.map Char.toLower
  if word = "inf".toList ∨ word = "infinity".toList then some (1 / 0)
  else if word = "nan".toList then some (0 / 0)
  else
    let whole := s.takeWhile Char.isDigit
    let (fraction, rest) :=
      match s.dropWhile Char.isDigit with
      | '.' :: rest => (rest.takeWhile Char.isDigit, rest.dropWhile Char.isDigit)
      | rest => ([], rest)
    if whole.isEmpty && fraction.isEmpty then none
    else
      (readExponent? rest).map fun exponent =>
        nearestFloat (whole ++ fraction) (exponent - fraction.length)

/-- A text that is a number. -/
def readFloat (s : List Char) : Except FloatTextError Float :=
  if s.isEmpty then .error .empty
  else
    let (negative, rest) := readSign s
    match readUnsigned? rest with
    | some value => .ok (if negative then -value else value)
    | none => .error .invalid

end Flowchart
