-- SUMMARY: Character properties given as ascending lists of closed code point ranges.

/-!
# Code point ranges

A property of characters is a list of closed ranges in ascending order. Membership stops at the
first range that starts beyond the code point.
-/

namespace Flowchart.Text

/-- Closed ranges of code points, ascending and apart from each other. -/
abbrev Ranges := List (Nat × Nat)

/-- A code point is in the list when it is in one of its ranges. -/
def Ranges.holds (code : Nat) : Ranges → Bool
  | [] => false
  | (first, last) :: rest =>
    if code < first then false else Nat.ble code last || Ranges.holds code rest

/-- A character has the property when its code point is in the list. -/
def Ranges.contains (ranges : Ranges) (c : Char) : Bool :=
  ranges.holds c.toNat

end Flowchart.Text
