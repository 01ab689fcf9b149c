-- SUMMARY: Display width is a number of columns, and a space starts counting anew.
import Flowchart.Text.Width

/-!
# Display width

Some characters take back columns that were counted for the text after them. They never take back
more than that text has: what can still be taken back is known from how the text starts. So no text
has a negative width. A space joins with nothing, and the widths of the texts around it add up.
-/

namespace Flowchart.Text

/-! ## What can be taken back -/

/-- The columns that characters before a joint can still take back. -/
def Joint.owed : Joint → Int
  | .joinedIndicator | .tifinaghJoiner | .khmerLetter => 1
  | .joinedFlags even => if even then 0 else 1
  | _ => 0

theorem Joint.owed_nonneg (joint : Joint) : 0 ≤ joint.owed := by
  fun_cases Joint.owed joint <;> grind

theorem Joint.owed_tied (joint : Joint) : joint.tied.owed = joint.owed := by
  cases joint <;> rfl

theorem Follow.owed_kept_le (next : Follow) : next.kept.joint.owed ≤ next.joint.owed := by
  unfold Follow.kept
  split
  · exact Int.le_refl _
  · exact next.joint.owed_nonneg

/-- Joining takes back no more than is owed. -/
theorem Joint.owed_le_of_join? {joint left : Joint} {n : Nat} {width : Int}
    (h : joint.join? n = some (width, left)) : left.owed ≤ joint.owed + width := by
  cases joint <;> grind [Joint.join?, Joint.owed]

/-- A character on its own counts for all that it lets others take back. -/
theorem owed_plainWidth_le (n : Nat) : (plainWidth n).2.joint.owed ≤ (plainWidth n).1 := by
  fun_cases plainWidth n <;> decide

/-- Selectors that asked in vain leave nothing more to take back. -/
theorem Follow.owed_asked_le (next : Follow) (selectors : Selectors) :
    (if next.selectors.emoji then ⟨next.kept.joint, selectors⟩ else next : Follow).joint.owed ≤
      next.joint.owed := by
  split
  · exact next.owed_kept_le
  · exact Int.le_refl _

theorem Follow.owed_le_of_eq {next : Follow} {joint : Joint} {selectors : Selectors} {most : Int}
    (h : next = ⟨joint, selectors⟩) (hmost : next.joint.owed ≤ most) : joint.owed ≤ most := by
  rwa [h] at hmost

/-- No character takes back more than is owed before the text after it. -/
theorem owed_widthBefore_le (c : Char) (next : Follow) :
    (widthBefore c next).2.joint.owed ≤ next.joint.owed + (widthBefore c next).1 := by
  have hnonneg := next.joint.owed_nonneg
  have hasked := next.owed_asked_le { next.kept.selectors with emoji := false }
  fun_cases widthBefore c next with
  | case1 | case2 | case3 | case4 | case8 | case9 =>
    -- Nothing is owed before the new start.
    grind [Joint.owed, Follow.nothing]
  | case5 n _ asked joint selectors heq _ _ left =>
    have hleft : left.joint.owed ≤ asked.joint.owed := by
      unfold left
      split
      · exact Int.le_refl _
      · exact asked.owed_kept_le
    simpa using Int.le_trans hleft hasked
  | case6 n _ asked => simpa using Int.le_trans asked.owed_kept_le hasked
  | case7 n _ asked => simpa using Int.le_trans asked.owed_kept_le hasked
  | case10 n _ asked joint selectors heq =>
    simpa [joint.owed_tied] using Follow.owed_le_of_eq heq hasked
  | case11 n _ asked joint selectors heq =>
    simpa using Follow.owed_le_of_eq heq hasked
  | case12 n _ asked joint selectors heq _ _ _ _ _ _ _ _ width left hjoin =>
    have hjoint : joint.owed ≤ next.joint.owed := Follow.owed_le_of_eq heq hasked
    exact Int.le_trans (Joint.owed_le_of_join? hjoin) (Int.add_le_add_right hjoint width)
  | case13 n =>
    exact Int.le_trans (owed_plainWidth_le n) (Int.le_add_of_nonneg_left hnonneg)

/-! ## Texts -/

/-- A text has the columns that are owed before it. -/
theorem owed_widthAndStart_le (s : List Char) :
    (widthAndStart s).2.joint.owed ≤ (widthAndStart s).1 := by
  induction s with
  | nil => decide
  | cons c rest ih =>
    have hstep := owed_widthBefore_le c (widthAndStart rest).2
    simp only [widthAndStart]
    omega

theorem widthAndStart_nonneg (s : List Char) : 0 ≤ (widthAndStart s).1 :=
  Int.le_trans (widthAndStart s).2.joint.owed_nonneg (owed_widthAndStart_le s)

/-- Where nothing joins, widths add up. -/
theorem widthAndStart_append (s : List Char) {t : List Char}
    (h : (widthAndStart t).2 = .nothing) :
    widthAndStart (s ++ t) =
      ((widthAndStart t).1 + (widthAndStart s).1, (widthAndStart s).2) := by
  induction s with
  | nil => simp [widthAndStart, ← h]
  | cons c s ih => simp [widthAndStart, ih, Int.add_assoc]

theorem displayWidth_append (s : List Char) {t : List Char}
    (h : (widthAndStart t).2 = .nothing) :
    displayWidth (s ++ t) = displayWidth s + displayWidth t := by
  rw [displayWidth, widthAndStart_append s h, Int.toNat_add, Nat.add_comm]
  · rfl
  · exact widthAndStart_nonneg t
  · exact widthAndStart_nonneg s

theorem widthBefore_space (next : Follow) : widthBefore ' ' next = (1, .nothing) := by
  have hplain : Ranges.holds 32 emojiSelectableRanges = false := rfl
  simp [widthBefore, hplain]

theorem widthAndStart_space (s : List Char) :
    widthAndStart (' ' :: s) = ((widthAndStart s).1 + 1, .nothing) := by
  simp only [widthAndStart, widthBefore_space]

theorem displayWidth_space (s : List Char) : displayWidth (' ' :: s) = displayWidth s + 1 := by
  rw [displayWidth, widthAndStart_space]
  exact Int.toNat_add_nat (widthAndStart_nonneg s) 1

/-- A space counts one column, whatever stands around it. -/
theorem displayWidth_append_space (s t : List Char) :
    displayWidth (s ++ ' ' :: t) = displayWidth s + 1 + displayWidth t := by
  have hspace : (widthAndStart (' ' :: t)).2 = .nothing := by rw [widthAndStart_space]
  calc displayWidth (s ++ ' ' :: t)
    _ = displayWidth s + displayWidth (' ' :: t) := displayWidth_append s hspace
    _ = displayWidth s + (1 + displayWidth t) := by rw [displayWidth_space, Nat.add_comm 1]
    _ = displayWidth s + 1 + displayWidth t := (Nat.add_assoc _ 1 _).symm

theorem displayWidth_append_spaces (s : List Char) (n : Nat) :
    displayWidth (s ++ List.replicate n ' ') = displayWidth s + n := by
  induction n with
  | zero => rw [List.replicate_zero, List.append_nil, Nat.add_zero]
  | succ n ih =>
    rw [List.replicate_succ', ← List.append_assoc, displayWidth_append_space, ih]
    rfl

end Flowchart.Text
