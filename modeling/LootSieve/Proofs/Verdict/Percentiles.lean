import LootSieve.Verdict.Percent
import Mathlib.Algebra.Order.Field.Rat
import Mathlib.Tactic.FieldSimp
import Mathlib.Tactic.Linarith
import Mathlib.Tactic.NormNum
import Mathlib.Tactic.Ring

/-!
The position of a roll in exact arithmetic. A falling scale is checked from its far end, with the
percentage that is missing and the slack on the other side, and yet it asks for the same as a rising
one: the way from the first bound to the roll, as a share of the whole way, with the slack added.
-/

namespace LootSieve

instance RollNumber.instRat : RollNumber ℚ where
  decideLE := inferInstance
  decideLT := inferInstance
  ofPercent percent := percent / 100
  slack := 1 / 10 ^ 9

/-- The way from the first bound to a roll, as a share of the way to the second. -/
def position (value low high : ℚ) : ℚ := (value - low) / (high - low)

section Position
variable {low high : ℚ} (extent : low ≠ high)
include extent

theorem position_swap (value : ℚ) : position value high low = 1 - position value low high := by
  have rising : high - low ≠ 0 := sub_ne_zero.2 extent.symm
  have falling : low - high ≠ 0 := sub_ne_zero.2 extent
  unfold position
  field_simp
  ring

theorem position_of_share (share : ℚ) : position (low + share * (high - low)) low high = share := by
  have rising : high - low ≠ 0 := sub_ne_zero.2 extent.symm
  rw [position, add_sub_cancel_left, mul_div_cancel_right₀ share rising]

end Position

theorem position_neg (value low high : ℚ) :
    position (-value) (-low) (-high) = position value low high := by
  unfold position
  rw [← neg_sub', ← neg_sub', neg_div_neg_eq]

section Scales
variable {percent : Nat} {low high : ℚ} (value : ℚ)

theorem reachesPercent_iff_of_rising (rising : low < high) :
    reachesPercent percent value low high = true ↔
      (percent : ℚ) / 100 ≤ position value low high + 1 / 10 ^ 9 := by
  unfold reachesPercent
  rw [if_pos rising, decide_eq_true_eq]
  rfl

/-- What is asked of the way back is asked of the way forth. -/
theorem reachesPercent_iff_of_falling (falling : high < low) (most : percent ≤ 100) :
    reachesPercent percent value low high = true ↔
      (percent : ℚ) / 100 ≤ position value low high + 1 / 10 ^ 9 := by
  have missing : ((100 - percent : Nat) : ℚ) / 100 = 1 - percent / 100 := by
    rw [Nat.cast_sub most]
    ring
  calc reachesPercent percent value low high = true
      ↔ position value high low ≤ ((100 - percent : Nat) : ℚ) / 100 + 1 / 10 ^ 9 := by
        unfold reachesPercent
        rw [if_neg falling.not_gt, if_pos falling, decide_eq_true_eq]
        rfl
    _ ↔ 1 - position value low high ≤ 1 - percent / 100 + 1 / 10 ^ 9 := by
        rw [position_swap falling.ne', missing]
    _ ↔ (percent : ℚ) / 100 ≤ position value low high + 1 / 10 ^ 9 := by
        constructor <;> intro bound <;> linarith

theorem passesPercent_iff (positive : 1 ≤ percent) (most : percent ≤ 100) (extent : low ≠ high) :
    passesPercent percent (some value) (some low) (some high) = true ↔
      (percent : ℚ) / 100 ≤ position value low high + 1 / 10 ^ 9 := by
  have asked : percent ≠ 0 := by omega
  rw [passesPercent, Bool.or_eq_true, decide_eq_true_eq, or_iff_right asked]
  rcases lt_or_gt_of_ne extent with rising | falling
  · exact reachesPercent_iff_of_rising value rising
  · exact reachesPercent_iff_of_falling value falling most

end Scales

/-- A roll passes exactly if its position, with the slack, is at least the percentage, on rising and
falling scales alike. So a roll right at the percentage passes, a roll that passes does so at every
smaller percentage, and a scale may be mirrored. -/
theorem passesPercent_law (percent : Nat) (positive : 1 ≤ percent) (most : percent ≤ 100)
    {low high : ℚ} (extent : low ≠ high) (value : ℚ) :
    (passesPercent percent (some value) (some low) (some high) = true ↔
      (value - low) / (high - low) + 1 / 10 ^ 9 ≥ (percent : ℚ) / 100) ∧
    passesPercent percent (some (low + (percent : ℚ) / 100 * (high - low))) (some low)
      (some high) = true ∧
    (passesPercent percent (some value) (some low) (some high) = true →
      ∀ fewer ≤ percent, passesPercent fewer (some value) (some low) (some high) = true) ∧
    passesPercent percent (some (-value)) (some (-low)) (some (-high)) =
      passesPercent percent (some value) (some low) (some high) := by
  have law := passesPercent_iff value positive most extent
  refine ⟨law, ?_, ?_, ?_⟩
  · rw [passesPercent_iff _ positive most extent, position_of_share extent]
    norm_num
  · intro passes fewer within
    by_cases unasked : fewer = 0
    · subst unasked
      rfl
    · rw [passesPercent_iff value (Nat.pos_of_ne_zero unasked) (within.trans most) extent]
      have smaller : (fewer : ℚ) ≤ percent := Nat.cast_le.2 within
      have enough := law.1 passes
      linarith
  · have mirrored : -low ≠ -high := neg_injective.ne extent
    rw [Bool.eq_iff_iff, passesPercent_iff _ positive most mirrored, position_neg, law]

/-- On the scale from 0.3 down to 0.1 a roll of 0.14 stands at 80 percent. -/
theorem shrinkingRoll_passes :
    passesPercent 80 (some (14 / 100 : ℚ)) (some (3 / 10)) (some (1 / 10)) = true ∧
    passesPercent 20 (some (14 / 100 : ℚ)) (some (3 / 10)) (some (1 / 10)) = true ∧
    passesPercent 80 (some (-(14 / 100) : ℚ)) (some (-(3 / 10))) (some (-(1 / 10))) = true ∧
    passesPercent 81 (some (14 / 100 : ℚ)) (some (3 / 10)) (some (1 / 10)) = false := by
  have extent : (3 / 10 : ℚ) ≠ 1 / 10 := by norm_num
  obtain ⟨at80, _, smaller, mirrored⟩ :=
    passesPercent_law 80 (by decide) (by decide) extent (14 / 100)
  obtain ⟨at81, _⟩ := passesPercent_law 81 (by decide) (by decide) extent (14 / 100)
  have passes := at80.2 (by norm_num)
  refine ⟨passes, smaller passes 20 (by decide), mirrored.trans passes, ?_⟩
  rw [← Bool.not_eq_true, at81]
  norm_num

end LootSieve
