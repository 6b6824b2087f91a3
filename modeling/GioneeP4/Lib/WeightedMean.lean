-- SUMMARY: Means of natural numbers by natural weights, rounded down: bounds, monotonicity and the mean of equal values.
import Mathlib.Algebra.BigOperators.Fin
import Mathlib.Algebra.Order.BigOperators.Group.Finset

/-!
# Weighted means

A mean lies between any bounds of its values, grows with each of them, and is the
common value when there is only one. The rounding is harmless for all of these as
soon as the weights do not vanish together.
-/

namespace WeightedMean

open Finset

variable {ι : Type*} [Fintype ι] {w x y : ι → ℕ} {a b : ℕ}

/-- The mean of values by weights, rounded down. -/
def mean (w x : ι → ℕ) : ℕ := (∑ i, w i * x i) / ∑ i, w i

theorem sum_le_mul (h : ∀ i, x i ≤ b) : ∑ i, w i * x i ≤ b * ∑ i, w i := by
  calc ∑ i, w i * x i ≤ ∑ i, w i * b := sum_le_sum fun i _ => Nat.mul_le_mul_left _ (h i)
    _ = b * ∑ i, w i := by rw [← sum_mul, Nat.mul_comm]

theorem mul_le_sum (h : ∀ i, a ≤ x i) : a * ∑ i, w i ≤ ∑ i, w i * x i := by
  calc a * ∑ i, w i = ∑ i, w i * a := by rw [← sum_mul, Nat.mul_comm]
    _ ≤ ∑ i, w i * x i := sum_le_sum fun i _ => Nat.mul_le_mul_left _ (h i)

theorem mean_le (h : ∀ i, x i ≤ b) : mean w x ≤ b :=
  Nat.div_le_of_le_mul (by rw [Nat.mul_comm]; exact sum_le_mul h)

theorem le_mean (hpos : 0 < ∑ i, w i) (h : ∀ i, a ≤ x i) : a ≤ mean w x :=
  (Nat.le_div_iff_mul_le hpos).mpr (mul_le_sum h)

theorem mean_mono (h : ∀ i, x i ≤ y i) : mean w x ≤ mean w y :=
  Nat.div_le_div_right (sum_le_sum fun i _ => Nat.mul_le_mul_left _ (h i))

theorem mean_const (hpos : 0 < ∑ i, w i) (h : ∀ i, x i = a) : mean w x = a :=
  le_antisymm (mean_le fun i => (h i).le) (le_mean hpos fun i => (h i).ge)

end WeightedMean
