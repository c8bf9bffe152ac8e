/-
# Exact lengths

What is drawn with doubles is reasoned about with rationals. On these the larger
and the smaller of two numbers are their maximum and minimum, a number taken
between two bounds is between them, and dividing fails for zero only.

Key theorems: `Scalar.le_clamp`, `Scalar.clamp_le`, `Scalar.le_clamp_iff`,
`Scalar.clamp_le_iff`, `Scalar.quotient_of_ne_zero`, `Scalar.quotient_eq_error_iff`.
-/
import Mathlib.Algebra.Order.Field.Rat
import Mathlib.Order.MinMax
import Mathlib.Tactic.NormNum
import SchemaDiagram.Scalar

namespace SchemaDiagram
namespace Scalar

instance : Scalar ℚ where
  ofInt n := n
  reaches _ := true
  isZero x := decide (x = 0)
  decideLT := inferInstance
  decideLE := inferInstance

theorem zero_literal : (0.0 : ℚ) = 0 := by
  norm_num

theorem two_literal : (2.0 : ℚ) = 2 := by
  norm_num

theorem pos_of_literal {a : ℚ} (h : 0.0 < a) : 0 < a :=
  lt_of_eq_of_lt zero_literal.symm h

theorem nonneg_of_literal {a : ℚ} (h : 0.0 ≤ a) : 0 ≤ a :=
  le_of_eq_of_le zero_literal.symm h

theorem larger_eq_max (a b : ℚ) : larger a b = max a b := by
  unfold larger
  split
  · next h => exact (max_eq_right (le_of_lt h)).symm
  · next h => exact (max_eq_left (not_lt.1 h)).symm

theorem smaller_eq_min (a b : ℚ) : smaller a b = min a b := by
  unfold smaller
  split
  · next h => exact (min_eq_right (le_of_lt h)).symm
  · next h => exact (min_eq_left (not_lt.1 h)).symm

theorem clamp_eq (v low high : ℚ) : clamp v low high = max low (min high v) := by
  rw [clamp, larger_eq_max, smaller_eq_min]

theorem le_clamp (v low high : ℚ) : low ≤ clamp v low high := by
  rw [clamp_eq]
  exact le_max_left _ _

theorem clamp_le {low high : ℚ} (h : low ≤ high) (v : ℚ) : clamp v low high ≤ high := by
  rw [clamp_eq]
  exact max_le h (min_le_left _ _)

theorem clamp_of_mem {v low high : ℚ} (hlow : low ≤ v) (hhigh : v ≤ high) :
    clamp v low high = v := by
  rw [clamp_eq, min_eq_right hhigh, max_eq_right hlow]

theorem le_clamp_iff {x v low high : ℚ} :
    x ≤ clamp v low high ↔ x ≤ low ∨ x ≤ high ∧ x ≤ v := by
  rw [clamp_eq, le_max_iff, le_min_iff]

theorem clamp_le_iff {x v low high : ℚ} :
    clamp v low high ≤ x ↔ low ≤ x ∧ (high ≤ x ∨ v ≤ x) := by
  rw [clamp_eq, max_le_iff, min_le_iff]

theorem quotient_of_ne_zero (a : ℚ) {b : ℚ} (h : b ≠ 0) : quotient a b = .ok (a / b) :=
  if_neg fun hz => h (of_decide_eq_true hz)

theorem quotient_eq_error_iff {a b : ℚ} {f : Fault} :
    quotient a b = .error f ↔ f = .divisionByZero ∧ b = 0 := by
  by_cases hb : b = 0
  · have hquotient : quotient a b = .error .divisionByZero := if_pos (decide_eq_true hb)
    rw [hquotient, Except.error.injEq]
    exact ⟨fun h => ⟨h.symm, hb⟩, fun h => h.1.symm⟩
  · rw [quotient_of_ne_zero a hb]
    exact ⟨fun h => (by cases h), fun h => absurd h.2 hb⟩

end Scalar
end SchemaDiagram
