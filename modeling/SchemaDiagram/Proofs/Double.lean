/-
# The order of doubles

Any two doubles are in order, the other way round, or equal, unless one of them is
undefined: then no comparison holds. So what is above or below something is defined, of
two defined doubles one that is not below the other is at least as large, and a double
taken between two bounds in order lies between them, undefined or not.

Key definitions: `Double.order`, `Double.Defined`.
Key theorems: `Double.lt_iff`, `Double.le_iff`, `Double.defined_of_le`,
`Double.le_of_not_lt`, `Double.lt_of_not_le`, `Double.clamp_mem`.
-/
import Mathlib
import SchemaDiagram.Scalar

namespace SchemaDiagram
namespace Double

open Float.Model

/-! ### Comparing -/

theorem swap_then_compare (e e' : Int) (m m' : Nat) :
    ((compare e e').then (compare m m')).swap = (compare e' e).then (compare m' m) := by
  rw [Ordering.swap_then, Int.compare_swap, Nat.compare_swap]

/-- Comparing the other way round. -/
theorem compare_swap (a b : UnpackedFloat) : b.compare a = (a.compare b).map .swap := by
  cases a with
  | notANumber => cases b <;> rfl
  | infinity s => cases s <;> rcases b with ⟨⟨⟩⟩ | _ | _ | ⟨⟨⟩⟩ <;> rfl
  | zero s => rcases b with ⟨⟨⟩⟩ | _ | _ | ⟨⟨⟩⟩ <;> rfl
  | finite s m e _ =>
    cases b with
    | infinity s' => cases s <;> cases s' <;> rfl
    | notANumber => cases s <;> rfl
    | zero s' => cases s <;> rfl
    | finite s' m' e' _ =>
      cases s with
      | negative =>
        cases s' with
        | negative =>
          exact congrArg (fun o => some (Ordering.swap o)) (swap_then_compare e e' m m').symm
        | positive => rfl
      | positive =>
        cases s' with
        | negative => rfl
        | positive => exact congrArg some (swap_then_compare e e' m m').symm

/-- What is defined is equal to itself. -/
theorem compare_self {a : UnpackedFloat} (h : a.isNaN = false) : a.compare a = some .eq := by
  have hthen : ∀ (e : Int) (m : Nat), (compare e e).then (compare m m) = .eq := by simp
  cases a with
  | notANumber => cases h
  | infinity s => cases s <;> rfl
  | zero s => rfl
  | finite s m e _ =>
    cases s with
    | negative => exact congrArg (fun o => some (Ordering.swap o)) (hthen e m)
    | positive => exact congrArg some (hthen e m)

theorem compare_eq_none_iff {a b : UnpackedFloat} :
    a.compare b = none ↔ a.isNaN = true ∨ b.isNaN = true := by
  rcases a with ⟨⟨⟩⟩ | _ | _ | ⟨⟨⟩, _, _, _⟩ <;>
    rcases b with ⟨⟨⟩⟩ | _ | _ | ⟨⟨⟩, _, _, _⟩ <;>
    simp [UnpackedFloat.compare, UnpackedFloat.isNaN]

/-! ### Doubles -/

/-- The double is a number or infinite. -/
def Defined (x : Float) : Prop :=
  x.isNaN = false

/-- How two doubles are ordered, if both are defined. -/
def order (x y : Float) : Option Ordering :=
  x.toModel.unpack.compare y.toModel.unpack

variable {x y : Float}

theorem lt_iff : x < y ↔ order x y = some .lt := by
  show decide (x.toModel < y.toModel) = true ↔ _
  rw [decide_eq_true_eq]
  exact beq_iff_eq

theorem le_iff : x ≤ y ↔ order x y = some .lt ∨ order x y = some .eq := by
  show decide (x.toModel ≤ y.toModel) = true ↔ _
  rw [decide_eq_true_eq]
  show (order x y).any (·.isLE) = true ↔ _
  cases order x y with
  | none => simp
  | some o => cases o <;> simp

theorem order_swap (x y : Float) : order y x = (order x y).map .swap :=
  compare_swap _ _

theorem order_eq_none_iff : order x y = none ↔ ¬ Defined x ∨ ¬ Defined y := by
  rw [order, compare_eq_none_iff, Defined, Defined, Bool.not_eq_false, Bool.not_eq_false]
  rfl

/-- What is compared with success is defined. -/
theorem defined_of_le (h : x ≤ y) : Defined x ∧ Defined y := by
  have hne : order x y ≠ none := by
    rcases le_iff.1 h with h | h <;> rw [h] <;> exact Option.some_ne_none _
  rw [ne_eq, order_eq_none_iff, not_or, Classical.not_not, Classical.not_not] at hne
  exact hne

theorem le_of_lt (h : x < y) : x ≤ y :=
  le_iff.2 (.inl (lt_iff.1 h))

theorem le_refl (h : Defined x) : x ≤ x :=
  le_iff.2 (.inr (compare_self h))

/-- A defined double that is not below another one is at least as large. -/
theorem le_of_not_lt (hx : Defined x) (hy : Defined y) (h : ¬ y < x) : x ≤ y := by
  rw [lt_iff, order_swap x y] at h
  cases ho : order x y with
  | none =>
    rcases order_eq_none_iff.1 ho with hn | hn
    · exact absurd hx hn
    · exact absurd hy hn
  | some o =>
    rw [ho] at h
    rw [le_iff, ho]
    cases o with
    | lt => exact .inl rfl
    | eq => exact .inr rfl
    | gt => exact absurd rfl h

/-- A defined double that another one does not reach is above it. -/
theorem lt_of_not_le (hx : Defined x) (hy : Defined y) (h : ¬ y ≤ x) : x < y := by
  by_contra hlt
  exact h (le_of_not_lt hy hx hlt)

/-- Between two bounds in order, whatever is taken lies between them. -/
theorem clamp_mem {low high : Float} (h : low ≤ high) (v : Float) :
    low ≤ Scalar.clamp v low high ∧ Scalar.clamp v low high ≤ high := by
  obtain ⟨hlow, hhigh⟩ := defined_of_le h
  rw [Scalar.clamp, Scalar.larger, Scalar.smaller]
  by_cases hv : v < high
  · rw [if_pos hv]
    by_cases hlv : low < v
    · rw [if_pos hlv]
      exact ⟨le_of_lt hlv, le_of_lt hv⟩
    · rw [if_neg hlv]
      exact ⟨le_refl hlow, h⟩
  · rw [if_neg hv]
    by_cases hlh : low < high
    · rw [if_pos hlh]
      exact ⟨h, le_refl hhigh⟩
    · rw [if_neg hlh]
      exact ⟨le_refl hlow, h⟩

end Double
end SchemaDiagram
