/-
# `GcodeSender.Proofs.Motion.Exact` — exact arithmetic

Plans, ticks and arcs are computed in any `Scalar`.  Their laws are laws of exact
numbers, and the real numbers are a scalar: a numeral means the number that it
writes, tests are decided, and roots, angles and circular functions are those of
analysis.

Where only the clock has to be exact, any scalar will do whose times can be read
as real numbers (`ExactClock`); in what positions are computed is left open then.
-/
import Mathlib.Analysis.Complex.Arg
import Mathlib.Analysis.SpecialFunctions.Trigonometric.Inverse
import GcodeSender.Motion.Simulation

namespace GcodeSender

open Scalar

/-! ## The reals -/

/-- The number that a numeral writes.  Infinite and undefined numerals write none; they count as
zero. -/
noncomputable def Numeral.toReal : Numeral → ℝ
  | .decimal negative mantissa exponent =>
    (if negative then -1 else 1) * (mantissa * 10 ^ exponent)
  | .infinite _ | .undefined => 0

noncomputable instance : Scalar ℝ where
  ofNumeral := Numeral.toReal
  less a b := decide (a < b)
  same a b := decide (a = b)
  isInfinite _ := false
  sqrt := Real.sqrt
  sin := Real.sin
  cos := Real.cos
  acos := Real.arccos
  atan2 y x := Complex.arg ⟨x, y⟩
  hypot x y := √(x ^ 2 + y ^ 2)
  pi := Real.pi
  wholePart x := ⌊x⌋₊

@[simp] theorem nat_real (n : Nat) : (nat n : ℝ) = n := by
  simp [nat, ofNumeral, Numeral.toReal, Numeral.ofNat]

@[simp] theorem less_real (a b : ℝ) : less a b = decide (a < b) := rfl

@[simp] theorem same_real (a b : ℝ) : same a b = decide (a = b) := rfl

@[simp] theorem atMost_real (a b : ℝ) : atMost a b = decide (a ≤ b) := by
  simp [atMost, le_iff_lt_or_eq]

@[simp] theorem cos_real (φ : ℝ) : cos φ = Real.cos φ := rfl

@[simp] theorem sin_real (φ : ℝ) : sin φ = Real.sin φ := rfl

@[simp] theorem turn_real : (turn : ℝ) = 2 * Real.pi := by
  simp [turn, pi]

@[simp] theorem raiseTo_real (bound x : ℝ) : raiseTo bound x = max bound x := by
  rw [raiseTo, less_real, max_def]
  simp only [decide_eq_true_eq]
  split <;> split <;> first | rfl | linarith

/-- The clamp takes away rounding only. -/
theorem acos_clampUnit (x : ℝ) : acos (clampUnit x) = Real.arccos x := by
  show Real.arccos (clampUnit x) = Real.arccos x
  rw [clampUnit, nat_real, Nat.cast_one]
  simp only [less_real, decide_eq_true_eq]
  split
  · split
    · rfl
    · rw [Real.arccos_neg_one, Real.arccos_of_le_neg_one (by linarith)]
  · rw [if_pos (by norm_num), Real.arccos_one, Real.arccos_of_one_le (by linarith)]

/-! ## An exact clock -/

/-- The times of a clock are real numbers, and are compared, added, subtracted and divided as such. -/
class ExactClock (α : Type) [Scalar α] where
  seconds : α → ℝ
  less_iff (a b : α) : less a b = true ↔ seconds a < seconds b
  seconds_add (a b : α) : seconds (a + b) = seconds a + seconds b
  seconds_sub (a b : α) : seconds (a - b) = seconds a - seconds b
  seconds_div (a b : α) : seconds (a / b) = seconds a / seconds b
  wholePart_eq (a : α) : wholePart a = ⌊seconds a⌋₊

noncomputable instance : ExactClock ℝ where
  seconds := id
  less_iff a b := by simp
  seconds_add _ _ := rfl
  seconds_sub _ _ := rfl
  seconds_div _ _ := rfl
  wholePart_eq _ := rfl

end GcodeSender
