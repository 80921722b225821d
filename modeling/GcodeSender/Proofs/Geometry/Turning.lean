/-
# `GcodeSender.Proofs.Geometry.Turning` — the plane turned about a point

With exact numbers a vector is turned by the usual formulas, and angles count
counter-clockwise:

    rotated φ a         the vector `a`, turned by `φ`
    p.turned centre φ   the point `p`, turned by `φ` about a centre
    angleTo a b         the angle from `a` to `b`, above `−π` and up to `π`

Turning keeps lengths, and two turns add up.  The angle from one vector to
another is what the first has to be turned by to point where the second does
(`length_scale_rotated_angleTo`); where both are as long, it arrives there.

A tick of an arc goes through polar coordinates: it reads the angle of a vector,
adds to it, and takes cosine and sine.  That is a turn, wherever the branch cut
of the angle lies (`rotated_eq_polar`).
-/
import Mathlib
import GcodeSender.Proofs.Motion.Exact

namespace GcodeSender

open Scalar

namespace Point

@[ext] theorem ext {p q : Point ℝ} (x : p.x = q.x) (y : p.y = q.y) : p = q := by
  obtain ⟨_, _⟩ := p
  obtain ⟨_, _⟩ := q
  obtain rfl : _ = _ := x
  obtain rfl : _ = _ := y
  rfl

/-! ## Vectors -/

theorem length_eq (a : Point ℝ) : a.length = √(a.x ^ 2 + a.y ^ 2) := rfl

theorem length_nonneg (a : Point ℝ) : 0 ≤ a.length := Real.sqrt_nonneg _

theorem sq_length (a : Point ℝ) : a.length ^ 2 = a.x ^ 2 + a.y ^ 2 :=
  Real.sq_sqrt (by positivity)

theorem length_on_axis (x : ℝ) : (⟨x, 0⟩ : Point ℝ).length = |x| := by
  rw [length_eq, zero_pow two_ne_zero, add_zero, Real.sqrt_sq_eq_abs]

theorem length_eq_zero_iff {a : Point ℝ} : a.length = 0 ↔ a.x = 0 ∧ a.y = 0 := by
  rw [← sq_eq_zero_iff, sq_length]
  constructor
  · intro none
    constructor <;> nlinarith [sq_nonneg a.x, sq_nonneg a.y]
  · rintro ⟨x, y⟩
    rw [x, y]
    norm_num

theorem length_sub_pos {p q : Point ℝ} (apart : p ≠ q) : 0 < (p.sub q).length := by
  refine lt_of_le_of_ne (length_nonneg _) fun none => apart ?_
  obtain ⟨x, y⟩ := length_eq_zero_iff.1 none.symm
  exact ext (sub_eq_zero.1 x) (sub_eq_zero.1 y)

/-- Dot and cross product are the legs of a triangle whose long side is the product of the
lengths. -/
theorem sq_dot_add_sq_cross (a b : Point ℝ) :
    a.dot b ^ 2 + a.cross b ^ 2 = (a.length * b.length) ^ 2 := by
  rw [mul_pow, sq_length, sq_length, dot, cross]
  ring

theorem cross_comm (a b : Point ℝ) : b.cross a = -a.cross b := by
  rw [cross, cross]
  ring

theorem dot_comm (a b : Point ℝ) : b.dot a = a.dot b := by
  rw [dot, dot]
  ring

/-! ## Turning -/

/-- A vector, turned counter-clockwise. -/
noncomputable def rotated (φ : ℝ) (a : Point ℝ) : Point ℝ :=
  ⟨cos φ * a.x - sin φ * a.y, sin φ * a.x + cos φ * a.y⟩

theorem length_rotated (φ : ℝ) (a : Point ℝ) : (a.rotated φ).length = a.length := by
  rw [length_eq, length_eq]
  congr 1
  simp only [rotated, cos_real, sin_real]
  linear_combination (a.x ^ 2 + a.y ^ 2) * Real.cos_sq_add_sin_sq φ

theorem rotated_rotated (φ ψ : ℝ) (a : Point ℝ) : (a.rotated ψ).rotated φ = a.rotated (φ + ψ) := by
  ext <;> simp only [rotated, cos_real, sin_real, Real.cos_add, Real.sin_add] <;> ring

theorem rotated_zero (a : Point ℝ) : a.rotated 0 = a := by
  ext <;> simp [rotated]

/-- A full turn less is the same turn. -/
theorem rotated_sub_turn (φ : ℝ) (a : Point ℝ) : a.rotated (φ - 2 * Real.pi) = a.rotated φ := by
  ext <;> simp only [rotated, cos_real, sin_real, Real.cos_sub_two_pi, Real.sin_sub_two_pi]

/-- Polar coordinates: the angle of a vector, and more. -/
theorem rotated_eq_polar (a : Point ℝ) (φ : ℝ) :
    a.rotated φ = ⟨a.length * cos (atan2 a.y a.x + φ), a.length * sin (atan2 a.y a.x + φ)⟩ := by
  have length : a.length = ‖(⟨a.x, a.y⟩ : ℂ)‖ := by
    rw [length_eq, Complex.norm_eq_sqrt_sq_add_sq]
  have x : a.length * Real.cos (atan2 a.y a.x) = a.x := by
    rw [length]
    exact Complex.norm_mul_cos_arg _
  have y : a.length * Real.sin (atan2 a.y a.x) = a.y := by
    rw [length]
    exact Complex.norm_mul_sin_arg _
  ext <;> simp only [rotated, cos_real, sin_real, Real.cos_add, Real.sin_add]
  · linear_combination -Real.cos φ * x + Real.sin φ * y
  · linear_combination -Real.sin φ * x - Real.cos φ * y

/-- A point, turned counter-clockwise about a centre. -/
noncomputable def turned (p centre : Point ℝ) (φ : ℝ) : Point ℝ :=
  ⟨centre.x + ((p.sub centre).rotated φ).x, centre.y + ((p.sub centre).rotated φ).y⟩

section Turned
variable (p centre : Point ℝ) (φ ψ : ℝ)

@[simp] theorem turned_sub : (p.turned centre φ).sub centre = (p.sub centre).rotated φ := by
  ext <;> simp [turned, sub]

theorem turned_turned : (p.turned centre ψ).turned centre φ = p.turned centre (φ + ψ) := by
  rw [turned, turned_sub, rotated_rotated, turned]

theorem turned_zero : p.turned centre 0 = p := by
  rw [turned, rotated_zero]
  exact ext (add_sub_cancel _ _) (add_sub_cancel _ _)

/-- Turning goes round on a circle. -/
theorem length_turned_sub : ((p.turned centre φ).sub centre).length = (p.sub centre).length := by
  rw [turned_sub, length_rotated]

end Turned

/-! ## The angle between two vectors -/

/-- The angle from one vector to another, counter-clockwise; above `−π` and up to `π`. -/
noncomputable def angleTo (a b : Point ℝ) : ℝ := atan2 (a.cross b) (a.dot b)

section AngleTo
variable {a b : Point ℝ}

theorem angleTo_le_pi (a b : Point ℝ) : a.angleTo b ≤ Real.pi := Complex.arg_le_pi _

theorem neg_pi_lt_angleTo (a b : Point ℝ) : -Real.pi < a.angleTo b := Complex.neg_pi_lt_arg _

theorem norm_dot_cross (a b : Point ℝ) : ‖(⟨a.dot b, a.cross b⟩ : ℂ)‖ = a.length * b.length := by
  rw [Complex.norm_eq_sqrt_sq_add_sq, sq_dot_add_sq_cross,
    Real.sqrt_sq (mul_nonneg a.length_nonneg b.length_nonneg)]

theorem angleTo_of_cross_pos (left : 0 < a.cross b) :
    a.angleTo b = Real.arccos (a.dot b / (a.length * b.length)) := by
  rw [← norm_dot_cross]
  exact Complex.arg_of_im_pos left

theorem angleTo_of_cross_neg (right : a.cross b < 0) :
    a.angleTo b = -Real.arccos (a.dot b / (a.length * b.length)) := by
  rw [← norm_dot_cross]
  exact Complex.arg_of_im_neg right

theorem angleTo_neg_iff : a.angleTo b < 0 ↔ a.cross b < 0 := Complex.arg_neg_iff

theorem angleTo_eq_zero_iff : a.angleTo b = 0 ↔ 0 ≤ a.dot b ∧ a.cross b = 0 :=
  Complex.arg_eq_zero_iff

theorem angleTo_eq_pi_iff : a.angleTo b = Real.pi ↔ a.dot b < 0 ∧ a.cross b = 0 :=
  Complex.arg_eq_pi_iff

/-- There and back again; opposite vectors are half a turn apart both ways. -/
theorem angleTo_comm (a b : Point ℝ) :
    b.angleTo a = if a.angleTo b = Real.pi then Real.pi else -a.angleTo b := by
  have conj : (⟨b.dot a, b.cross a⟩ : ℂ) = (starRingEnd ℂ) ⟨a.dot b, a.cross b⟩ := by
    rw [cross_comm a b, dot_comm a b]
    rfl
  show Complex.arg ⟨b.dot a, b.cross a⟩ = _
  rw [conj]
  exact Complex.arg_conj _

/-- Turned by the angle to it, a vector points where the other one does. -/
theorem length_scale_rotated_angleTo (ha : a.length ≠ 0) (hb : b.length ≠ 0) :
    b.length * (a.rotated (a.angleTo b)).x = a.length * b.x ∧
      b.length * (a.rotated (a.angleTo b)).y = a.length * b.y := by
  have norm := norm_dot_cross a b
  have some : (⟨a.dot b, a.cross b⟩ : ℂ) ≠ 0 := by
    rw [← norm_ne_zero_iff, norm]
    exact mul_ne_zero ha hb
  have hcos : Real.cos (a.angleTo b) = a.dot b / (a.length * b.length) := by
    rw [← norm]
    exact Complex.cos_arg some
  have hsin : Real.sin (a.angleTo b) = a.cross b / (a.length * b.length) := by
    rw [← norm]
    exact Complex.sin_arg _
  have square := sq_length a
  simp only [rotated, cos_real, sin_real, hcos, hsin, dot, cross]
  constructor <;> field_simp <;> rw [square] <;> ring

/-- Where both are as long, it arrives at the other one. -/
theorem rotated_angleTo (ha : a.length ≠ 0) (same : a.length = b.length) :
    a.rotated (a.angleTo b) = b := by
  obtain ⟨x, y⟩ := length_scale_rotated_angleTo ha (same ▸ ha)
  rw [← same] at x y
  exact ext (mul_left_cancel₀ ha x) (mul_left_cancel₀ ha y)

end AngleTo

end Point

end GcodeSender
