/-
# `GcodeSender.Proofs.Geometry.Direction` — the sweep leads from direction to direction

The ends of an arc need not be at one distance from its centre: the words of a
line give both, and they may disagree.  Then no turn takes the one end to the
other, but a turn still takes the one *direction* to the other:

    direction a    the vector of length one that points where `a` does

Which turns do is a matter of whole turns.  Two of them that lead to one place
have the same cosine and the same sine, so their angles are a multiple of `2π`
apart (`eq_of_rotated_eq`).  In `(0, 2π]` there is only one, clockwise, and the
sweep is it (`sweep_turns_clockwise`).
-/
import GcodeSender.Proofs.Geometry.Sweep

namespace GcodeSender

open Scalar

/-! ## Directions -/

namespace Point

/-- The direction of a vector. -/
noncomputable def direction (a : Point ℝ) : Point ℝ := ⟨a.x / a.length, a.y / a.length⟩

section Direction
variable {a b : Point ℝ}

theorem length_direction (ha : a.length ≠ 0) : a.direction.length = 1 := by
  have square : a.direction.length ^ 2 = 1 := by
    rw [sq_length, direction, div_pow, div_pow, ← add_div, ← sq_length,
      div_self (pow_ne_zero 2 ha)]
  exact (pow_eq_one_iff_of_nonneg (length_nonneg _) two_ne_zero).1 square

/-- Turning a vector turns its direction. -/
theorem direction_rotated (φ : ℝ) (a : Point ℝ) :
    (a.rotated φ).direction = a.direction.rotated φ := by
  rw [direction, length_rotated]
  ext <;> simp only [rotated, direction] <;> ring

/-- The angle from one vector to another turns the one direction into the other. -/
theorem direction_rotated_angleTo (ha : a.length ≠ 0) (hb : b.length ≠ 0) :
    a.direction.rotated (a.angleTo b) = b.direction := by
  obtain ⟨x, y⟩ := length_scale_rotated_angleTo ha hb
  rw [← direction_rotated, direction, direction, length_rotated]
  ext
  · rw [div_eq_div_iff ha hb]
    linarith
  · rw [div_eq_div_iff ha hb]
    linarith

end Direction

/-! ## What a turn tells of its angle -/

theorem dot_rotated (φ : ℝ) (a : Point ℝ) : a.dot (a.rotated φ) = Real.cos φ * a.length ^ 2 := by
  rw [sq_length]
  simp only [dot, rotated, cos_real, sin_real]
  ring

theorem cross_rotated (φ : ℝ) (a : Point ℝ) : a.cross (a.rotated φ) = Real.sin φ * a.length ^ 2 := by
  rw [sq_length]
  simp only [cross, rotated, cos_real, sin_real]
  ring

/-- Two turns, less than a whole one apart, that take a vector to one place are one turn. -/
theorem eq_of_rotated_eq {a : Point ℝ} (ha : a.length ≠ 0) {φ ψ : ℝ} (near : |φ - ψ| < 2 * Real.pi)
    (same : a.rotated φ = a.rotated ψ) : φ = ψ := by
  have square : a.length ^ 2 ≠ 0 := pow_ne_zero 2 ha
  have hcos : Real.cos φ = Real.cos ψ := by
    apply mul_right_cancel₀ square
    rw [← dot_rotated, same, dot_rotated]
  have hsin : Real.sin φ = Real.sin ψ := by
    apply mul_right_cancel₀ square
    rw [← cross_rotated, same, cross_rotated]
  obtain ⟨k, turns⟩ := Real.Angle.angle_eq_iff_two_pi_dvd_sub.1 (Real.Angle.cos_sin_inj hcos hsin)
  -- the angles are `k` whole turns apart, and that is fewer than one
  have none : k = 0 := by
    rw [turns, abs_mul, abs_of_pos Real.two_pi_pos] at near
    have less : |(k : ℝ)| < 1 := by nlinarith [Real.pi_pos]
    exact Int.abs_lt_one_iff.1 (by exact_mod_cast less)
  rw [none, Int.cast_zero, mul_zero] at turns
  exact sub_eq_zero.1 turns

end Point

/-! ## The sweep -/

namespace Arc

open Point

/-- The sweep is above zero and at most a whole turn, and to turn clockwise by it leads from the
direction of the start, seen from the centre, to that of the end.  No other angle in that range
does. -/
theorem sweep_turns_clockwise {start stop centre : Point ℝ} (hstart : start ≠ centre)
    (hstop : stop ≠ centre) :
    (0 < sweep start stop centre ∧ sweep start stop centre ≤ 2 * Real.pi) ∧
      (start.sub centre).direction.rotated (-sweep start stop centre) =
        (stop.sub centre).direction ∧
      ∀ φ : ℝ, 0 < φ → φ ≤ 2 * Real.pi →
        (start.sub centre).direction.rotated (-φ) = (stop.sub centre).direction →
          φ = sweep start stop centre := by
  have ha := (length_sub_pos hstart).ne'
  have hb := (length_sub_pos hstop).ne'
  have above := sweep_pos hstart hstop
  have below := sweep_le hstart hstop
  have arrives : (start.sub centre).direction.rotated (-sweep start stop centre) =
      (stop.sub centre).direction := by
    rw [rotated_neg_sweep hstart hstop, direction_rotated_angleTo ha hb]
  refine ⟨⟨above, below⟩, arrives, fun φ positive le turns => ?_⟩
  have long : (start.sub centre).direction.length ≠ 0 := by
    rw [length_direction ha]
    exact one_ne_zero
  have near : |-φ - -sweep start stop centre| < 2 * Real.pi := by
    rw [abs_lt]
    constructor <;> linarith
  exact neg_injective (eq_of_rotated_eq long near (turns.trans arrives.symm))

/-- A quarter turn, from one out to two out. -/
theorem sweep_turns_clockwise_quarter :
    let start : Point ℝ := ⟨1, 0⟩
    let stop : Point ℝ := ⟨0, -2⟩
    let centre : Point ℝ := ⟨0, 0⟩
    start ≠ centre ∧ stop ≠ centre ∧ sweep start stop centre = Real.pi / 2 ∧
      (start.sub centre).direction.rotated (-sweep start stop centre) = ⟨0, -1⟩ := by
  intro start stop centre
  have hstart : start ≠ centre := by simp [start, centre]
  have hstop : stop ≠ centre := by simp [stop, centre]
  obtain ⟨-, arrives, only⟩ := sweep_turns_clockwise hstart hstop
  have ahead : (start.sub centre).direction = ⟨1, 0⟩ := by
    ext <;> simp [direction, length_eq, sub, start, centre]
  have down : (stop.sub centre).direction = ⟨0, -1⟩ := by
    ext <;> simp [direction, length_eq, sub, stop, centre]
  have quarter : (start.sub centre).direction.rotated (-(Real.pi / 2)) =
      (stop.sub centre).direction := by
    rw [ahead, down]
    ext <;> simp [rotated]
  have pi := Real.pi_pos
  exact ⟨hstart, hstop, (only _ (by positivity) (by linarith) quarter).symm, arrives.trans down⟩

end Arc

end GcodeSender
