/-
# `GcodeSender.Proofs.Geometry.Centre` — the centre that a radius asks for

A radius puts the centre beside the middle of the chord (`centreOfRadius_eq`),
as far off as makes both ends lie at that distance from it
(`equidistant_of_radius`); the sign of the radius only picks the side.
-/
import GcodeSender.Proofs.Geometry.Turning

namespace GcodeSender.Arc

open Scalar Point

theorem half_real : (decimal 5 1 : ℝ) = 1 / 2 := by
  norm_num [decimal, ofNumeral, Numeral.toReal]

/-- Beside the middle of a chord, off it by a multiple of half the chord. -/
noncomputable def beside (start stop : Point ℝ) (k : ℝ) : Point ℝ :=
  ⟨start.x + 1 / 2 * ((stop.x - start.x) - (stop.y - start.y) * k),
    start.y + 1 / 2 * ((stop.y - start.y) + (stop.x - start.x) * k)⟩

section Beside
variable (start stop : Point ℝ) (k : ℝ)

theorem sq_length_start_beside :
    (start.sub (beside start stop k)).length ^ 2 =
      (stop.sub start).length ^ 2 * (1 + k ^ 2) / 4 := by
  rw [sq_length, sq_length]
  simp only [sub, beside]
  ring

theorem sq_length_stop_beside :
    (stop.sub (beside start stop k)).length ^ 2 =
      (stop.sub start).length ^ 2 * (1 + k ^ 2) / 4 := by
  rw [sq_length, sq_length]
  simp only [sub, beside]
  ring

end Beside

/-- The side of the chord on which the centre lies: left of the way from start to end where it is `1`,
right of it where it is `−1`. -/
noncomputable def side (radius : ℝ) (clockwise : Bool) : ℝ :=
  (if clockwise then -1 else 1) * if radius < 0 then -1 else 1

theorem sq_side (radius : ℝ) (clockwise : Bool) : side radius clockwise ^ 2 = 1 := by
  rw [side]
  split <;> split <;> norm_num

/-- Nothing is left for the centre to be off a chord that is longer than a diameter. -/
theorem sq_lt_iff {chord : ℝ} (nonneg : 0 ≤ chord) (radius : ℝ) :
    4 * radius ^ 2 - chord ^ 2 < 0 ↔ 2 * |radius| < chord := by
  rw [sub_neg, ← sq_lt_sq₀ (by positivity) nonneg, mul_pow, sq_abs]
  norm_num

/-- What a radius comes to: a centre beside the middle of the chord, unless there is no chord or it is
longer than a diameter. -/
theorem centreOfRadius_eq (start stop : Point ℝ) (radius : ℝ) (clockwise : Bool) :
    let chord := (stop.sub start).length
    centreOfRadius start stop radius clockwise =
      if start = stop then .error .coincidentEnds
      else if 2 * |radius| < chord then .error (.tooSmall radius chord)
      else .ok (beside start stop
        (side radius clockwise * √(4 * radius ^ 2 - chord ^ 2) / chord)) := by
  intro chord
  have nonneg : 0 ≤ chord := length_nonneg _
  have together : chord = 0 ↔ start = stop := by
    constructor
    · intro none
      by_contra apart
      exact (length_sub_pos (Ne.symm apart)).ne' none
    · rintro rfl
      exact length_eq_zero_iff.2 ⟨sub_self _, sub_self _⟩
  have square : nat 4 * radius * radius - chord * chord = 4 * radius ^ 2 - chord ^ 2 := by
    rw [nat_real]
    push_cast
    ring
  have root : Scalar.sqrt (4 * radius ^ 2 - chord ^ 2) = √(4 * radius ^ 2 - chord ^ 2) := rfl
  have scale : ∀ x : ℝ,
      (if radius < 0 then -((if clockwise then -1 else 1) * x / chord)
        else (if clockwise then -1 else 1) * x / chord) = side radius clockwise * x / chord := by
    intro x
    rw [side]
    split <;> ring
  unfold centreOfRadius
  dsimp only
  rw [show hypot (stop.x - start.x) (stop.y - start.y) = chord from rfl, square]
  simp only [same_real, less_real, nat_real, half_real, Nat.cast_zero, Nat.cast_one,
    decide_eq_true_eq, sq_lt_iff nonneg, together, root, scale]
  rfl

/-- What a radius asks for: two ends, no farther apart than a diameter, and the centre beside the
middle of the chord. -/
theorem centreOfRadius_ok {start stop centre : Point ℝ} {radius : ℝ} {clockwise : Bool}
    (h : centreOfRadius start stop radius clockwise = .ok centre) :
    let chord := (stop.sub start).length
    0 < chord ∧ chord ^ 2 ≤ 4 * radius ^ 2 ∧
      centre = beside start stop
        (side radius clockwise * √(4 * radius ^ 2 - chord ^ 2) / chord) := by
  intro chord
  rw [centreOfRadius_eq] at h
  split at h
  · cases h
  next apart =>
    split at h
    · cases h
    next enough =>
      cases h
      rw [← sq_lt_iff (length_nonneg _), not_lt, sub_nonneg] at enough
      exact ⟨length_sub_pos (Ne.symm apart), enough, rfl⟩

theorem equidistant_of_radius {start stop centre : Point ℝ} {radius : ℝ} {clockwise : Bool}
    (h : centreOfRadius start stop radius clockwise = .ok centre) :
    (start.sub centre).length = |radius| ∧ (stop.sub centre).length = |radius| := by
  obtain ⟨positive, enough, rfl⟩ := centreOfRadius_ok h
  generalize chordIs : (stop.sub start).length = chord at positive enough ⊢
  have square : chord ^ 2 * (1 + (side radius clockwise * √(4 * radius ^ 2 - chord ^ 2) / chord) ^ 2) / 4 =
      radius ^ 2 := by
    rw [div_pow, mul_pow, sq_side, Real.sq_sqrt (sub_nonneg.2 enough)]
    field_simp
    ring
  constructor
  · rw [← abs_of_nonneg (length_nonneg _), ← sq_eq_sq_iff_abs_eq_abs, sq_length_start_beside, chordIs,
      square]
  · rw [← abs_of_nonneg (length_nonneg _), ← sq_eq_sq_iff_abs_eq_abs, sq_length_stop_beside, chordIs,
      square]

end GcodeSender.Arc
