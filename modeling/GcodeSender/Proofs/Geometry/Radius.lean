/-
# `GcodeSender.Proofs.Geometry.Radius` — which of two centres a radius asks for

Two points lie at the distance of a radius from both ends, one on each side of
the chord; around the one the way from start to end is the shorter one, around
the other the longer.  So that a centre lies at the right distance does not yet
make it the right one.  Off the chord by the multiple `k` of half of it, left of
the way where `k` is above zero (`beside`):

    k        sweep          clockwise way     counter-clockwise way
    < 0      less than π    the shorter       the longer
    0        π              half a turn       half a turn
    > 0      more than π    the longer        the shorter

`side` turns `k` over for a clockwise way, and once more for a radius below
zero.  What is left of the two in the length of the way is the sign of the
radius (`travel_side_le_pi_iff`).
-/
import GcodeSender.Proofs.Geometry.Centre
import GcodeSender.Proofs.Geometry.Sweep

namespace GcodeSender.Arc

open Scalar Point

/-! ## Less than half a turn, and half a turn -/

section Ends
variable {start stop centre : Point ℝ} (hstart : start ≠ centre) (hstop : stop ≠ centre)
include hstart hstop

/-- Less than half a turn is swept exactly where the end lies clockwise of the start, -/
theorem sweep_lt_pi_iff :
    sweep start stop centre < Real.pi ↔ (start.sub centre).cross (stop.sub centre) < 0 := by
  have bottom := neg_pi_lt_angleTo (start.sub centre) (stop.sub centre)
  have top := angleTo_le_pi (start.sub centre) (stop.sub centre)
  rw [← angleTo_neg_iff, sweep_eq hstart hstop]
  split
  next right => exact ⟨fun _ => right, fun _ => by linarith⟩
  next even => exact ⟨fun less => by linarith, fun right => absurd right even⟩

/-- and half a turn exactly where it lies opposite. -/
theorem sweep_eq_pi_iff :
    sweep start stop centre = Real.pi ↔
      (start.sub centre).dot (stop.sub centre) < 0 ∧
        (start.sub centre).cross (stop.sub centre) = 0 := by
  have bottom := neg_pi_lt_angleTo (start.sub centre) (stop.sub centre)
  have pi := Real.pi_pos
  rw [← angleTo_eq_pi_iff, sweep_eq hstart hstop]
  split <;> constructor <;> intro half <;> linarith

end Ends

/-! ## Beside the chord -/

section Beside

theorem cross_beside (start stop : Point ℝ) (k : ℝ) :
    (start.sub (beside start stop k)).cross (stop.sub (beside start stop k)) =
      (stop.sub start).length ^ 2 / 2 * k := by
  rw [sq_length]
  simp only [cross, sub, beside]
  ring

theorem dot_beside (start stop : Point ℝ) (k : ℝ) :
    (start.sub (beside start stop k)).dot (stop.sub (beside start stop k)) =
      (stop.sub start).length ^ 2 / 4 * (k ^ 2 - 1) := by
  rw [sq_length]
  simp only [dot, sub, beside]
  ring

variable {start stop : Point ℝ} (apart : start ≠ stop) (k : ℝ)
include apart

/-- The centre is neither of the ends. -/
theorem ends_ne_beside : start ≠ beside start stop k ∧ stop ≠ beside start stop k := by
  have chord := length_sub_pos apart.symm
  have away : ∀ {p : Point ℝ}, (p.sub (beside start stop k)).length ^ 2 =
      (stop.sub start).length ^ 2 * (1 + k ^ 2) / 4 → p ≠ beside start stop k := by
    intro p far same
    have none : (p.sub (beside start stop k)).length = 0 :=
      length_eq_zero_iff.2 (by rw [← same]; exact ⟨sub_self _, sub_self _⟩)
    have positive : 0 < (stop.sub start).length ^ 2 * (1 + k ^ 2) / 4 := by positivity
    rw [← far, none] at positive
    norm_num at positive
  exact ⟨away (sq_length_start_beside _ _ _), away (sq_length_stop_beside _ _ _)⟩

/-- Around a centre right of the way less than half a turn is swept, -/
theorem sweep_beside_lt_pi_iff : sweep start stop (beside start stop k) < Real.pi ↔ k < 0 := by
  obtain ⟨hstart, hstop⟩ := ends_ne_beside apart k
  have chord := length_sub_pos apart.symm
  rw [sweep_lt_pi_iff hstart hstop, cross_beside, ← not_le,
    mul_nonneg_iff_of_pos_left (by positivity), not_le]

/-- and around one on the chord half a turn. -/
theorem sweep_beside_eq_pi_iff : sweep start stop (beside start stop k) = Real.pi ↔ k = 0 := by
  obtain ⟨hstart, hstop⟩ := ends_ne_beside apart k
  have chord := length_sub_pos apart.symm
  have half : 0 < (stop.sub start).length ^ 2 / 2 := by positivity
  rw [sweep_eq_pi_iff hstart hstop, cross_beside, dot_beside, mul_eq_zero_iff_left half.ne']
  refine ⟨fun flat => flat.2, ?_⟩
  rintro rfl
  exact ⟨by linarith, rfl⟩

theorem sweep_beside_le_pi_iff : sweep start stop (beside start stop k) ≤ Real.pi ↔ k ≤ 0 := by
  rw [le_iff_lt_or_eq, le_iff_lt_or_eq, sweep_beside_lt_pi_iff apart, sweep_beside_eq_pi_iff apart]

end Beside

/-! ## The way of travel -/

/-- The angle travelled around a centre from start to end. -/
noncomputable def travel (start stop centre : Point ℝ) (clockwise : Bool) : ℝ :=
  if clockwise then sweep start stop centre else turn - sweep start stop centre

/-- The length of an arc is that of the way travelled. -/
theorem length_eq_travel {start stop : Point ℝ} (apart : start ≠ stop) (centre : Point ℝ)
    (clockwise : Bool) (radius : ℝ) :
    length start stop centre clockwise radius = travel start stop centre clockwise * radius := by
  rw [length_of_ne apart, travel, turn_real]

theorem travel_eq_pi_iff {start stop centre : Point ℝ} {clockwise : Bool} :
    travel start stop centre clockwise = Real.pi ↔ sweep start stop centre = Real.pi := by
  cases clockwise with
  | true => rfl
  | false =>
    rw [travel, if_neg (by decide), turn_real]
    constructor <;> intro h <;> linarith

section Side
variable {start stop : Point ℝ} (apart : start ≠ stop)
include apart

/-- The way is the shorter one where the centre lies on the side that the way turns to. -/
theorem travel_beside_le_pi_iff (k : ℝ) (clockwise : Bool) :
    travel start stop (beside start stop k) clockwise ≤ Real.pi ↔
      0 ≤ (if clockwise then -1 else 1) * k := by
  cases clockwise with
  | true =>
    rw [travel, if_pos rfl, if_pos rfl, sweep_beside_le_pi_iff apart, neg_one_mul, neg_nonneg]
  | false =>
    have more := not_congr (sweep_beside_lt_pi_iff apart k)
    rw [not_lt, not_lt] at more
    rw [travel, if_neg (by decide), if_neg (by decide), turn_real, one_mul, ← more]
    constructor <;> intro h <;> linarith

variable (x radius : ℝ) (clockwise : Bool)

/-- The direction turns the side over and so does the way, so only the sign of the radius is left. -/
theorem travel_side_le_pi_iff :
    travel start stop (beside start stop (side radius clockwise * x)) clockwise ≤ Real.pi ↔
      0 ≤ (if radius < 0 then -1 else 1) * x := by
  have sign : (if clockwise then -1 else 1) * (side radius clockwise * x) =
      (if radius < 0 then -1 else 1) * x := by
    rw [side]
    cases clockwise <;> simp
  rw [travel_beside_le_pi_iff apart, sign]

theorem travel_side_eq_pi_iff :
    travel start stop (beside start stop (side radius clockwise * x)) clockwise = Real.pi ↔
      x = 0 := by
  have some : side radius clockwise ≠ 0 := by
    rw [← sq_pos_iff, sq_side]
    exact one_pos
  rw [travel_eq_pi_iff, sweep_beside_eq_pi_iff apart, mul_eq_zero_iff_left some]

end Side

/-! ## The centre that suits a radius -/

/-- A centre suits a radius if both ends lie at that distance from it and the way around it is the
shorter one for a radius above zero, the longer one for a radius below; both are half a turn where the
chord is a diameter, and only there. -/
structure Suits (start stop : Point ℝ) (radius : ℝ) (clockwise : Bool) (centre : Point ℝ) :
    Prop where
  fromStart : (start.sub centre).length = |radius|
  fromStop : (stop.sub centre).length = |radius|
  shorter : 0 < radius → travel start stop centre clockwise ≤ Real.pi
  longer : radius < 0 → Real.pi ≤ travel start stop centre clockwise
  half : travel start stop centre clockwise = Real.pi ↔ (stop.sub start).length = 2 * |radius|

/-- The centre is on the chord exactly where that is a diameter. -/
theorem off_eq_zero_iff {chord radius : ℝ} (positive : 0 < chord)
    (enough : chord ^ 2 ≤ 4 * radius ^ 2) :
    √(4 * radius ^ 2 - chord ^ 2) / chord = 0 ↔ chord = 2 * |radius| := by
  have square : 4 * radius ^ 2 = (2 * |radius|) ^ 2 := by
    rw [mul_pow, sq_abs]
    norm_num
  rw [div_eq_zero_iff, or_iff_left positive.ne', Real.sqrt_eq_zero (sub_nonneg.2 enough),
    sub_eq_zero, square, eq_comm, sq_eq_sq₀ positive.le (by positivity)]

theorem suits_of_radius {start stop centre : Point ℝ} {radius : ℝ} {clockwise : Bool}
    (h : centreOfRadius start stop radius clockwise = .ok centre) :
    Suits start stop radius clockwise centre := by
  obtain ⟨fromStart, fromStop⟩ := equidistant_of_radius h
  obtain ⟨positive, enough, rfl⟩ := centreOfRadius_ok h
  have apart : start ≠ stop := by
    rintro rfl
    exact positive.ne' (length_eq_zero_iff.2 ⟨sub_self _, sub_self _⟩)
  have diameter := off_eq_zero_iff positive enough
  have off : 0 ≤ √(4 * radius ^ 2 - (stop.sub start).length ^ 2) / (stop.sub start).length := by
    positivity
  rw [mul_div_assoc] at fromStart fromStop ⊢
  generalize √(4 * radius ^ 2 - (stop.sub start).length ^ 2) / (stop.sub start).length = x
    at diameter off fromStart fromStop ⊢
  have short := travel_side_le_pi_iff apart x radius clockwise
  have half := travel_side_eq_pi_iff apart x radius clockwise
  refine ⟨fromStart, fromStop, fun above => ?_, fun below => ?_, half.trans diameter⟩
  · rwa [short, if_neg above.not_gt, one_mul]
  · rw [if_pos below, neg_one_mul, neg_nonneg] at short
    refine le_of_not_gt fun less => less.ne (half.2 ?_)
    exact le_antisymm (short.1 less.le) off

/-- A radius gives no centre exactly where the ends coincide or are farther apart than a diameter; and
the centre that it gives suits it. -/
theorem centre_found_iff (start stop : Point ℝ) (radius : ℝ) (clockwise : Bool) :
    ((∃ problem, centreOfRadius start stop radius clockwise = .error problem) ↔
        start = stop ∨ 2 * |radius| < (stop.sub start).length) ∧
      ∀ centre, centreOfRadius start stop radius clockwise = .ok centre →
        Suits start stop radius clockwise centre := by
  refine ⟨?_, fun centre found => suits_of_radius found⟩
  rw [centreOfRadius_eq]
  split
  next together => exact ⟨fun _ => .inl together, fun _ => ⟨_, rfl⟩⟩
  next apart =>
    split
    next small => exact ⟨fun _ => .inr small, fun _ => ⟨_, rfl⟩⟩
    next enough =>
      constructor
      · rintro ⟨problem, failed⟩
        cases failed
      · rintro (together | small)
        · exact absurd together apart
        · exact absurd small enough

/-- Six apart: the long way round, clockwise, at a distance of five; a radius of two is too small. -/
theorem centre_found_iff_long_way :
    let start : Point ℝ := ⟨0, 0⟩
    let stop : Point ℝ := ⟨6, 0⟩
    centreOfRadius start stop (-5) true = .ok ⟨3, 4⟩ ∧ Suits start stop (-5) true ⟨3, 4⟩ ∧
      Real.pi < travel start stop ⟨3, 4⟩ true ∧
      ∃ problem, centreOfRadius start stop 2 true = .error problem := by
  intro start stop
  have apart : start ≠ stop := by simp [start, stop]
  have chord : (stop.sub start).length = 6 := by
    have along : stop.sub start = ⟨6, 0⟩ := by simp [sub, start, stop]
    rw [along, length_on_axis]
    norm_num
  have root : √(4 * (-5) ^ 2 - 6 ^ 2 : ℝ) = 8 := by
    rw [show (4 * (-5) ^ 2 - 6 ^ 2 : ℝ) = 8 ^ 2 by norm_num, Real.sqrt_sq (by norm_num)]
  have found : centreOfRadius start stop (-5) true = .ok ⟨3, 4⟩ := by
    rw [centreOfRadius_eq, if_neg apart, chord, if_neg (by norm_num), root]
    congr 1
    ext <;> norm_num [beside, side, start, stop]
  have suits := (centre_found_iff start stop (-5) true).2 _ found
  have more : Real.pi ≠ travel start stop ⟨3, 4⟩ true := fun half => by
    have diameter := suits.half.1 half.symm
    rw [chord] at diameter
    norm_num at diameter
  refine ⟨found, suits, (suits.longer (by norm_num)).lt_of_ne more, ?_⟩
  exact (centre_found_iff start stop 2 true).1.2 (.inr (by rw [chord]; norm_num))

end GcodeSender.Arc
