/-
# `GcodeSender.Proofs.Geometry.Sweep` — sweeps and arc lengths

The sweep of an arc is told from the angle between its two radii: clockwise from
start to end it is that angle the other way round, in `(0, 2π]` (`sweep_eq`).
So turning the start clockwise by the sweep comes to the end, where both are at
one distance from the centre (`turned_sweep`).

    angle `θ` from start to end     sweep       sweep from end to start
    below 0                         −θ          2π + θ
    above 0, below π                2π − θ      θ
    π                               π           π
    0                               2π          2π

In the last row both sweeps are full turns.  An arc length is a share of the
circle, counter-clockwise the share that is left.  So where the ends lie in one
direction from the centre a counter-clockwise arc has no length, unless they
coincide: that is asked first, and is a full circle both ways
(`length_reversed_iff`).
-/
import GcodeSender.Proofs.Geometry.Turning

namespace GcodeSender.Arc

open Scalar Point

variable {start stop centre : Point ℝ}

theorem coincides_iff {p q : Point ℝ} : p.coincides q = true ↔ p = q := by
  simp [coincides, Point.ext_iff]

/-! ## The sweep -/

/-- The sweep, told from the angle between the radii. -/
theorem sweep_eq (hstart : start ≠ centre) (hstop : stop ≠ centre) :
    sweep start stop centre =
      if (start.sub centre).angleTo (stop.sub centre) < 0 then
        -(start.sub centre).angleTo (stop.sub centre)
      else 2 * Real.pi - (start.sub centre).angleTo (stop.sub centre) := by
  have long := mul_pos (length_sub_pos hstart) (length_sub_pos hstop)
  unfold sweep
  dsimp only
  generalize start.sub centre = a at long ⊢
  generalize stop.sub centre = b at long ⊢
  have legs := sq_dot_add_sq_cross a b
  simp only [nat_real, Nat.cast_zero, same_real, less_real, decide_eq_true_eq, turn_real,
    acos_clampUnit, coincides_iff]
  rcases lt_trichotomy (a.cross b) 0 with right | flat | left
  · rw [if_neg right.ne, if_pos right, if_pos (angleTo_neg_iff.2 right),
      angleTo_of_cross_neg right, neg_neg]
  · have even : ¬ a.angleTo b < 0 := by rw [angleTo_neg_iff, flat]; exact lt_irrefl 0
    rw [if_pos flat, if_neg even]
    rcases lt_or_ge (a.dot b) 0 with opposite | along
    · have apart : a ≠ b := by
        rintro rfl
        rw [dot] at opposite
        nlinarith [sq_nonneg a.x, sq_nonneg a.y]
      rw [if_neg apart, if_neg opposite.not_gt, angleTo_eq_pi_iff.2 ⟨opposite, flat⟩]
      show Real.pi = _
      ring
    · have ahead : 0 < a.dot b := by
        refine along.lt_of_ne fun none => ?_
        rw [← none, flat] at legs
        nlinarith
      rw [angleTo_eq_zero_iff.2 ⟨along, flat⟩, sub_zero, if_pos ahead, ite_self]
  · have even : ¬ a.angleTo b < 0 := by rw [angleTo_neg_iff]; exact left.not_gt
    rw [if_neg left.ne', if_neg left.not_gt, if_neg even, angleTo_of_cross_pos left]

/-- From one side of the centre to the other it is half a turn. -/
theorem sweep_opposite (flat : (start.sub centre).cross (stop.sub centre) = 0)
    (opposite : (start.sub centre).dot (stop.sub centre) < 0) :
    sweep start stop centre = Real.pi := by
  have hstart : start ≠ centre := by
    rintro rfl
    simp [dot, sub] at opposite
  have hstop : stop ≠ centre := by
    rintro rfl
    simp [dot, sub] at opposite
  rw [sweep_eq hstart hstop, angleTo_eq_pi_iff.2 ⟨opposite, flat⟩, if_neg Real.pi_pos.not_gt]
  ring

section Ends
variable (hstart : start ≠ centre) (hstop : stop ≠ centre)
include hstart hstop

theorem sweep_pos : 0 < sweep start stop centre := by
  have top := angleTo_le_pi (start.sub centre) (stop.sub centre)
  have pi := Real.pi_pos
  rw [sweep_eq hstart hstop]
  split <;> linarith

theorem sweep_le : sweep start stop centre ≤ 2 * Real.pi := by
  have bottom := neg_pi_lt_angleTo (start.sub centre) (stop.sub centre)
  have pi := Real.pi_pos
  rw [sweep_eq hstart hstop]
  split <;> linarith

/-- A full turn is swept exactly where the ends lie in one direction. -/
theorem sweep_eq_turn_iff :
    sweep start stop centre = 2 * Real.pi ↔ (start.sub centre).angleTo (stop.sub centre) = 0 := by
  have bottom := neg_pi_lt_angleTo (start.sub centre) (stop.sub centre)
  have pi := Real.pi_pos
  rw [sweep_eq hstart hstop]
  split <;> constructor <;> intro h <;> linarith

/-- The other way round, the rest of the circle is swept; only where the ends lie in one direction
it is the whole circle again. -/
theorem sweep_reversed :
    sweep stop start centre =
      if (start.sub centre).angleTo (stop.sub centre) = 0 then 2 * Real.pi
      else 2 * Real.pi - sweep start stop centre := by
  have pi := Real.pi_pos
  rw [sweep_eq hstart hstop, sweep_eq hstop hstart, angleTo_comm (start.sub centre)]
  generalize (start.sub centre).angleTo (stop.sub centre) = θ
  rcases lt_trichotomy θ 0 with right | rfl | left
  · have half : ¬ θ = Real.pi := by linarith
    have even : ¬ -θ < 0 := by linarith
    rw [if_neg half, if_neg even, if_neg right.ne, if_pos right]
  · rw [if_neg pi.ne, neg_zero, if_neg (lt_irrefl 0), if_pos rfl, sub_zero]
  · rw [if_neg left.ne', if_neg left.not_gt]
    by_cases half : θ = Real.pi
    · rw [if_pos half, if_neg pi.not_gt, half]
      ring
    · rw [if_neg half, if_pos (neg_neg_of_pos left)]
      ring

/-- To turn clockwise by the sweep is to turn by the angle between the radii. -/
theorem rotated_neg_sweep (v : Point ℝ) :
    v.rotated (-sweep start stop centre) =
      v.rotated ((start.sub centre).angleTo (stop.sub centre)) := by
  rw [sweep_eq hstart hstop]
  split
  · rw [neg_neg]
  · rw [neg_sub, rotated_sub_turn]

/-- The start, turned clockwise by the sweep, comes to the end. -/
theorem turned_sweep (same : (start.sub centre).length = (stop.sub centre).length) :
    start.turned centre (-sweep start stop centre) = stop := by
  have arrives := rotated_angleTo (length_sub_pos hstart).ne' same
  rw [turned, rotated_neg_sweep hstart hstop, arrives]
  exact Point.ext (add_sub_cancel _ _) (add_sub_cancel _ _)

end Ends

/-! ## Arc lengths -/

theorem circumference_real (radius : ℝ) : circumference radius = 2 * Real.pi * radius := by
  rw [circumference, nat_real]
  rfl

/-- The length of an arc whose ends do not coincide. -/
theorem length_of_ne (apart : start ≠ stop) (clockwise : Bool) (radius : ℝ) :
    length start stop centre clockwise radius =
      (if clockwise then sweep start stop centre else 2 * Real.pi - sweep start stop centre) *
        radius := by
  have pi := Real.pi_pos
  rw [length, if_neg (by rwa [coincides_iff]), circumference_real, turn_real]
  dsimp only
  split <;> field_simp

theorem length_of_eq (start centre : Point ℝ) (clockwise : Bool) (radius : ℝ) :
    length start start centre clockwise radius = circumference radius :=
  if_pos (coincides_iff.2 rfl)

/-- Two points lie in one direction from a centre. -/
def InLine (centre p q : Point ℝ) : Prop :=
  ∃ c > 0, q.sub centre = ⟨c * (p.sub centre).x, c * (p.sub centre).y⟩

theorem inLine_iff (hstart : start ≠ centre) (hstop : stop ≠ centre) :
    InLine centre start stop ↔ (start.sub centre).angleTo (stop.sub centre) = 0 := by
  have ha := length_sub_pos hstart
  have hb := length_sub_pos hstop
  rw [InLine]
  generalize start.sub centre = a at ha ⊢
  generalize stop.sub centre = b at hb ⊢
  constructor
  · rintro ⟨c, positive, rfl⟩
    rw [angleTo_eq_zero_iff, dot, cross]
    constructor
    · nlinarith [mul_nonneg positive.le (sq_nonneg a.x), mul_nonneg positive.le (sq_nonneg a.y)]
    · ring
  · intro along
    obtain ⟨x, y⟩ := length_scale_rotated_angleTo ha.ne' hb.ne'
    rw [along, rotated_zero] at x y
    refine ⟨b.length / a.length, div_pos hb ha, Point.ext ?_ ?_⟩
    · exact eq_div_of_mul_eq ha.ne' (by linarith) |>.trans (mul_div_right_comm _ _ _)
    · exact eq_div_of_mul_eq ha.ne' (by linarith) |>.trans (mul_div_right_comm _ _ _)

/-- On one circle these are one point. -/
theorem InLine.eq (line : InLine centre start stop)
    (same : (start.sub centre).length = (stop.sub centre).length) (hstart : start ≠ centre) :
    start = stop := by
  obtain ⟨c, positive, h⟩ := line
  have long := length_sub_pos hstart
  have once : c = 1 := by
    have square : (stop.sub centre).length ^ 2 = c ^ 2 * (start.sub centre).length ^ 2 := by
      rw [sq_length, sq_length, h]
      ring
    rw [← same, right_eq_mul₀ (by positivity)] at square
    exact (pow_eq_one_iff_of_nonneg positive.le two_ne_zero).1 square
  rw [once, one_mul, one_mul] at h
  obtain ⟨x, y⟩ := Point.mk.inj h
  exact Point.ext (sub_left_inj.1 x).symm (sub_left_inj.1 y).symm

section Ends
variable (hstart : start ≠ centre) (hstop : stop ≠ centre)
include hstart hstop

/-- Where one end lies behind the other, a clockwise arc is a full circle, and a counter-clockwise
one has no length. -/
theorem length_inLine (apart : start ≠ stop) (line : InLine centre start stop) (radius : ℝ) :
    length start stop centre true radius = circumference radius ∧
      length start stop centre false radius = 0 := by
  have full := (sweep_eq_turn_iff hstart hstop).2 ((inLine_iff hstart hstop).1 line)
  rw [length_of_ne apart, length_of_ne apart, full, if_pos rfl, if_neg (by decide), sub_self,
    zero_mul, circumference_real]
  exact ⟨rfl, rfl⟩

/-- Elsewhere an arc backwards is as long, -/
theorem length_reversed (line : ¬ InLine centre start stop) (radius : ℝ) :
    length start stop centre false radius = length stop start centre true radius := by
  have apart : start ≠ stop := by
    rintro rfl
    exact line ⟨1, one_pos, by simp⟩
  rw [inLine_iff hstart hstop] at line
  rw [length_of_ne apart, length_of_ne apart.symm, if_neg (by decide), if_pos rfl,
    sweep_reversed hstart hstop, if_neg line]

/-- and neither direction goes nowhere, or more than once around. -/
theorem length_mem (line : ¬ InLine centre start stop) {radius : ℝ} (positive : 0 < radius)
    (clockwise : Bool) :
    0 < length start stop centre clockwise radius ∧
      length start stop centre clockwise radius ≤ circumference radius := by
  have apart : start ≠ stop := by
    rintro rfl
    exact line ⟨1, one_pos, by simp⟩
  have above := sweep_pos hstart hstop
  have below := sweep_le hstart hstop
  have partly : sweep start stop centre < 2 * Real.pi := by
    refine below.lt_of_ne fun full => line ?_
    rwa [inLine_iff hstart hstop, ← sweep_eq_turn_iff hstart hstop]
  rw [length_of_ne apart, circumference_real]
  cases clockwise with
  | true => exact ⟨mul_pos above positive, mul_le_mul_of_nonneg_right below positive.le⟩
  | false =>
    exact ⟨mul_pos (sub_pos.2 partly) positive,
      mul_le_mul_of_nonneg_right (sub_le_self _ above.le) positive.le⟩

end Ends

/-- An arc is as long as the same arc travelled backwards, longer than nothing and no longer than
the circle; except exactly where one end lies behind the other, seen from the centre.  There the
clockwise arc is a full circle, and the counter-clockwise one has no length. -/
theorem length_reversed_iff (hstart : start ≠ centre) (hstop : stop ≠ centre) {radius : ℝ}
    (positive : 0 < radius) :
    ((length start stop centre false radius = length stop start centre true radius ∧
        ∀ clockwise, 0 < length start stop centre clockwise radius ∧
          length start stop centre clockwise radius ≤ circumference radius) ↔
      ¬ (start ≠ stop ∧ InLine centre start stop)) ∧
    (start ≠ stop → InLine centre start stop →
      length start stop centre true radius = circumference radius ∧
      length start stop centre false radius = 0) := by
  refine ⟨⟨?_, fun elsewhere => ?_⟩, fun apart line => length_inLine hstart hstop apart line radius⟩
  · rintro ⟨-, range⟩ ⟨apart, line⟩
    have none := (length_inLine hstart hstop apart line radius).2
    exact absurd none (range false).1.ne'
  · by_cases same : start = stop
    · subst same
      have circle : 0 < circumference radius := by
        rw [circumference_real]
        positivity
      simp only [length_of_eq, circle, le_refl, and_self, implies_true]
    · have line : ¬ InLine centre start stop := fun line => elsewhere ⟨same, line⟩
      exact ⟨length_reversed hstart hstop line radius, length_mem hstart hstop line positive⟩

/-- On opposite sides of the centre, one twice as far out as the other. -/
theorem length_reversed_iff_opposite :
    let start : Point ℝ := ⟨1, 0⟩
    let stop : Point ℝ := ⟨-2, 0⟩
    let centre : Point ℝ := ⟨0, 0⟩
    start ≠ centre ∧ stop ≠ centre ∧
      length start stop centre false 3 = length stop start centre true 3 ∧
      ∀ clockwise, 0 < length start stop centre clockwise 3 ∧
        length start stop centre clockwise 3 ≤ circumference 3 := by
  intro start stop centre
  have hstart : start ≠ centre := by simp [start, centre]
  have hstop : stop ≠ centre := by simp [stop, centre]
  have line : ¬ InLine centre start stop := by
    rintro ⟨c, positive, h⟩
    simp only [sub, start, stop, centre, Point.mk.injEq] at h
    linarith
  exact ⟨hstart, hstop,
    (length_reversed_iff hstart hstop (by norm_num)).1.2 fun h => line h.2⟩

/-- On one side of it, the counter-clockwise arc has no length, while the clockwise one backwards is
a full circle. -/
theorem no_length_in_line :
    let start : Point ℝ := ⟨1, 0⟩
    let stop : Point ℝ := ⟨2, 0⟩
    let centre : Point ℝ := ⟨0, 0⟩
    start ≠ centre ∧ stop ≠ centre ∧ ¬ 0 < length start stop centre false 1 ∧
      length start stop centre false 1 ≠ length stop start centre true 1 := by
  intro start stop centre
  have hstart : start ≠ centre := by simp [start, centre]
  have hstop : stop ≠ centre := by simp [stop, centre]
  have apart : start ≠ stop := by simp [start, stop]
  have ahead : InLine centre start stop := ⟨2, two_pos, by simp [sub, start, stop, centre]⟩
  have behind : InLine centre stop start := ⟨1 / 2, by norm_num, by simp [sub, start, stop, centre]⟩
  have none := (length_inLine hstart hstop apart ahead 1).2
  have full := (length_inLine hstop hstart apart.symm behind 1).1
  have pi := Real.pi_pos
  rw [none, full, circumference_real]
  exact ⟨hstart, hstop, lt_irrefl 0, by linarith⟩

end GcodeSender.Arc
