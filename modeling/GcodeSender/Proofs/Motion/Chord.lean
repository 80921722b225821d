/-
# `GcodeSender.Proofs.Motion.Chord` — a straight motion ends wherever it goes on from

A straight motion is over when its machine is far enough from where it started:
no nearer than its whole length, less a step.  Its ticks do not ask on which
line.  A report may have put the machine anywhere, behind the start as well, and
from there the steps go on in their direction:

    m.stepped p k    the position `p`, moved by `k` steps
    m.Past q         at `q` the motion is over

So what is still before it is the part of a line inside a ball around the start.
Two of its points are less than a diameter apart, and each step goes on by as
much as the last one: after `2 * total / step` of them one was outside
(`Sound.past_within`).  The first that is ends the motion (`InFlight.lands`).
-/
import GcodeSender.Proofs.Motion.Moments
import GcodeSender.Proofs.Motion.Straight

namespace GcodeSender

open Scalar Gcode

/-! ## Distances -/

namespace Position

theorem length_eq_norm (p : Position ℝ) : p.length = ‖!₂[p.x, p.y, p.z]‖ := by
  show √(p.x * p.x + p.y * p.y + p.z * p.z) = _
  rw [EuclideanSpace.norm_eq, Fin.sum_univ_three]
  simp [sq]

theorem length_on_axis (x : ℝ) : (⟨x, 0, 0⟩ : Position ℝ).length = |x| := by
  show √(x * x + 0 * 0 + 0 * 0) = |x|
  rw [mul_zero, add_zero, add_zero, Real.sqrt_mul_self_eq_abs]

theorem length_sub_le (p q : Position ℝ) : (p.sub q).length ≤ p.length + q.length := by
  have difference : !₂[p.x, p.y, p.z] - !₂[q.x, q.y, q.z] =
      !₂[p.x - q.x, p.y - q.y, p.z - q.z] := by
    ext i
    fin_cases i <;> rfl
  rw [length_eq_norm p, length_eq_norm q, length_eq_norm]
  exact difference ▸ norm_sub_le _ _

end Position

/-! ## The line that is left -/

namespace LinearMotion

variable {m : LinearMotion ℝ}

/-- A motion of some length by steps of some length. -/
structure Sound (m : LinearMotion ℝ) : Prop where
  length_step : m.step.length = m.stepDistance
  stepDistance_pos : 0 < m.stepDistance
  total_pos : 0 < m.total

/-- What is planned is. -/
theorem sound_of_planLinear {start : Position ℝ} {target : Target ℝ} {mode : DistanceMode}
    {feed tickMs : ℝ} (planned : planLinear start target mode feed tickMs = .ok m)
    (tick : 0 < tickMs) : m.Sound := by
  have unfolded := planned
  unfold planLinear at unfolded
  dsimp only at unfolded
  split at unfolded
  · cases unfolded
  next far =>
    split at unfolded
    · cases unfolded
    next moves =>
      have feedPos : 0 < feed := by simpa using moves
      have apart : (displacement start target mode).length ≠ 0 := by simpa using far
      have along := Except.ok.inj (planned.symm.trans (planLinear_along apart feedPos tick))
      refine ⟨?_, ?_, ?_⟩
      · cases unfolded
        rfl
      · rw [along]
        exact stepLength_pos feedPos tick
      · rw [along]
        exact (Position.length_nonneg _).lt_of_ne' apart

/-- A position, moved by `k` steps. -/
noncomputable def stepped (m : LinearMotion ℝ) (p : Position ℝ) (k : ℕ) : Position ℝ :=
  p.add (m.step.scale k)

/-- Far enough from the start for the motion to be over. -/
def Past (m : LinearMotion ℝ) (q : Position ℝ) : Prop :=
  m.total - m.stepDistance ≤ (q.sub m.start).length

theorem stepped_zero (m : LinearMotion ℝ) (p : Position ℝ) : m.stepped p 0 = p := by
  refine Position.ext_get fun a => ?_
  simp [stepped]

/-- A tick makes one more step. -/
theorem advance_stepped (m : LinearMotion ℝ) (p : Position ℝ) (k : ℕ) :
    m.advance (m.stepped p k) =
      ⟨m.stepped p (k + 1), .linear m,
        decide (((m.stepped p (k + 1)).sub m.start).length < m.total - m.stepDistance)⟩ := by
  have next : (m.stepped p k).add m.step = m.stepped p (k + 1) := by
    refine Position.ext_get fun a => ?_
    simp only [stepped, Position.get_add, Position.get_scale]
    push_cast
    ring
  rw [advance, next]
  rfl

/-- On an axis it is a matter of one coordinate. -/
theorem past_along_axis {d σ : ℝ} (ahead : 0 < d) (x : ℝ) (k : ℕ) :
    (LinearMotion.along ⟨0, 0, 0⟩ ⟨d, 0, 0⟩ σ).Past
      ((LinearMotion.along ⟨0, 0, 0⟩ ⟨d, 0, 0⟩ σ).stepped ⟨x, 0, 0⟩ k) ↔ d - σ ≤ |x + k * σ| := by
  have length : (⟨d, 0, 0⟩ : Position ℝ).length = d := by
    rw [Position.length_on_axis, abs_of_pos ahead]
  have step : (LinearMotion.along ⟨0, 0, 0⟩ ⟨d, 0, 0⟩ σ).step = ⟨σ, 0, 0⟩ := by
    show (⟨_ * d, _ * 0, _ * 0⟩ : Position ℝ) = _
    rw [length, div_mul_cancel₀ _ ahead.ne', mul_zero]
  have offset : ((LinearMotion.along ⟨0, 0, 0⟩ ⟨d, 0, 0⟩ σ).stepped ⟨x, 0, 0⟩ k).sub ⟨0, 0, 0⟩ =
      ⟨x + k * σ, 0, 0⟩ := by
    rw [stepped, step]
    show (⟨x + k * σ - 0, 0 + k * 0 - 0, 0 + k * 0 - 0⟩ : Position ℝ) = _
    rw [mul_zero, sub_zero, add_zero, sub_zero]
  rw [← Position.length_on_axis, ← offset]
  show (⟨d, 0, 0⟩ : Position ℝ).length - σ ≤ _ ↔ _
  rw [length]
  rfl

/-- From behind the start the steps go through the ball, and out on the other side of it. -/
theorem isLeast_past_along_axis {d σ x : ℝ} (ahead : 0 < d) (step : 0 < σ)
    (inside : |x + σ| < d - σ) :
    IsLeast {k | 0 < k ∧ (LinearMotion.along ⟨0, 0, 0⟩ ⟨d, 0, 0⟩ σ).Past
      ((LinearMotion.along ⟨0, 0, 0⟩ ⟨d, 0, 0⟩ σ).stepped ⟨x, 0, 0⟩ k)}
      ⌈(d - σ - x) / σ⌉₊ := by
  obtain ⟨near, far⟩ := abs_lt.1 inside
  simp only [past_along_axis ahead]
  constructor
  · have out : d - σ - x ≤ ⌈(d - σ - x) / σ⌉₊ * σ := by
      rw [← div_le_iff₀ step]
      exact Nat.le_ceil _
    refine ⟨Nat.ceil_pos.2 (div_pos (by linarith) step), le_trans ?_ (le_abs_self _)⟩
    linarith
  · rintro k ⟨some, past⟩
    by_contra! before
    have short : k * σ < d - σ - x := (lt_div_iff₀ step).1 (Nat.lt_ceil.1 before)
    have one : (1 : ℝ) ≤ k := by exact_mod_cast some
    have within : |x + k * σ| < d - σ := by
      rw [abs_lt]
      constructor <;> nlinarith
    exact absurd past (not_le.2 within)

/-- Inside the ball there is no room for more steps than fit into its diameter. -/
theorem Sound.past_within (h : m.Sound) (p : Position ℝ) :
    ∃ k, 0 < k ∧ k ≤ ⌈2 * m.total / m.stepDistance⌉₊ ∧ m.Past (m.stepped p k) := by
  have step := h.stepDistance_pos
  have enough : 2 * m.total ≤ ⌈2 * m.total / m.stepDistance⌉₊ * m.stepDistance := by
    rw [← div_le_iff₀ step]
    exact Nat.le_ceil _
  have some : 0 < ⌈2 * m.total / m.stepDistance⌉₊ :=
    Nat.ceil_pos.2 (div_pos (mul_pos two_pos h.total_pos) step)
  generalize ⌈2 * m.total / m.stepDistance⌉₊ = n at enough some ⊢
  by_contra! inside
  have first := inside 1 one_pos some
  have last := inside n some le_rfl
  rw [Past, not_le] at first last
  -- the first of the steps and the last are `n - 1` steps apart
  have apart : ((m.stepped p n).sub m.start).sub ((m.stepped p 1).sub m.start) =
      m.step.scale (n - 1) := by
    refine Position.ext_get fun a => ?_
    simp only [stepped, Position.get_sub, Position.get_add, Position.get_scale, Nat.cast_one]
    ring
  have chord := Position.length_sub_le ((m.stepped p n).sub m.start) ((m.stepped p 1).sub m.start)
  have one : (1 : ℝ) ≤ n := by exact_mod_cast some
  rw [apart, Position.length_scale, h.length_step, abs_of_nonneg (by linarith)] at chord
  linarith

end LinearMotion

/-! ## The flight -/

namespace Simulation

variable {slot : Slot} {m : LinearMotion ℝ} {s : Simulation ℝ}

/-- As long as only its ticks move the machine, a straight motion goes on by steps to the first one
past its end. -/
theorem stages_stepped (slot : Slot) (m : LinearMotion ℝ) (p : Position ℝ) {n : ℕ}
    (first : IsLeast {k | 0 < k ∧ m.Past (m.stepped p k)} n) :
    Stages slot n Moment.Still
      (fun k s => InFlight slot (.linear m) s ∧ s.machine.position = m.stepped p k) Landed where
  flying := by
    rintro k s ⟨h, position⟩
    exact h.flying rfl
  tick := by
    rintro k s ⟨h, position⟩ more
    have short : ¬ m.Past (m.stepped p (k + 1)) := fun past =>
      absurd (first.2 ⟨k.succ_pos, past⟩) (not_le.2 more)
    obtain ⟨s', ticked, next, moved⟩ := h.goesOn
      (congrArg Except.ok (position ▸ m.advance_stepped p k)) (decide_eq_true (not_le.1 short))
    rw [ticked]
    exact ⟨next, moved.trans (position_moveTo _ _)⟩
  last := by
    rintro k s ⟨h, position⟩ rfl
    obtain ⟨s', ticked, landed, -⟩ := h.ends
      (congrArg Except.ok (position ▸ m.advance_stepped p k)) (decide_eq_false (not_lt.2 first.1.2))
    rw [ticked]
    exact landed
  aside := by
    rintro k s change still ⟨h, position⟩
    exact ⟨h.withMachine _, (still s.machine).trans position⟩
  landed h := h
  behind _ h := h.withMachine _

/-- From wherever the machine is, a straight motion ends within a bounded number of ticks: with the
first of its steps that is far enough from the start. -/
theorem InFlight.lands (h : InFlight slot (.linear m) s) (sound : m.Sound) :
    ∃ n, IsLeast {k | 0 < k ∧ m.Past (m.stepped s.machine.position k)} n ∧
      n ≤ ⌈2 * m.total / m.stepDistance⌉₊ ∧ Lasts slot n Moment.Still s := by
  classical
  obtain ⟨k, some, few, past⟩ := sound.past_within s.machine.position
  have exists_past : ∃ k, 0 < k ∧ m.Past (m.stepped s.machine.position k) := ⟨k, some, past⟩
  have first : IsLeast {k | 0 < k ∧ m.Past (m.stepped s.machine.position k)}
      (Nat.find exists_past) := ⟨Nat.find_spec exists_past, fun _ => Nat.find_min' exists_past⟩
  refine ⟨_, first, (first.2 ⟨some, past⟩).trans few, ?_⟩
  exact (stages_stepped slot m _ first).lasts ⟨h, (m.stepped_zero _).symm⟩ first.1.1

end Simulation

end GcodeSender
