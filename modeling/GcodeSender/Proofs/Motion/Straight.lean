/-
# `GcodeSender.Proofs.Motion.Straight` — a straight motion ends within a step of its target

With exact numbers, and nothing else written to the position, the ticks of a
straight motion stand at equal distances on the line to its target:

    pointAt start delta x    the point at distance `x` from `start` along `delta`
    along start delta σ      the motion there by steps of length `σ`
    OnCourse                 it is in its slot, and the machine at distance `x`

A tick goes on as long as two steps more would stay short of the target
(`OnCourse.goesOn`), and else is the last one (`OnCourse.ends`).  So there are
`ticks D σ` of them, the first of which is made when the motion begins.

How near the last one comes is a matter of the line alone: from the point at
distance `x` it is `|x − D|` to the target (`length_sub_destination`).
-/
import Mathlib
import GcodeSender.Proofs.Machine.Report
import GcodeSender.Proofs.Motion.Exact
import GcodeSender.Proofs.Motion.Tick

namespace GcodeSender

open Scalar Gcode

/-! ## Displacements -/

namespace Position

/-- A displacement, stretched. -/
noncomputable def scale (c : ℝ) (p : Position ℝ) : Position ℝ := p.map (c * ·)

theorem length_scale (c : ℝ) (p : Position ℝ) : (p.scale c).length = |c| * p.length := by
  obtain ⟨x, y, z⟩ := p
  have square : c * x * (c * x) + c * y * (c * y) + c * z * (c * z) =
      c ^ 2 * (x * x + y * y + z * z) := by ring
  show √(c * x * (c * x) + c * y * (c * y) + c * z * (c * z)) = |c| * √(x * x + y * y + z * z)
  rw [square, Real.sqrt_mul (sq_nonneg c), Real.sqrt_sq_eq_abs]

theorem length_nonneg (p : Position ℝ) : 0 ≤ p.length := Real.sqrt_nonneg _

theorem ext_get {p q : Position ℝ} (h : ∀ a, p.get a = q.get a) : p = q := by
  obtain ⟨x, y, z⟩ := p
  obtain ⟨x', y', z'⟩ := q
  obtain rfl : x = x' := h .x
  obtain rfl : y = y' := h .y
  obtain rfl : z = z' := h .z
  rfl

@[simp] theorem get_add (p q : Position ℝ) (a : Axis) : (p.add q).get a = p.get a + q.get a := by
  cases a <;> rfl

@[simp] theorem get_sub (p q : Position ℝ) (a : Axis) : (p.sub q).get a = p.get a - q.get a := by
  cases a <;> rfl

@[simp] theorem get_scale (c : ℝ) (p : Position ℝ) (a : Axis) :
    (p.scale c).get a = c * p.get a := by
  cases a <;> rfl

end Position

theorem Position.length_sub_comm (p q : Position ℝ) : (p.sub q).length = (q.sub p).length := by
  have opposite : p.sub q = (q.sub p).scale (-1) := by
    refine ext_get fun a => ?_
    simp
  rw [opposite, length_scale]
  simp

theorem Position.add_sub_cancel (p q : Position ℝ) : p.add (q.sub p) = q := by
  refine ext_get fun a => ?_
  simp

/-- A target is the start and the displacement that the target asks for. -/
theorem destination_eq (start : Position ℝ) (target : Target ℝ) (mode : DistanceMode) :
    destination start target mode = start.add (displacement start target mode) := by
  cases mode with
  | absolute =>
    refine Position.ext_get fun a => ?_
    rw [Position.get_add]
    cases a <;>
      simp only [destination, displacement, Target.completedBy, Position.get, Target.get] <;>
      split <;> simp [*]
  | incremental => rfl

/-! ## The points of a line -/

/-- The point at a distance from the start, in the direction of a displacement. -/
noncomputable def pointAt (start delta : Position ℝ) (x : ℝ) : Position ℝ :=
  start.add (delta.scale (x / delta.length))

section Line
variable {start delta : Position ℝ}

theorem pointAt_zero : pointAt start delta 0 = start := by
  refine Position.ext_get fun a => ?_
  simp [pointAt]

theorem length_pointAt_sub_start (far : delta.length ≠ 0) (x : ℝ) :
    ((pointAt start delta x).sub start).length = |x| := by
  have difference : (pointAt start delta x).sub start = delta.scale (x / delta.length) := by
    refine Position.ext_get fun a => ?_
    simp [pointAt]
  rw [difference, Position.length_scale, abs_div, abs_of_nonneg delta.length_nonneg,
    div_mul_cancel₀ _ far]

/-- How far it is from a point of the line to the end of the displacement. -/
theorem length_pointAt_sub_end (far : delta.length ≠ 0) (x : ℝ) :
    ((pointAt start delta x).sub (start.add delta)).length = |x - delta.length| := by
  have difference : (pointAt start delta x).sub (start.add delta) =
      delta.scale ((x - delta.length) / delta.length) := by
    refine Position.ext_get fun a => ?_
    simp only [pointAt, Position.get_sub, Position.get_add, Position.get_scale]
    field_simp
    ring
  rw [difference, Position.length_scale, abs_div, abs_of_nonneg delta.length_nonneg,
    div_mul_cancel₀ _ far]

/-- An axis that the displacement does not name stays where it is. -/
theorem get_pointAt {a : Axis} (none : delta.get a = 0) (x : ℝ) :
    (pointAt start delta x).get a = start.get a := by
  simp [pointAt, none]

end Line

/-! ## Straight motions -/

/-- Travel along a displacement by steps of one length. -/
noncomputable def LinearMotion.along (start delta : Position ℝ) (σ : ℝ) : LinearMotion ℝ :=
  ⟨start, delta.scale (σ / delta.length), σ, delta.length⟩

theorem stepLength_pos {feed tickMs : ℝ} (moves : 0 < feed) (tick : 0 < tickMs) :
    0 < stepLength feed tickMs := by
  rw [stepLength, nat_real]
  positivity

/-- At feed 600 a tick of 25 milliseconds goes a quarter on. -/
theorem stepLength_quarter : stepLength 600 25 = (1 / 4 : ℝ) := by
  rw [stepLength, nat_real]
  norm_num

/-- What a move of some length at some feed is planned as. -/
theorem planLinear_along {start : Position ℝ} {target : Target ℝ} {mode : DistanceMode}
    {feed tickMs : ℝ} (far : (displacement start target mode).length ≠ 0) (moves : 0 < feed)
    (tick : 0 < tickMs) :
    planLinear start target mode feed tickMs =
      .ok (.along start (displacement start target mode) (stepLength feed tickMs)) := by
  have step := stepLength_pos moves tick
  unfold planLinear
  dsimp only
  generalize stepLength feed tickMs = σ at step ⊢
  generalize displacement start target mode = delta at far ⊢
  have equal : delta.map (fun d => d / delta.length * σ) = delta.scale (σ / delta.length) := by
    refine Position.ext_get fun a => ?_
    cases a <;> simp only [Position.map, Position.scale, Position.get] <;> ring
  have length : (delta.scale (σ / delta.length)).length = σ := by
    rw [Position.length_scale, abs_div, abs_of_nonneg delta.length_nonneg, div_mul_cancel₀ _ far,
      abs_of_pos step]
  rw [if_neg (by simpa using far), if_neg (by simpa using moves), equal, LinearMotion.new, length,
    LinearMotion.along]

section Course
variable {start delta : Position ℝ} {σ : ℝ}

/-- One step from a point of the line. -/
theorem LinearMotion.advance_along (far : 0 < delta.length) (step : 0 < σ) {x : ℝ} (ahead : 0 ≤ x) :
    (LinearMotion.along start delta σ).advance (pointAt start delta x) =
      ⟨pointAt start delta (x + σ), .linear (.along start delta σ),
        decide (x + 2 * σ < delta.length)⟩ := by
  have reached : (pointAt start delta x).add (delta.scale (σ / delta.length)) =
      pointAt start delta (x + σ) := by
    refine Position.ext_get fun a => ?_
    simp only [pointAt, Position.get_add, Position.get_scale]
    ring
  have travelled : ((pointAt start delta (x + σ)).sub start).length = x + σ := by
    rw [length_pointAt_sub_start far.ne', abs_of_nonneg (by linarith)]
  have short : x + σ < delta.length - σ ↔ x + 2 * σ < delta.length := by
    constructor <;> intro h <;> linarith
  rw [advance, along]
  dsimp only
  rw [reached, travelled, less_real, decide_eq_decide.2 short]

/-- How many ticks a motion of some length takes. -/
noncomputable def ticks (total σ : ℝ) : ℕ := max 1 (⌈total / σ⌉₊ - 1)

variable {total : ℝ}

/-- Another tick follows while it would not yet be the last that fits. -/
theorem add_lt_of_lt_ticks (step : 0 < σ) {k : ℕ} (more : k + 1 < ticks total σ) :
    k * σ + 2 * σ < total := by
  have lt : k + 2 < ⌈total / σ⌉₊ := by
    rw [ticks] at more
    omega
  have fits : ((k + 2 : ℕ) : ℝ) < total / σ := Nat.lt_ceil.1 lt
  rw [lt_div_iff₀ step] at fits
  push_cast at fits
  linarith

theorem total_le_of_ticks (step : 0 < σ) {k : ℕ} (last : k + 1 = ticks total σ) :
    total ≤ k * σ + 2 * σ := by
  have le : ⌈total / σ⌉₊ ≤ k + 2 := by
    rw [ticks] at last
    omega
  have fits : total / σ ≤ ((k + 2 : ℕ) : ℝ) := Nat.ceil_le.1 le
  rw [div_le_iff₀ step] at fits
  push_cast at fits
  linarith

/-- Where a step fits, so do all of them. -/
theorem mul_le_of_le_ticks (fits : σ ≤ total) (step : 0 < σ) {k : ℕ} (le : k ≤ ticks total σ) :
    k * σ ≤ total := by
  rcases le_max_iff.1 le with le | lt
  · have : (k : ℝ) ≤ 1 := by exact_mod_cast le
    nlinarith
  · have ceil : 0 < ⌈total / σ⌉₊ := Nat.ceil_pos.2 (div_pos (step.trans_le fits) step)
    have below : (k : ℝ) < total / σ := Nat.lt_ceil.1 (by omega)
    exact ((lt_div_iff₀ step).1 below).le

theorem exists_succ_eq_ticks (total σ : ℝ) : ∃ k, k + 1 = ticks total σ := by
  have first : 1 ≤ ticks total σ := le_max_left _ _
  exact ⟨ticks total σ - 1, by omega⟩

/-- No more than a step is left in the end, -/
theorem total_sub_le_ticks_mul (step : 0 < σ) : total - σ ≤ ticks total σ * σ := by
  obtain ⟨k, last⟩ := exists_succ_eq_ticks total σ
  have reached := total_le_of_ticks step last
  rw [← last]
  push_cast
  linarith

/-- and no more than a step was made beyond it. -/
theorem ticks_mul_sub_le (far : 0 < total) (step : 0 < σ) : ticks total σ * σ - σ ≤ total := by
  obtain ⟨k, last⟩ := exists_succ_eq_ticks total σ
  cases k with
  | zero =>
    rw [← last]
    push_cast
    linarith
  | succ k =>
    have short : k * σ + 2 * σ < total := add_lt_of_lt_ticks step (by omega)
    rw [← last]
    push_cast
    linarith

end Course

/-! ## In the simulation -/

theorem same_self (a : ℝ) : same a a = true := decide_eq_true rfl

/-- With exact numbers every coordinate that is given is taken over. -/
theorem Machine.position_setPosition_ofPosition (m : Machine ℝ) (p : Position ℝ) :
    (m.setPosition (.ofPosition p)).position = p := by
  obtain ⟨x, y, z⟩ := m.setPosition_same (same_self p.x) (same_self p.y) (same_self p.z)
  refine Position.ext_get fun a => ?_
  cases a with
  | x => exact of_decide_eq_true x
  | y => exact of_decide_eq_true y
  | z => exact of_decide_eq_true z

namespace Simulation

theorem position_fresh (enabled : Bool) (tickMs : ℝ) :
    (fresh enabled tickMs).machine.position = ⟨0, 0, 0⟩ := by
  simp [fresh, Machine.fresh, Position.origin]

@[simp] theorem position_moveTo (s : Simulation ℝ) (p : Position ℝ) :
    (s.moveTo p).machine.position = p := s.machine.position_setPosition_ofPosition p

/-- A straight motion is in its slot, and the machine at a distance from its start. -/
structure OnCourse (slot : Slot) (start delta : Position ℝ) (σ x dueAt : ℝ) (s : Simulation ℝ) :
    Prop where
  enabled : s.enabled = true
  inMotion : s.inMotion = true
  flight : s.flight slot = some { motion := .linear (.along start delta σ), dueAt }
  position : s.machine.position = pointAt start delta x

/-- A straight motion has ended at a distance from its start. -/
structure Arrived (start delta : Position ℝ) (x : ℝ) (s : Simulation ℝ) : Prop where
  inMotion : s.inMotion = false
  flight : ∀ slot, s.flight slot = none
  position : s.machine.position = pointAt start delta x

namespace OnCourse

variable {slot : Slot} {start delta : Position ℝ} {σ x dueAt : ℝ} {s : Simulation ℝ}

/-- A straight motion that is put into its slot has its whole way before it. -/
theorem takeOff (on : s.enabled = true) (delta : Position ℝ) (σ : ℝ) (slot : Slot) (now : ℝ) :
    OnCourse slot s.machine.position delta σ 0 now
      (s.takeOff (.linear (.along s.machine.position delta σ)) slot now) where
  enabled := by cases slot <;> exact on
  inMotion := by cases slot <;> rfl
  flight := flight_takeOff _ _ _ _
  position := by
    rw [machine_takeOff, pointAt_zero]
    rfl

/-- A tick that is not the last. -/
theorem goesOn (h : OnCourse slot start delta σ x dueAt s) (step : 0 < σ) (ahead : 0 ≤ x)
    (short : x + 2 * σ < delta.length) :
    ∃ s', tickSlot slot s = .done s' () ∧ s'.tickMs = s.tickMs ∧
      OnCourse slot start delta σ (x + σ) (dueAt + s.tickInterval) s' := by
  have far : 0 < delta.length := by linarith
  have ticked := tick_goesOn h.flight h.enabled
    (congrArg Except.ok ((congrArg _ h.position).trans (LinearMotion.advance_along far step ahead)))
    (decide_eq_true short)
  refine ⟨_, by rw [tickSlot, ticked]; rfl, by simp, ?_, ?_, flight_setFlight_self _ _ _, by simp⟩
  · simpa using h.enabled
  · simpa using h.inMotion

/-- The last tick. -/
theorem ends (h : OnCourse slot start delta σ x dueAt s) (far : 0 < delta.length) (step : 0 < σ)
    (ahead : 0 ≤ x) (near : delta.length ≤ x + 2 * σ) :
    ∃ s', tickSlot slot s = .done s' () ∧ Arrived start delta (x + σ) s' := by
  have ticked := tick_ends h.flight h.enabled
    (congrArg Except.ok ((congrArg _ h.position).trans (LinearMotion.advance_along far step ahead)))
    (decide_eq_false (not_lt.2 near))
  refine ⟨(s.moveTo (pointAt start delta (x + σ))).endMotion, by rw [tickSlot, ticked]; rfl, rfl,
    fun other => ?_, position_moveTo _ _⟩
  cases other <;> rfl

/-- As long as the motion is not over, `k` ticks have made `k` steps. -/
theorem run (h : OnCourse slot start delta σ 0 dueAt s) (step : 0 < σ) {k : ℕ}
    (more : k < ticks delta.length σ) :
    (afterSteps (tickSlot slot) k s).tickMs = s.tickMs ∧
      OnCourse slot start delta σ (k * σ) (dueAt + k * s.tickInterval)
        (afterSteps (tickSlot slot) k s) := by
  induction k with
  | zero =>
    rw [Nat.cast_zero, zero_mul, zero_mul, add_zero]
    exact ⟨rfl, h⟩
  | succ k ih =>
    obtain ⟨tickMs, onCourse⟩ := ih (by omega)
    obtain ⟨s', ticked, tickMs', next⟩ :=
      onCourse.goesOn step (by positivity) (add_lt_of_lt_ticks step more)
    have interval : (afterSteps (tickSlot slot) k s).tickInterval = s.tickInterval := by
      rw [tickInterval, tickInterval, tickMs]
    rw [interval, add_assoc, ← add_one_mul, ← add_one_mul, ← Nat.cast_succ] at next
    rw [afterSteps_succ, ticked]
    exact ⟨tickMs'.trans tickMs, next⟩

/-- After the last tick the motion is over. -/
theorem run_ends (h : OnCourse slot start delta σ 0 dueAt s) (far : 0 < delta.length)
    (step : 0 < σ) :
    Arrived start delta (ticks delta.length σ * σ)
      (afterSteps (tickSlot slot) (ticks delta.length σ) s) := by
  obtain ⟨k, last⟩ := exists_succ_eq_ticks delta.length σ
  obtain ⟨-, onCourse⟩ := h.run step (k := k) (by omega)
  obtain ⟨s', ticked, arrived⟩ :=
    onCourse.ends far step (by positivity) (total_le_of_ticks step last)
  rw [← last, afterSteps_succ, ticked, Nat.cast_succ, add_one_mul]
  exact arrived

/-- No tick is stopped. -/
theorem unstopped (h : OnCourse slot start delta σ x dueAt s) (far : 0 < delta.length)
    (step : 0 < σ) (ahead : 0 ≤ x) :
    tickSlot slot s = .done (tickSlot slot s).state () := by
  rcases lt_or_ge (x + 2 * σ) delta.length with short | near
  · obtain ⟨s', ticked, -⟩ := h.goesOn step ahead short
    rw [ticked]
    rfl
  · obtain ⟨s', ticked, -⟩ := h.ends far step ahead near
    rw [ticked]
    rfl

end OnCourse

/-! ## The whole motion -/

/-- A run of ticks that goes straight along a displacement to its end, by steps of length `σ`, and
is over after `n` of them. -/
structure Approaches (slot : Slot) (start delta goal : Position ℝ) (σ : ℝ) (n : ℕ)
    (run : ℕ → Simulation ℝ) : Prop where
  position : ∀ k ≤ n, (run k).machine.position = start.add (delta.scale (k * σ / delta.length))
  flying : ∀ k < n, (run k).inMotion = true ∧ ((run k).flight slot).isSome = true
  landed : (run n).inMotion = false ∧ ∀ other, (run n).flight other = none
  /-- Where a step fits at all, each one comes nearer. -/
  nearer : σ ≤ delta.length → ∀ k < n,
    ((run (k + 1)).machine.position.sub goal).length < ((run k).machine.position.sub goal).length
  /-- And none goes beyond the end: what was travelled and what is left make up the distance. -/
  within : σ ≤ delta.length → ∀ k ≤ n,
    k * σ + ((run k).machine.position.sub goal).length = delta.length
  near : ((run n).machine.position.sub goal).length ≤ σ
  /-- An axis on which nothing is to be done does not move. -/
  still : ∀ a, delta.get a = 0 → ∀ k ≤ n, (run k).machine.position.get a = start.get a

theorem OnCourse.approaches {slot : Slot} {start delta : Position ℝ} {σ dueAt : ℝ}
    {s : Simulation ℝ} (h : OnCourse slot start delta σ 0 dueAt s) (far : 0 < delta.length)
    (step : 0 < σ) :
    Approaches slot start delta (start.add delta) σ (ticks delta.length σ)
      fun k => afterSteps (tickSlot slot) k s := by
  have landed := h.run_ends far step
  have position : ∀ k ≤ ticks delta.length σ,
      (afterSteps (tickSlot slot) k s).machine.position = pointAt start delta (k * σ) := by
    intro k le
    rcases le.lt_or_eq with more | rfl
    · exact (h.run step more).2.position
    · exact landed.position
  have left : ∀ k ≤ ticks delta.length σ,
      ((afterSteps (tickSlot slot) k s).machine.position.sub (start.add delta)).length =
        |k * σ - delta.length| := by
    intro k le
    rw [position k le, length_pointAt_sub_end far.ne']
  have left' : σ ≤ delta.length → ∀ k ≤ ticks delta.length σ,
      ((afterSteps (tickSlot slot) k s).machine.position.sub (start.add delta)).length =
        delta.length - k * σ := by
    intro fits k le
    rw [left k le, abs_sub_comm, abs_of_nonneg (sub_nonneg.2 (mul_le_of_le_ticks fits step le))]
  refine ⟨position, fun k more => ?_, ⟨landed.inMotion, landed.flight⟩, fun fits k more => ?_,
    fun fits k le => ?_, ?_, fun a none k le => ?_⟩
  · obtain ⟨-, onCourse⟩ := h.run step more
    exact ⟨onCourse.inMotion, by rw [onCourse.flight]; rfl⟩
  · rw [left' fits k more.le, left' fits (k + 1) more, Nat.cast_succ, add_one_mul]
    linarith
  · rw [left' fits k le]
    ring
  · rw [left _ le_rfl, abs_le]
    constructor
    · have left : delta.length - σ ≤ ticks delta.length σ * σ := total_sub_le_ticks_mul step
      linarith
    · have beyond : ticks delta.length σ * σ - σ ≤ delta.length := ticks_mul_sub_le far step
      linarith
  · rw [position k le, get_pointAt none]

/-- A straight move of some length, at a feed above zero, is planned; and from where it is put into
its slot it goes straight to its target, in as many ticks as `ticks` says. -/
theorem straight_move_approaches {s : Simulation ℝ} (on : s.enabled = true) (tick : 0 < s.tickMs)
    {target : Target ℝ} {mode : DistanceMode} {feed : ℝ} (moves : 0 < feed)
    (far : (displacement s.machine.position target mode).length ≠ 0) (slot : Slot) (now : ℝ) :
    let start := s.machine.position
    let delta := displacement start target mode
    let σ := stepLength feed s.tickMs
    ∃ m, s.planLinear target mode feed = .ok m ∧
      let run := fun k => afterSteps (tickSlot slot) k (s.takeOff (.linear m) slot now)
      s.begin (.linear m) slot now = .done (run 1) () ∧
        Approaches slot start delta (destination start target mode) σ
          (max 1 (⌈delta.length / σ⌉₊ - 1)) run := by
  intro start delta σ
  have step : 0 < σ := stepLength_pos moves tick
  have long : 0 < delta.length := lt_of_le_of_ne delta.length_nonneg far.symm
  refine ⟨.along start delta σ, planLinear_along far moves tick, ?_⟩
  intro run
  have takesOff : OnCourse slot start delta σ 0 now (run 0) := .takeOff on delta σ slot now
  refine ⟨?_, ?_⟩
  · rw [begin_eq]
    exact takesOff.unstopped long step le_rfl
  · rw [destination_eq]
    exact takesOff.approaches long step

/-- From the origin to X10 at feed 600 there are 39 steps of a quarter. -/
theorem straight_move_to_x10 :
    let s : Simulation ℝ := .fresh true 25
    ∃ m, s.planLinear { x := some 10 } .absolute 600 = .ok m ∧
      Approaches .work .origin ⟨10, 0, 0⟩ ⟨10, 0, 0⟩ (1 / 4) 39
        fun k => afterSteps (tickSlot .work) k (s.takeOff (.linear m) .work 0) := by
  intro s
  have delta : displacement s.machine.position { x := some 10 } .absolute = ⟨10, 0, 0⟩ := by
    simp [s, displacement, Target.get, fresh, Machine.fresh, Position.origin, Position.get]
  have length : (⟨10, 0, 0⟩ : Position ℝ).length = 10 := by
    show √(10 * 10 + 0 * 0 + 0 * 0 : ℝ) = 10
    rw [mul_zero, add_zero, add_zero, Real.sqrt_mul_self (by norm_num)]
  have tick : (0 : ℝ) < s.tickMs := by
    show (0 : ℝ) < 25
    norm_num
  have step : stepLength 600 s.tickMs = (1 / 4 : ℝ) := by
    show stepLength 600 25 = (1 / 4 : ℝ)
    rw [stepLength, nat_real]
    norm_num
  have far : (displacement s.machine.position { x := some 10 } .absolute).length ≠ 0 := by
    rw [delta, length]
    norm_num
  obtain ⟨m, planned, -, approaches⟩ :=
    straight_move_approaches rfl tick (by norm_num : (0 : ℝ) < 600) far .work 0
  have count : max 1 (⌈(10 : ℝ) / (1 / 4)⌉₊ - 1) = 39 := by
    have : (10 : ℝ) / (1 / 4) = (40 : ℕ) := by norm_num
    rw [this, Nat.ceil_natCast]
    rfl
  have goal : s.machine.position.add ⟨10, 0, 0⟩ = ⟨10, 0, 0⟩ := by
    simp [s, fresh, Machine.fresh, Position.origin, Position.add]
  rw [destination_eq, delta, step, length, count, goal] at approaches
  exact ⟨m, planned, approaches⟩

end Simulation

end GcodeSender
