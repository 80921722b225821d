/-
# `GcodeSender.Proofs.Motion.Circle` — an arc follows its circle

Where both ends of an arc are at one distance from its centre, and nothing but
its ticks moves the machine, it is carried around the centre:

    p.carried centre clockwise φ   the point `p`, turned by `φ` in the direction of travel
    OnCircle m start k             the machine is `k` steps of the arc from its start

On the circle a tick goes on by `step / radius` (`arrival_carried`), wherever the
branch cut of its angle lies.  The whole way is `total / radius`, which carries
the start to the end (`Planned.carried`), and a full turn where these are one
point.  So what is missing in the end, or was made too much, is a difference of
two numbers of steps, and no more than one step.
-/
import GcodeSender.Proofs.Geometry.Centre
import GcodeSender.Proofs.Motion.Helix

namespace GcodeSender

open Scalar Gcode

namespace Point

/-- A point, turned about a centre in the direction of travel. -/
noncomputable def carried (p centre : Point ℝ) (clockwise : Bool) (φ : ℝ) : Point ℝ :=
  p.turned centre ((if clockwise then -1 else 1) * φ)

section Carried
variable (p centre : Point ℝ) (clockwise : Bool) (φ ψ : ℝ)

theorem carried_zero : p.carried centre clockwise 0 = p := by
  rw [carried, mul_zero, turned_zero]

theorem carried_carried :
    (p.carried centre clockwise ψ).carried centre clockwise φ =
      p.carried centre clockwise (φ + ψ) := by
  rw [carried, carried, carried, turned_turned, mul_add]

theorem length_carried_sub :
    ((p.carried centre clockwise φ).sub centre).length = (p.sub centre).length :=
  length_turned_sub _ _ _

/-- Once around. -/
theorem carried_turn : p.carried centre clockwise (2 * Real.pi) = p := by
  have back : ∀ ψ : ℝ, p.turned centre (ψ - 2 * Real.pi) = p.turned centre ψ := fun ψ => by
    rw [turned, rotated_sub_turn, turned]
  cases clockwise with
  | true => rw [carried, if_pos rfl, neg_one_mul, ← zero_sub, back, turned_zero]
  | false => rw [carried, if_neg (by decide), one_mul, ← back, sub_self, turned_zero]

end Carried

end Point

/-! ## One tick, and the whole way -/

namespace ArcMotion

variable {m : ArcMotion ℝ} {start stop : Position ℝ}

/-- On the circle a tick goes on by one step. -/
theorem Planned.arrival_carried (plan : m.Planned start stop) {p : Position ℝ}
    (onCircle : (p.plane.sub m.centre).length = m.radius) :
    (m.arrival p).plane = p.plane.carried m.centre m.clockwise (m.stepDistance / m.radius) := by
  rw [Point.carried, ← plan.angleStep, Point.turned, Point.rotated_eq_polar, onCircle]
  rfl

/-- Both ends of an arc are at one distance from its centre. -/
def Even (m : ArcMotion ℝ) (start stop : Position ℝ) : Prop :=
  (start.plane.sub m.centre).length = (stop.plane.sub m.centre).length

section Ends
variable (plan : m.Planned start stop) (circle : (start.plane.sub m.centre).length = m.radius)
include plan circle

theorem Planned.ends_ne_centre : start.plane ≠ m.centre ∧ stop.plane ≠ m.centre := by
  have away : ∀ {p : Point ℝ}, (p.sub m.centre).length = m.radius → p ≠ m.centre := by
    intro p far same
    have none : (p.sub m.centre).length = 0 := by
      rw [same, Point.length_eq_zero_iff]
      exact ⟨sub_self _, sub_self _⟩
    exact plan.radius_pos.ne (none.symm.trans far)
  exact ⟨away circle, away plan.radius.symm⟩

/-- The whole way is how far it is around the circle, -/
theorem Planned.carried :
    start.plane.carried m.centre m.clockwise (m.total / m.radius) = stop.plane := by
  obtain ⟨hstart, hstop⟩ := plan.ends_ne_centre circle
  have arrives := Arc.turned_sweep hstart hstop (circle.trans plan.radius)
  rw [plan.total]
  by_cases around : start.plane = stop.plane
  · rw [← around, Arc.length_of_eq, Arc.circumference_real,
      mul_div_cancel_right₀ _ plan.radius_pos.ne', Point.carried_turn]
  · rw [Arc.length_of_ne around, mul_div_cancel_right₀ _ plan.radius_pos.ne']
    cases m.clockwise with
    | true => rwa [if_pos rfl, Point.carried, if_pos rfl, neg_one_mul]
    | false =>
      -- the rest of the circle is the sweep, backwards
      have backwards : start.plane.carried m.centre false
          (-Arc.sweep start.plane stop.plane m.centre) = stop.plane := by
        rwa [Point.carried, if_neg (by decide), one_mul]
      rw [if_neg (by decide), sub_eq_add_neg, ← Point.carried_carried, backwards, Point.carried_turn]

/-- which is not nowhere. -/
theorem Planned.total_pos : 0 < m.total := by
  obtain ⟨hstart, hstop⟩ := plan.ends_ne_centre circle
  rw [plan.total]
  by_cases around : start.plane = stop.plane
  · have positive := plan.radius_pos
    rw [← around, Arc.length_of_eq, Arc.circumference_real]
    positivity
  · have apart : ¬ Arc.InLine m.centre start.plane stop.plane := fun line =>
      around (line.eq (circle.trans plan.radius) hstart)
    exact (Arc.length_mem hstart hstop apart plan.radius_pos _).1

end Ends

end ArcMotion

/-! ## The flight -/

namespace Simulation

/-- The machine is on its circle, `k` steps from the start. -/
def OnCircle (m : ArcMotion ℝ) (start : Point ℝ) (k : ℕ) (s : Simulation ℝ) : Prop :=
  s.machine.position.plane = start.carried m.centre m.clockwise (k * m.stepDistance / m.radius)

section Flight
variable {slot : Slot} {m : ArcMotion ℝ} {start stop : Position ℝ} {k : ℕ} {s s' : Simulation ℝ}

/-- A tick makes one more step. -/
theorem OnCircle.arrival (h : OnCircle m start.plane k s) (plan : m.Planned start stop)
    (circle : (start.plane.sub m.centre).length = m.radius)
    (moved : s'.machine.position = m.arrival s.machine.position) :
    OnCircle m start.plane (k + 1) s' := by
  have onCircle : (s.machine.position.plane.sub m.centre).length = m.radius := by
    rw [h, Point.length_carried_sub, circle]
  rw [OnCircle, moved, plan.arrival_carried onCircle, h, Point.carried_carried]
  congr 1
  push_cast
  ring

theorem OnCircle.still (h : OnCircle m start.plane k s) {change : Machine ℝ → Machine ℝ}
    (still : (Moment.aside change).Still) :
    OnCircle m start.plane k { s with machine := change s.machine } := by
  rw [OnCircle, still s.machine, h]

/-- As long as only its ticks move the machine, an arc goes through its stages on the circle. -/
theorem stages_onCircle (slot : Slot) (plan : m.Planned start stop)
    (circle : (start.plane.sub m.centre).length = m.radius) (step : 0 < m.stepDistance) :
    Stages slot (ticks m.total m.stepDistance) Moment.Still
      (fun k s => Circling slot m k s ∧ OnCircle m start.plane k s)
      (fun s => Landed s ∧ OnCircle m start.plane (ticks m.total m.stepDistance) s) where
  flying h := h.1.flying
  tick h more := by
    obtain ⟨s', ticked, next, position⟩ := h.1.goesOn (add_lt_of_lt_ticks step more)
    rw [ticked]
    exact ⟨next, h.2.arrival plan circle position⟩
  last h last := by
    obtain ⟨s', ticked, landed, position⟩ := h.1.ends (total_le_of_ticks step last)
    rw [ticked, ← last]
    exact ⟨landed, h.2.arrival plan circle position⟩
  aside still h := ⟨h.1.withMachine _, h.2.still still⟩
  landed h := h.1
  behind still h := ⟨h.1.withMachine _, h.2.still still⟩

end Flight

/-- A flight of `n` ticks around the centre of an arc, as long as only these move the machine. -/
structure Circles (slot : Slot) (m : ArcMotion ℝ) (start stop : Point ℝ) (n : ℕ) (s : Simulation ℝ) :
    Prop where
  lasts : Lasts slot n Moment.Still s
  /-- Each tick turns it by one step, -/
  plane : ∀ moments : List (Moment ℝ), (∀ e ∈ moments, e.Still) →
    (elapse slot moments s).machine.position.plane = start.carried m.centre m.clockwise
      ((min (ticksIn moments) n : ℕ) * m.stepDistance / m.radius)
  /-- so it stays on the circle, -/
  onCircle : ∀ moments : List (Moment ℝ), (∀ e ∈ moments, e.Still) →
    ((elapse slot moments s).machine.position.plane.sub m.centre).length = m.radius
  /-- and in the end it is within one step of its goal, along the circle. -/
  near : ∀ moments : List (Moment ℝ), (∀ e ∈ moments, e.Still) → n ≤ ticksIn moments →
    ∃ φ : ℝ, |φ| * m.radius ≤ m.stepDistance ∧
      (elapse slot moments s).machine.position.plane.carried m.centre m.clockwise φ = stop

theorem Circling.circles {slot : Slot} {m : ArcMotion ℝ} {start stop : Position ℝ}
    {s : Simulation ℝ} (h : Circling slot m 0 s) (plan : m.Planned start stop)
    (circle : (start.plane.sub m.centre).length = m.radius) (step : 0 < m.stepDistance)
    (here : s.machine.position = start) :
    Circles slot m start.plane stop.plane (ticks m.total m.stepDistance) s := by
  have stages := stages_onCircle slot plan circle step
  have first : OnCircle m start.plane 0 s := by
    rw [OnCircle, here, Nat.cast_zero, zero_mul, zero_div, Point.carried_zero]
  have some := ticks_pos m.total m.stepDistance
  have plane : ∀ moments : List (Moment ℝ), (∀ e ∈ moments, e.Still) →
      OnCircle m start.plane (min (ticksIn moments) (ticks m.total m.stepDistance))
        (elapse slot moments s) := by
    intro moments still
    obtain ⟨before, past⟩ := stages.run ⟨h, first⟩ some still
    rcases lt_or_ge (ticksIn moments) (ticks m.total m.stepDistance) with less | le
    · rw [min_eq_left less.le]
      exact (before less).2
    · rw [min_eq_right le]
      exact (past le).2
  refine ⟨stages.lasts ⟨h, first⟩ some, plane, fun moments still => ?_, fun moments still le => ?_⟩
  · rw [plane moments still, Point.length_carried_sub, circle]
  · have far := plan.total_pos circle
    have left : m.total - m.stepDistance ≤ ticks m.total m.stepDistance * m.stepDistance :=
      total_sub_le_ticks_mul step
    have beyond := ticks_mul_sub_le far step
    refine ⟨(m.total - ticks m.total m.stepDistance * m.stepDistance) / m.radius, ?_, ?_⟩
    · rw [abs_div, abs_of_pos plan.radius_pos, div_mul_cancel₀ _ plan.radius_pos.ne', abs_le]
      constructor <;> linarith
    · rw [plane moments still, min_eq_right le, Point.carried_carried, ← add_div, sub_add_cancel,
        plan.carried circle]

/-- With a radius, both ends of an arc are at that distance from its centre. -/
theorem length_of_arcCentre {start stop centre : Point ℝ} {move : Move ℝ} {modes : Modes}
    {clockwise : Bool} (found : arcCentre start stop move modes clockwise = .ok centre) {radius : ℝ}
    (given : move.radius = some radius) :
    (start.sub centre).length = |radius| ∧ (stop.sub centre).length = |radius| := by
  unfold arcCentre at found
  rw [given] at found
  dsimp only at found
  split at found
  · cases found
    exact Arc.equidistant_of_radius ‹_›
  · cases found

/-- A planned arc goes around its centre from where it is put into its slot, the way that its word
says, and ends within a step of its target, if start and target are at one distance from the centre.
With a radius they are; and where they are one point it goes around once. -/
theorem arc_follows_circle {s : Simulation ℝ} (on : s.enabled = true) (tick : 0 < s.tickMs)
    {move : Move ℝ} {modes : Modes} {feed : ℝ} {m : ArcMotion ℝ}
    (planned : s.planArc move modes feed = .ok (.ok m)) (slot : Slot) (now : ℝ) :
    let start := s.machine.position
    let stop := destination start move.target modes.distance
    let n := max 1 (⌈m.total / m.stepDistance⌉₊ - 1)
    let s' := s.takeOff (.arc m) slot now
    m.clockwise = decide (modes.motion = .arcClockwise) ∧
      m.stepDistance = stepLength feed s.tickMs ∧
      (move.radius.isSome = true → m.Even start stop) ∧
      (start.plane = stop.plane → m.Even start stop ∧ m.total = 2 * Real.pi * m.radius) ∧
      (m.Even start stop → 0 < m.radius ∧ m.radius = (stop.plane.sub m.centre).length ∧
        s.begin (.arc m) slot now = .done (s'.elapse slot [.tick]) () ∧
        Circles slot m start.plane stop.plane n s') := by
  intro start stop n s'
  obtain ⟨moves, stepIs, clockwise, found, plan⟩ := planned_of_planArc planned
  have step : 0 < m.stepDistance := by
    rw [stepIs]
    exact stepLength_pos moves tick
  refine ⟨clockwise, stepIs, fun given => ?_, fun around => ?_, fun same => ?_⟩
  · obtain ⟨radius, given⟩ := Option.isSome_iff_exists.1 given
    obtain ⟨hstart, hstop⟩ := length_of_arcCentre found given
    exact hstart.trans hstop.symm
  · refine ⟨congrArg (fun p : Point ℝ => (p.sub m.centre).length) around, ?_⟩
    rw [plan.total, ← Arc.circumference_real]
    show Arc.length start.plane stop.plane _ _ _ = _
    rw [← around, Arc.length_of_eq]
  · have takesOff : Circling slot m 0 s' := .takeOff on plan.travelled slot now
    have here : s'.machine.position = start := by
      rw [machine_takeOff]
      rfl
    exact ⟨plan.radius_pos, plan.radius, takesOff.elapse_tick,
      takesOff.circles plan (same.trans plan.radius.symm) step here⟩

/-- Once around X5, counter-clockwise from the origin: 125 ticks. -/
theorem arc_follows_circle_once_around :
    let s : Simulation ℝ := .fresh true 25
    let move : Move ℝ := { centre := { i := some 5 } }
    let modes : Modes := { motion := .arcCounterClockwise }
    0 < s.tickMs ∧ ∃ m, s.planArc move modes 600 = .ok (.ok m) ∧ m.clockwise = false ∧
      m.total = 10 * Real.pi ∧ Circles .work m ⟨0, 0⟩ ⟨0, 0⟩ 125 (s.takeOff (.arc m) .work 0) := by
  intro s move modes
  have tick : 0 < s.tickMs := by
    show (0 : ℝ) < 25
    norm_num
  have position : s.machine.position = ⟨0, 0, 0⟩ := position_fresh _ _
  have stop : destination s.machine.position move.target modes.distance = ⟨0, 0, 0⟩ := by
    rw [position]
    rfl
  have centre : arcCentre s.machine.position.plane (destination s.machine.position move.target
      modes.distance).plane move modes (modes.motion = .arcClockwise) = .ok ⟨5, 0⟩ := by
    rw [position]
    simp [arcCentre, move, modes, CentreWords.isEmpty, Arc.centreOfWords, Position.plane]
  obtain ⟨m, planned, atCentre⟩ := planArc_of_centre centre (by rw [stop]; simp [Position.plane])
    (by norm_num : (0 : ℝ) < 600) tick
  obtain ⟨left, stepIs, -, around, follows⟩ := arc_follows_circle (s := s) rfl tick planned .work 0
  obtain ⟨even, whole⟩ := around (by rw [stop, position])
  obtain ⟨-, radiusIs, -, circles⟩ := follows even
  have step : m.stepDistance = 1 / 4 := stepIs.trans stepLength_quarter
  have radius : m.radius = 5 := by
    rw [radiusIs, stop, atCentre]
    show (⟨0 - 5, 0 - 0⟩ : Point ℝ).length = 5
    rw [sub_self, Point.length_on_axis]
    norm_num
  have total : m.total = 10 * Real.pi := by
    rw [whole, radius]
    ring
  have count : max 1 (⌈m.total / m.stepDistance⌉₊ - 1) = 125 := by
    have above := Real.pi_gt_d2
    have below := Real.pi_lt_d2
    refine ticks_eq (by norm_num) (by rw [step]; norm_num) ?_ ?_ <;> rw [total, step] <;>
      norm_num <;> linarith
  rw [count, stop, position] at circles
  exact ⟨tick, m, planned, left, total, circles⟩

end Simulation

end GcodeSender
