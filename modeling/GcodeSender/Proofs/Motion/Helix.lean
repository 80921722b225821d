/-
# `GcodeSender.Proofs.Motion.Helix` — an arc counts its ticks

An arc is over when it has travelled far enough, and what it has travelled is
counted tick by tick; where the machine is shown does not matter.  So with exact
numbers the number of its ticks is settled when it is planned, whatever reports
come in between, and so is what the ticks add to Z:

    Planned start stop m    what an arc is planned as
    Circling slot m k       it is in its slot, `k` ticks on
    risen                   what the ticks of a flight have added to Z

The step along Z is the whole way along Z divided by `max 1 (total / step)`.
The number of ticks, `max 1 (⌈total / step⌉ − 1)`, is at most that, and at most
one less (`ticks_le_max`, `max_le_ticks_add_one`).  So the climb stops within a
step of its end, and not beyond it.
-/
import GcodeSender.Proofs.Geometry.Sweep
import GcodeSender.Proofs.Motion.Moments
import GcodeSender.Proofs.Motion.Straight

namespace GcodeSender

open Scalar Gcode

/-! ## What an arc is planned as -/

theorem ArcMotion.angleStep_new (centre : Point ℝ) (radius : ℝ) (clockwise : Bool)
    (step total zStep : ℝ) :
    (ArcMotion.new centre radius clockwise step total zStep).angleStep =
      (if clockwise then -1 else 1) * (step / radius) := by
  have angle : turn * step / Arc.circumference radius = step / radius := by
    rw [turn_real, Arc.circumference_real, mul_div_mul_left _ _ (by positivity)]
  rw [ArcMotion.new, angle]
  cases clockwise with
  | true => exact (neg_one_mul _).symm
  | false => exact (one_mul _).symm

/-- An arc from one position to another, before its first tick. -/
structure ArcMotion.Planned (start stop : Position ℝ) (m : ArcMotion ℝ) : Prop where
  radius : m.radius = (stop.plane.sub m.centre).length
  radius_pos : 0 < m.radius
  total : m.total = Arc.length start.plane stop.plane m.centre m.clockwise m.radius
  zStep : m.zStep = (stop.z - start.z) / max 1 (m.total / m.stepDistance)
  angleStep : m.angleStep = (if m.clockwise then -1 else 1) * (m.stepDistance / m.radius)
  travelled : m.travelled = 0

/-- Where an arc is planned, it has a centre, and the feed is above zero. -/
theorem planned_of_planArc {start : Position ℝ} {move : Move ℝ} {modes : Modes}
    {feed tickMs : ℝ} {m : ArcMotion ℝ}
    (h : planArc start move modes feed tickMs = .ok (.ok m)) :
    let stop := destination start move.target modes.distance
    0 < feed ∧ m.stepDistance = stepLength feed tickMs ∧
      m.clockwise = decide (modes.motion = .arcClockwise) ∧
      arcCentre start.plane stop.plane move modes m.clockwise = .ok m.centre ∧
      m.Planned start stop := by
  unfold planArc at h
  dsimp only at h
  generalize destination start move.target modes.distance = stop at h ⊢
  generalize decide (modes.motion = .arcClockwise) = clockwise at h ⊢
  generalize stepLength feed tickMs = step at h ⊢
  split at h
  · cases h
  next centre found =>
    generalize lengthAt : (stop.plane.sub centre).length = radius at h
    simp only [same_real, atMost_real, raiseTo_real, nat_real, Nat.cast_zero, Nat.cast_one,
      decide_eq_true_eq] at h
    split at h
    · cases h
    next apart =>
      have positive : 0 < radius := by
        refine lt_of_le_of_ne ?_ (Ne.symm apart)
        rw [← lengthAt]
        exact Point.length_nonneg _
      split at h
      · cases h
      next moves =>
        split at h
        · cases h
        · cases h
          have angle := ArcMotion.angleStep_new centre radius clockwise
          refine ⟨not_le.1 moves, rfl, rfl, found, lengthAt.symm, positive, rfl, rfl, angle _ _ _, ?_⟩
          rw [ArcMotion.new, nat_real, Nat.cast_zero]

/-- Where there is a centre, which the arc does not end on, at a feed above zero it is planned. -/
theorem planArc_of_centre {start : Position ℝ} {move : Move ℝ} {modes : Modes}
    {feed tickMs : ℝ} {centre : Point ℝ}
    (found : arcCentre start.plane (destination start move.target modes.distance).plane move modes
      (modes.motion = .arcClockwise) = .ok centre)
    (apart : (destination start move.target modes.distance).plane ≠ centre) (moves : 0 < feed)
    (tick : 0 < tickMs) :
    ∃ m, planArc start move modes feed tickMs = .ok (.ok m) ∧ m.centre = centre := by
  have long := Point.length_sub_pos apart
  have step := stepLength_pos moves tick
  rw [planArc]
  dsimp only
  rw [found]
  simp only [same_real, atMost_real, nat_real, Nat.cast_zero, decide_eq_true_eq, long.ne', step.ne',
    moves.not_ge, if_false]
  exact ⟨_, rfl, rfl⟩

/-! ## The number of ticks -/

theorem ticks_pos (total σ : ℝ) : 0 < ticks total σ := Nat.lt_of_lt_of_le one_pos (le_max_left _ _)

theorem ticks_le_max (total σ : ℝ) : (ticks total σ : ℝ) ≤ max 1 (total / σ) := by
  rcases le_or_gt ⌈total / σ⌉₊ 2 with few | many
  · have one : ticks total σ = 1 := by
      rw [ticks]
      omega
    rw [one, Nat.cast_one]
    exact le_max_left _ _
  · have lt : ticks total σ < ⌈total / σ⌉₊ := by
      rw [ticks]
      omega
    exact (Nat.lt_ceil.1 lt).le.trans (le_max_right _ _)

theorem max_le_ticks_add_one (total σ : ℝ) : max 1 (total / σ) ≤ ticks total σ + 1 := by
  have enough : ⌈total / σ⌉₊ ≤ ticks total σ + 1 := by
    rw [ticks]
    omega
  have some : 1 ≤ ticks total σ + 1 := Nat.le_add_left _ _
  refine max_le (by exact_mod_cast some) ((Nat.le_ceil _).trans ?_)
  exact_mod_cast enough

/-- Ticks, counted by where their steps end. -/
theorem ticks_eq {total σ : ℝ} {n : ℕ} (some : 0 < n) (step : 0 < σ) (before : n * σ < total)
    (behind : total ≤ (n + 1) * σ) : ticks total σ = n := by
  have ceil : ⌈total / σ⌉₊ = n + 1 := by
    rw [Nat.ceil_eq_iff n.succ_ne_zero, lt_div_iff₀ step, div_le_iff₀ step]
    push_cast
    exact ⟨before, behind⟩
  rw [ticks, ceil]
  omega

/-! ## The flight -/

/-- Where a tick of an arc arrives. -/
noncomputable def ArcMotion.arrival (m : ArcMotion ℝ) (p : Position ℝ) : Position ℝ :=
  ⟨m.centre.x + m.radius * cos (m.nextAngle p), m.centre.y + m.radius * sin (m.nextAngle p),
    p.z + m.zStep⟩

/-- An arc, `k` ticks on. -/
noncomputable def ArcMotion.later (m : ArcMotion ℝ) (k : ℕ) : ArcMotion ℝ :=
  { m with travelled := k * m.stepDistance }

theorem ArcMotion.later_zero {m : ArcMotion ℝ} (fresh : m.travelled = 0) : m.later 0 = m := by
  rw [later, Nat.cast_zero, zero_mul, ← fresh]

/-- A tick counts one step, wherever it is made. -/
theorem ArcMotion.advance_later (m : ArcMotion ℝ) (k : ℕ) (p : Position ℝ) :
    (Motion.arc (m.later k)).advance p =
      .ok ⟨m.arrival p, .arc (m.later (k + 1)),
        decide (k * m.stepDistance + 2 * m.stepDistance < m.total)⟩ := by
  have short : k * m.stepDistance + m.stepDistance < m.total - m.stepDistance ↔
      k * m.stepDistance + 2 * m.stepDistance < m.total := by
    constructor <;> intro h <;> linarith
  have next : m.later (k + 1) = { m with travelled := k * m.stepDistance + m.stepDistance } := by
    rw [later, Nat.cast_succ, add_one_mul]
  rw [next, ← decide_eq_decide.2 short]
  rfl

namespace Simulation

/-- An arc is in its slot, `k` ticks on. -/
def Circling (slot : Slot) (m : ArcMotion ℝ) (k : ℕ) (s : Simulation ℝ) : Prop :=
  InFlight slot (.arc (m.later k)) s

namespace Circling

variable {slot : Slot} {m : ArcMotion ℝ} {k : ℕ} {s : Simulation ℝ}

theorem takeOff (on : s.enabled = true) (fresh : m.travelled = 0) (slot : Slot) (now : ℝ) :
    Circling slot m 0 (s.takeOff (.arc m) slot now) := by
  rw [Circling, ArcMotion.later_zero fresh]
  exact .takeOff on _ slot now

theorem goesOn (h : Circling slot m k s) (short : k * m.stepDistance + 2 * m.stepDistance < m.total) :
    ∃ s', tickSlot slot s = .done s' () ∧ Circling slot m (k + 1) s' ∧
      s'.machine.position = m.arrival s.machine.position := by
  obtain ⟨s', ticked, next, position⟩ :=
    InFlight.goesOn h (m.advance_later k _) (decide_eq_true short)
  exact ⟨s', ticked, next, position.trans (position_moveTo _ _)⟩

theorem ends (h : Circling slot m k s) (near : m.total ≤ k * m.stepDistance + 2 * m.stepDistance) :
    ∃ s', tickSlot slot s = .done s' () ∧ Landed s' ∧
      s'.machine.position = m.arrival s.machine.position := by
  simpa using InFlight.ends h (m.advance_later k _) (decide_eq_false (not_lt.2 near))

theorem made (h : Circling slot m k s) :
    ∃ s', tickSlot slot s = .done s' () ∧ s'.machine.position = m.arrival s.machine.position := by
  simpa using InFlight.made h (m.advance_later k _)

theorem elapse_tick (h : Circling slot m k s) :
    tickSlot slot s = .done (s.elapse slot [.tick]) () :=
  InFlight.elapse_tick h (m.advance_later k _)

theorem flying (h : Circling slot m k s) : Flying slot s := InFlight.flying h (m.advance_later k _)

end Circling

/-- An arc goes through its stages whatever happens to the machine. -/
theorem stages_circling (slot : Slot) {m : ArcMotion ℝ} (step : 0 < m.stepDistance) :
    Stages slot (ticks m.total m.stepDistance) (fun _ => True) (Circling slot m) Landed where
  flying h := h.flying
  tick h more := by
    obtain ⟨s', ticked, next, -⟩ := h.goesOn (add_lt_of_lt_ticks step more)
    rw [ticked]
    exact next
  last h last := by
    obtain ⟨s', ticked, landed, -⟩ := h.ends (total_le_of_ticks step last)
    rw [ticked]
    exact landed
  aside _ h := h.withMachine _
  landed h := h
  behind _ h := h.withMachine _

/-! ## The climb -/

/-- What the ticks among some moments add to Z. -/
noncomputable def risen (slot : Slot) : List (Moment ℝ) → Simulation ℝ → ℝ
  | [], _ => 0
  | .tick :: rest, s =>
    let s' := s.meet slot .tick
    s'.machine.position.z - s.machine.position.z + risen slot rest s'
  | .aside change :: rest, s => risen slot rest (s.meet slot (.aside change))

theorem Landed.risen {slot : Slot} {s : Simulation ℝ} (h : Landed s) (moments : List (Moment ℝ)) :
    risen slot moments s = 0 := by
  induction moments generalizing s with
  | nil => rfl
  | cons moment rest ih =>
    cases moment with
    | tick =>
      have same : s.meet slot .tick = s := h.tickSlot slot
      rw [Simulation.risen, same, sub_self, zero_add]
      exact ih h
    | aside change => exact ih (h.withMachine (change s.machine))

/-- Every tick of an arc rises by one step. -/
theorem Circling.risen {slot : Slot} {m : ArcMotion ℝ} {k : ℕ} {s : Simulation ℝ}
    (h : Circling slot m k s) (step : 0 < m.stepDistance)
    (before : k < ticks m.total m.stepDistance) (moments : List (Moment ℝ)) :
    Simulation.risen slot moments s =
      (min (ticksIn moments) (ticks m.total m.stepDistance - k) : ℕ) * m.zStep := by
  have stages := stages_circling slot step
  induction moments generalizing k s with
  | nil => simp [Simulation.risen]
  | cons moment rest ih =>
    cases moment with
    | tick =>
      obtain ⟨s', ticked, position⟩ := h.made
      have moved : s.meet slot .tick = (tickSlot slot s).state := rfl
      have up : (tickSlot slot s).state.machine.position.z - s.machine.position.z = m.zStep := by
        rw [ticked]
        exact (congrArg (·.z - _) position).trans (add_sub_cancel_left _ _)
      rw [Simulation.risen, moved, up, ticksIn_tick]
      rcases (Nat.succ_le_of_lt before).lt_or_eq with more | last
      · have split : min (ticksIn rest + 1) (ticks m.total m.stepDistance - k) =
            min (ticksIn rest) (ticks m.total m.stepDistance - (k + 1)) + 1 := by omega
        rw [ih (stages.tick h more) more, split, Nat.cast_succ]
        ring
      · have single : min (ticksIn rest + 1) (ticks m.total m.stepDistance - k) = 1 := by omega
        rw [(stages.last h last).risen, single]
        ring
    | aside change =>
      rw [ticksIn_aside]
      exact ih (h.withMachine _) before

/-- A flight of `n` ticks that climbs towards `dz`, whatever happens in between. -/
structure Climbs (slot : Slot) (dz zStep : ℝ) (n : ℕ) (s : Simulation ℝ) : Prop where
  /-- Each tick adds the same, -/
  steady : ∀ moments, risen slot moments s = (min (ticksIn moments) n : ℕ) * zStep
  /-- in the direction of `dz`, -/
  toward : ∃ c > 0, zStep = c * dz
  /-- without passing it, -/
  within : ∀ moments, risen slot moments s ∈ Set.uIcc 0 dz
  /-- and ends within one step of it. -/
  near : ∀ moments, n ≤ ticksIn moments → |dz - risen slot moments s| ≤ |zStep|

/-- The step along Z divides the whole way among the ticks, and leaves one step at most. -/
theorem Circling.climbs {slot : Slot} {m : ArcMotion ℝ} {s : Simulation ℝ} {dz : ℝ}
    (h : Circling slot m 0 s) (step : 0 < m.stepDistance)
    (shared : m.zStep = dz / max 1 (m.total / m.stepDistance)) :
    Climbs slot dz m.zStep (ticks m.total m.stepDistance) s := by
  have some := ticks_pos m.total m.stepDistance
  have steady : ∀ moments, Simulation.risen slot moments s =
      (min (ticksIn moments) (ticks m.total m.stepDistance) : ℕ) * m.zStep := fun moments =>
    h.risen step some moments
  have enough := ticks_le_max m.total m.stepDistance
  have tight := max_le_ticks_add_one m.total m.stepDistance
  generalize ticks m.total m.stepDistance = n at enough tight steady ⊢
  have one : 1 ≤ max 1 (m.total / m.stepDistance) := le_max_left _ _
  generalize max 1 (m.total / m.stepDistance) = share at enough tight one shared ⊢
  have positive : 0 < share := one_pos.trans_le one
  have whole : dz = share * m.zStep := by
    rw [shared, mul_div_cancel₀ _ positive.ne']
  refine ⟨steady, ⟨1 / share, by positivity, ?_⟩, fun moments => ?_, fun moments past => ?_⟩
  · rw [shared, one_div_mul_eq_div]
  · have few : ((min (ticksIn moments) n : ℕ) : ℝ) ≤ share := by
      refine le_trans ?_ enough
      exact_mod_cast min_le_right _ _
    rw [steady, whole, Set.mem_uIcc]
    rcases le_total 0 m.zStep with up | down
    · exact .inl ⟨by positivity, mul_le_mul_of_nonneg_right few up⟩
    · exact .inr ⟨mul_le_mul_of_nonpos_right few down, mul_nonpos_of_nonneg_of_nonpos (by positivity) down⟩
  · have left : |share - n| ≤ 1 := by
      rw [abs_of_nonneg (by linarith)]
      linarith
    rw [steady, min_eq_right past, whole, ← sub_mul, abs_mul]
    exact mul_le_of_le_one_left (abs_nonneg _) left

/-- A planned arc, once it is put into its slot, is over after as many ticks as its length and its
step say, and has climbed by all but one step of its way along Z at least, whatever reports come in
between. -/
theorem arc_climbs {s : Simulation ℝ} (on : s.enabled = true) {move : Move ℝ} {modes : Modes}
    {feed : ℝ} {m : ArcMotion ℝ} (planned : s.planArc move modes feed = .ok (.ok m))
    (step : 0 < m.stepDistance) (slot : Slot) (now : ℝ) :
    let stop := destination s.machine.position move.target modes.distance
    let n := max 1 (⌈m.total / m.stepDistance⌉₊ - 1)
    let s' := s.takeOff (.arc m) slot now
    s.begin (.arc m) slot now = .done (s'.elapse slot [.tick]) () ∧
      Lasts slot n (fun _ => True) s' ∧
      Climbs slot (stop.z - s.machine.position.z) m.zStep n s' := by
  intro stop n s'
  obtain ⟨-, -, -, -, plan⟩ := planned_of_planArc planned
  have takesOff : Circling slot m 0 s' := .takeOff on plan.travelled slot now
  exact ⟨takesOff.elapse_tick, (stages_circling slot step).lasts takesOff (ticks_pos _ _),
    takesOff.climbs step plan.zStep⟩

/-- Half a turn about X5, from the origin to X10, three down: 62 ticks. -/
theorem arc_climbs_half_turn :
    let s : Simulation ℝ := .fresh true 25
    let move : Move ℝ := { target := { x := some 10, z := some (-3) }, centre := { i := some 5 } }
    ∃ m, s.planArc move { motion := .arcClockwise } 600 = .ok (.ok m) ∧ 0 < m.stepDistance ∧
      m.total = 5 * Real.pi ∧ Lasts .work 62 (fun _ => True) (s.takeOff (.arc m) .work 0) ∧
      Climbs .work (-3) m.zStep 62 (s.takeOff (.arc m) .work 0) := by
  intro s move
  let modes : Modes := { motion := .arcClockwise }
  have tick : 0 < s.tickMs := by
    show (0 : ℝ) < 25
    norm_num
  have position : s.machine.position = ⟨0, 0, 0⟩ := position_fresh _ _
  have stop : destination s.machine.position move.target modes.distance = ⟨10, 0, -3⟩ := by
    rw [position]
    rfl
  have centre : arcCentre s.machine.position.plane (destination s.machine.position move.target
      modes.distance).plane move modes (modes.motion = .arcClockwise) = .ok ⟨5, 0⟩ := by
    rw [position]
    simp [arcCentre, move, modes, CentreWords.isEmpty, Arc.centreOfWords, Position.plane]
  obtain ⟨m, planned, atCentre⟩ := planArc_of_centre centre (by rw [stop]; simp [Position.plane])
    (by norm_num : (0 : ℝ) < 600) tick
  obtain ⟨-, stepLength, right, -, plan⟩ := planned_of_planArc planned
  have step : m.stepDistance = 1 / 4 := stepLength.trans stepLength_quarter
  have radius : m.radius = 5 := by
    rw [plan.radius, stop, atCentre]
    show (⟨10 - 5, 0 - 0⟩ : Point ℝ).length = 5
    rw [sub_self, Point.length_on_axis]
    norm_num
  have total : m.total = 5 * Real.pi := by
    have half : Arc.sweep ⟨0, 0⟩ ⟨10, 0⟩ ⟨5, 0⟩ = Real.pi :=
      Arc.sweep_opposite (by norm_num [Point.cross, Point.sub]) (by norm_num [Point.dot, Point.sub])
    rw [plan.total, radius, right, stop, position, atCentre]
    show Arc.length ⟨0, 0⟩ ⟨10, 0⟩ ⟨5, 0⟩ true 5 = 5 * Real.pi
    rw [Arc.length_of_ne (by simp), if_pos rfl, half, mul_comm]
  have positive : 0 < m.stepDistance := by
    rw [step]
    norm_num
  have count : max 1 (⌈m.total / m.stepDistance⌉₊ - 1) = 62 := by
    have above := Real.pi_gt_d2
    have below := Real.pi_lt_d2
    refine ticks_eq (by norm_num) positive ?_ ?_ <;> rw [total, step] <;> norm_num <;> linarith
  obtain ⟨-, lasts, climbs⟩ := arc_climbs (s := s) rfl planned positive .work 0
  have down : (destination s.machine.position move.target .absolute).z - s.machine.position.z = -3 := by
    rw [stop, position, sub_zero]
  rw [count] at lasts climbs
  exact ⟨m, planned, positive, total, lasts, down ▸ climbs⟩

end Simulation

end GcodeSender
