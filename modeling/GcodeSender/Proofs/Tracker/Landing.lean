/-
# `GcodeSender.Proofs.Tracker.Landing` — a straight motion lands wherever reports put it

What is in flight in a tracker that can be reached is in its slot, with
simulation on (`Reached.inFlight`); and a straight motion there is one that was
planned, since ticks leave it as it is (`Motion.Advances.linear`): it has a
length, and steps of some length (`Reached.sound`).  So it lands, and how many
ticks that takes at most does not depend on where it is.

Reports can put it anywhere that three decimals name (`position_receive`).
-/
import GcodeSender.Proofs.Motion.Chord
import GcodeSender.Proofs.Tracker.Drift

namespace GcodeSender

open Scalar Gcode

variable {α : Type} [Scalar α]

/-! ## What is in flight was planned -/

/-- Ticks change nothing of a straight motion. -/
theorem Motion.Advances.linear {planned : Motion α} {m : LinearMotion α}
    (h : planned.Advances (.linear m)) : planned = .linear m := by
  generalize hm : Motion.linear m = motion at h
  induction h with
  | refl => rfl
  | @tick m' position a _ advance goes ih =>
    cases m' with
    | linear l =>
      cases advance
      exact ih hm
    | arc m' =>
      simp only [Motion.advance, ArcMotion.advance?] at advance
      split at advance
      next a' took =>
        cases advance
        split at took
        · cases took
        · cases took
          cases hm
      · cases advance

theorem QueuedMotion.planLinear_of_plan {q : QueuedMotion α} {start : Position α} {tickMs : α}
    {m : LinearMotion α} (h : q.plan start tickMs = .ok (some (.ok (.linear m)))) :
    planLinear start (Move.ofWords q.words).target q.modes.distance q.feed tickMs = .ok m := by
  have straight : ∀ r : Except (Refusal α) (LinearMotion α),
      r.map Motion.linear = .ok (.linear m) → r = .ok m := by
    intro r planned
    cases r <;> cases planned
    rfl
  have bent : ∀ r : Except (Refusal α) (ArcMotion α), r.map Motion.arc ≠ .ok (.linear m) := by
    intro r planned
    cases r <;> cases planned
  unfold plan at h
  dsimp only at h
  split at h
  · exact straight _ (Option.some.inj (Except.ok.inj h))
  · split at h
    · cases h
    · exact straight _ (Option.some.inj (Except.ok.inj h))
    all_goals
      split at h
      · cases h
      · exact absurd (Option.some.inj (Except.ok.inj h)) (bent _)

namespace Tracker

open Simulation (InFlight Moment Lasts)

theorem Reached.inFlight {t : Tracker α} (h : Reached t) {slot : Slot} {f : Flight α}
    (taken : t.simulation.flight slot = some f) : InFlight slot f.motion t.simulation := by
  obtain ⟨on, live⟩ := h.awake.flying slot f taken
  obtain ⟨_, poised⟩ := h.poised
  refine ⟨on, poised.placed.inMotion_of_flight taken, f.dueAt, ?_⟩
  rw [taken, ← live]

variable {t : Tracker ℝ}

theorem Reached.sound (h : Reached t) {slot : Slot} {f : Flight ℝ}
    (taken : t.simulation.flight slot = some f) {m : LinearMotion ℝ}
    (straight : f.motion = .linear m) : m.Sound := by
  obtain ⟨q, -, start, planned, plans, advances⟩ := h.traced.flights slot f taken
  rw [straight] at advances
  rw [advances.linear] at plans
  refine LinearMotion.sound_of_planLinear (q.planLinear_of_plan plans) ?_
  rw [← h.traced.tickMs]
  exact h.tickMs_pos

/-- A report puts the machine where it says. -/
theorem position_receive {message : Bytes} {p : Position Numeral}
    (bracket : message.trim.startsWith [0x3C] = true)
    (wellFormed : Report.isStatusReport message.trim = true)
    (triple : Report.firstTriple? message.trim = some p) (t : Tracker ℝ) :
    (t.receive message).machine.position = ⟨p.x.toReal, p.y.toReal, p.z.toReal⟩ := by
  rw [receive_report bracket]
  show (t.machine.receive message.trim).position = _
  rw [Machine.receive, if_pos bracket, Machine.receiveReport, if_pos wellFormed,
    Machine.position_receiveToken, Machine.receivePosition, triple]
  exact t.machine.position_setPosition_ofPosition ⟨p.x.toReal, p.y.toReal, p.z.toReal⟩

/-- Whatever happened before, and wherever reports have put the machine: a straight motion that is in
flight ends, if no report comes in any more, with its first step that is far enough from its start;
and that is one of the next `2 * total / step`. -/
theorem straight_motion_lands (reached : Reached t) {slot : Slot} {f : Flight ℝ}
    (taken : t.simulation.flight slot = some f) {m : LinearMotion ℝ}
    (straight : f.motion = .linear m) :
    0 < m.total ∧ 0 < m.stepDistance ∧
      ∃ n, IsLeast {k | 0 < k ∧ m.Past (m.stepped t.machine.position k)} n ∧
        n ≤ ⌈2 * m.total / m.stepDistance⌉₊ ∧ Lasts slot n Moment.Still t.simulation := by
  have sound := reached.sound taken straight
  have flies := reached.inFlight taken
  rw [straight] at flies
  exact ⟨sound.total_pos, sound.stepDistance_pos, flies.lands sound⟩

/-- On the way to X10 by steps of a quarter, put back behind the start by nearly as much: 79 of at
most 80 ticks. -/
theorem straight_motion_lands_from_behind :
    let line := Bytes.ofText "X10 Y0 Z0 F600\n"
    let report := Bytes.ofText "<Run|MPos:-9.900,0.000,0.000|FS:600,0>\n"
    let t : Tracker ℝ := (fresh true).after [.register 0 line, .receive report]
    t.machine.position = ⟨-(99 / 10), 0, 0⟩ ∧
      (∃ f m, t.simulation.flight .work = some f ∧ f.motion = .linear m ∧ m.total = 10 ∧
        m.stepDistance = 1 / 4) ∧
      Lasts .work 79 Moment.Still t.simulation := by
  intro line report t
  let t₀ : Tracker ℝ := fresh true
  have plain : Plain line _ 600 ⟨10, 0, 0⟩ :=
    .of_read (a := .decimal false 10 0) (b := .decimal false 0 0) (c := .decimal false 0 0)
      (d := .decimal false 600 0) (by decide +kernel) (by decide +kernel) (by decide +kernel)
      (by norm_num [Numeral.toReal]) (by norm_num) (by norm_num [Numeral.toReal])
  -- the line takes off
  have reached₀ : Reached t₀ := .fresh true
  obtain ⟨q, moves, aims, feed⟩ := plain.aims (t := t₀) rfl rfl rfl
  have step : stepLength q.feed t₀.simulation.tickMs = 1 / 4 := by
    rw [feed, reached₀.tickMs_eq, stepLength_quarter]
  have origin : t₀.machine.position = ⟨0, 0, 0⟩ := Simulation.position_fresh _ _
  have delta : (⟨10, 0, 0⟩ : Position ℝ).sub t₀.machine.position = ⟨10, 0, 0⟩ := by
    rw [origin]
    simp [Position.sub]
  have long : 2 * stepLength q.feed t₀.simulation.tickMs <
      ((⟨10, 0, 0⟩ : Position ℝ).sub t₀.machine.position).length := by
    rw [delta, step, Position.length_on_axis]
    norm_num
  obtain ⟨-, onCourse⟩ := register_long reached₀ rfl rfl rfl moves aims long 0
  rw [delta, step, origin] at onCourse
  -- the report puts it back
  have reached₁ : Reached (t₀.register 0 line).state := reached₀.event (.register 0 line)
  have reached : Reached t := reached₁.event (.receive report)
  have position : t.machine.position = ⟨-(99 / 10), 0, 0⟩ := by
    refine (position_receive
      (p := ⟨.decimal true 9900 (-3), .decimal false 0 (-3), .decimal false 0 (-3)⟩)
      (by decide +kernel) (by decide +kernel) (by decide +kernel) (t₀.register 0 line).state :
      ((t₀.register 0 line).state.receive report).machine.position = _).trans ?_
    norm_num [Numeral.toReal]
  have flight : t.simulation.flight .work = (t₀.register 0 line).state.simulation.flight .work := by
    show ((t₀.register 0 line).state.receive report).simulation.flight .work = _
    rw [(receive_heard report _).simulation]
    rfl
  have taken := flight.trans onCourse.flight
  obtain ⟨-, -, n, first, -, lasts⟩ := straight_motion_lands reached taken rfl
  -- the steps go through the ball around the start
  have length : (⟨10, 0, 0⟩ : Position ℝ).length = 10 := by
    rw [Position.length_on_axis, abs_of_pos (by norm_num)]
  have out := LinearMotion.isLeast_past_along_axis (d := 10) (σ := 1 / 4) (x := -(99 / 10))
    (by norm_num) (by norm_num) (by norm_num [abs_of_neg])
  have count : ⌈((10 : ℝ) - 1 / 4 - -(99 / 10)) / (1 / 4)⌉₊ = 79 := by
    rw [Nat.ceil_eq_iff (by norm_num)]
    norm_num
  rw [← position, count] at out
  rw [first.unique out] at lasts
  exact ⟨position, ⟨_, _, taken, rfl, length, rfl⟩, lasts⟩

end Tracker

end GcodeSender
