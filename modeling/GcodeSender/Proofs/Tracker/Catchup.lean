/-
# `GcodeSender.Proofs.Tracker.Catchup` — an update ends, and what it begins gets one tick

An update makes the ticks that have come due, and where one ends its motion the
lines that wait are started within the update.

With an exact clock (`ExactClock`) and a tick interval above zero, a motion that
is `x` intervals behind gets at most `⌊x⌋ + 1` ticks.  A motion that begins
within the update has its first tick there and then; the next one is due an
interval after the time of the update, so neither loop comes back to it, in
whichever slot it is.  So the trace of an update is a row of ticks of the motion
that was in flight, and behind it single ticks (`CatchesUp.trace`).
-/
import GcodeSender.Proofs.Tracker.Drift
import GcodeSender.Proofs.Tracker.Trace

namespace GcodeSender

open Scalar Gcode ExactClock

variable {α : Type} [Scalar α]

namespace Simulation

theorem tickInterval_tick (slot : Slot) (s : Simulation α) :
    (tick slot s).state.tickInterval = s.tickInterval := by
  rw [tickInterval, tickInterval, (Played.tick slot s).tickMs]

theorem due_setFlight (s : Simulation α) (slot : Slot) (f : Flight α) (now : α) :
    due slot now (s.setFlight slot (some f)) = (!f.cancelled && !less now f.dueAt) := by
  rw [due, flight_setFlight_self]

end Simulation

namespace Tracker

open Simulation (due tickSlot Alone Placed Unfolds)

/-- An update comes to its end of itself, within the ticks it is allowed. -/
def Finishes (now : α) (t : Tracker α) : Prop :=
  endsWithin (isDue .work now) (tick .work now) (t.simulation.tickAllowance .work now) t = true ∧
    ∀ t', t.settleSlot .work now = .done t' () →
      endsWithin (isDue .jog now) (tick .jog now) (t'.simulation.tickAllowance .jog now) t' = true

/-! ## One loop -/

variable {slot : Slot} {now : α}

/-- The loop over the slot that is taken: it ends within `n` ticks, and nothing is due then; and its
ticks are those of the motion in flight, `n` at most, and behind them single ones. -/
structure CatchesUp (slot : Slot) (now : α) (n : Nat) (t : Tracker α) : Prop where
  ends : endsWithin (isDue slot now) (tick slot now) n t = true
  quiet : ∀ t', settle (isDue slot now) (tick slot now) n t = .done t' () →
    ∀ other, isDue other now t' = false
  trace : ∀ limit, InTurn t.simulation.line n
    (settleTrace (isDue slot now) (tick slot now) (tickTrace slot now) limit t)

namespace CatchesUp

variable {t t' : Tracker α} {n : Nat}

theorem of_rests (rests : ∀ other, isDue other now t = false) : CatchesUp slot now n t where
  ends := endsWithin_rests (rests slot) n
  quiet t' done := by
    rw [settle_rests (rests slot)] at done
    cases done
    exact rests
  trace limit := by
    rw [settleTrace_rests (rests slot)]
    exact .nil _ _

theorem of_stopped {fault : Fault} (h : isDue slot now t = true)
    (stopped : tick slot now t = .stopped t' fault)
    (trace : InTurn t.simulation.line (n + 1) (tickTrace slot now t)) :
    CatchesUp slot now (n + 1) t where
  ends := endsWithin_stopped stopped n
  quiet t' done := by
    rw [settle_stopped h stopped] at done
    cases done
  trace limit := by
    cases limit with
    | zero => exact .nil _ _
    | succ limit =>
      rw [settleTrace, if_pos h, stopped]
      simpa [Step.traced, Step.stopped] using trace

/-- A tick, and what follows it. -/
theorem of_tick (h : isDue slot now t = true) (done : tick slot now t = .done t' ())
    (next : CatchesUp slot now n t')
    (trace : ∀ limit, InTurn t.simulation.line (n + 1) (tickTrace slot now t ++
      settleTrace (isDue slot now) (tick slot now) (tickTrace slot now) limit t')) :
    CatchesUp slot now (n + 1) t where
  ends := by
    rw [endsWithin_again h done]
    exact next.ends
  quiet t' := by
    rw [settle_again h done]
    exact next.quiet t'
  trace limit := by
    cases limit with
    | zero => exact .nil _ _
    | succ limit =>
      rw [settleTrace, if_pos h, done]
      exact trace limit

/-- A tick behind which nothing is due. -/
theorem of_last_tick (h : isDue slot now t = true) (done : tick slot now t = .done t' ())
    (rests : ∀ other, isDue other now t' = false)
    (trace : InTurn t.simulation.line (n + 1) (tickTrace slot now t)) :
    CatchesUp slot now (n + 1) t := by
  refine of_tick h done (of_rests rests) fun limit => ?_
  rw [settleTrace_rests (rests slot), List.append_nil]
  exact trace

end CatchesUp

/-- A tick of the tracker, from that of its simulation. -/
theorem tick_of_done (now : α) {t : Tracker α} {s : Simulation α} {ended : Bool}
    (done : Simulation.tick slot t.simulation = .done s ended) :
    tick slot now t =
        (if ended then drain now (t.withSimulation s) else .done (t.withSimulation s) ()) ∧
      tickTrace slot now t = Simulation.tickTrace slot t.simulation ++
        if ended then drainTrace now (t.withSimulation s) else [] := by
  rw [tick, tickTrace, done]
  exact ⟨rfl, rfl⟩

/-- A tick that keeps the motion in flight, and what follows it. -/
theorem CatchesUp.of_goesOn {t : Tracker α} {n : Nat} {s : Simulation α}
    (h : isDue slot now t = true) (goesOn : Simulation.tick slot t.simulation = .done s false)
    (first : Simulation.tickTrace slot t.simulation = [.ticked t.simulation.line])
    (next : CatchesUp slot now n (t.withSimulation s)) : CatchesUp slot now (n + 1) t := by
  obtain ⟨ticked, trace⟩ := tick_of_done now goesOn
  have line := Simulation.line_tick slot t.simulation
  rw [goesOn] at line
  refine .of_tick h ticked next fun limit => ?_
  rw [trace, first, ← line]
  exact (next.trace limit).tick

/-! ## What begins is not due -/

section Clock
variable [ExactClock α]

/-- After a tick of the motion in flight nothing is due, if the next tick of it comes later. -/
theorem not_due_of_tick {s s' : Simulation α} (alone : Alone slot s) {f : Flight α}
    (taken : s.flight slot = some f) (later : seconds now < seconds f.dueAt + seconds s.tickInterval)
    (done : tickSlot slot s = .done s' ()) (other : Slot) : due other now s' = false := by
  have alone' := alone.tickSlot
  have ticked := Simulation.tick_ticked slot s
  rw [done] at alone'
  refine alone'.rests ?_ other
  rw [tickSlot] at done
  generalize Simulation.tick slot s = outcome at ticked done
  cases ticked with
  | empty none => cases none.symm.trans taken
  | cancelled _ _ =>
    cases done
    exact Simulation.due_setFlight s slot _ now
  | fault _ _ _ _ => cases done
  | goesOn a taken' _ _ _ =>
    cases done
    cases taken'.symm.trans taken
    have early : less now (f.dueAt + s.tickInterval) = true := by
      rw [less_iff, seconds_add]
      exact later
    refine (Simulation.due_setFlight _ slot _ now).trans ?_
    simp [early]
  | ends a _ _ _ _ =>
    cases done
    cases slot <;> rfl

/-- A motion that has just begun leaves nothing due. -/
theorem not_due_of_begun {s s' : Simulation α} (empty : ∀ slot, s.flight slot = none)
    (positive : 0 < seconds s.tickInterval) {motion : Motion α}
    (done : s.begin motion slot now = .done s' ()) (other : Slot) : due other now s' = false := by
  rw [Simulation.begin_eq] at done
  have taken := Simulation.flight_takeOff motion slot now s
  refine not_due_of_tick (.takeOff empty motion slot now) taken ?_ done other
  rw [Simulation.tickInterval, Simulation.tickMs_takeOff]
  show seconds now < seconds now + seconds s.tickInterval
  linarith

/-- A line that is handed over while nothing is in flight leaves nothing due. -/
theorem not_due_of_start {s s' : Simulation α} (placed : s.Placed) (still : s.inMotion = false)
    (positive : 0 < seconds s.tickInterval) {q : QueuedMotion α}
    (done : start now q s = .done s' ()) (other : Slot) : due other now s' = false := by
  have empty : ∀ slot, s.flight slot = none := placed.still still
  have none : ∀ s' : Simulation α, s'.flight other = s.flight other → due other now s' = false := by
    intro s' same
    rw [due, same, empty other]
  have noted : ∀ slot, Simulation.flight
      { s with machine := s.machine.note (.motionStarted q) } slot = s.flight slot := by
    intro slot
    cases slot <;> rfl
  rw [start_eq] at done
  dsimp only at done
  split at done
  · cases done
  · cases done
    exact none _ (noted other)
  next planned _ =>
    cases planned with
    | error refusal =>
      cases done
      have refused : ∀ s : Simulation α, (s.refuse refusal).flight other = s.flight other := by
        intro s
        rw [Simulation.refuse]
        split <;> cases other <;> rfl
      exact none _ ((refused _).trans (noted other))
    | ok motion =>
      have begun := (Step.mapResult_unit _ true).symm.trans done
      exact not_due_of_begun (fun slot => (noted slot).trans (empty slot)) positive begun other

theorem HandsOver.not_due {s s' : Simulation α} {started : List (QueuedMotion α)}
    (h : HandsOver now s started s') (placed : s.Placed) (positive : 0 < seconds s.tickInterval)
    (quiet : ∀ other, due other now s = false) (other : Slot) : due other now s' = false := by
  induction h with
  | nil s => exact quiet other
  | @cons s s₁ _ q _ still begun _ ih =>
    have placed' := start_placed placed still now q
    have played := start_played now q s
    rw [begun] at placed' played
    have interval : s₁.tickInterval = s.tickInterval := by
      rw [Simulation.tickInterval, Simulation.tickInterval]
      exact congrArg (· / _) played.tickMs
    refine ih placed' (by rwa [interval]) fun other => ?_
    exact not_due_of_start placed still positive begun other

theorem not_due_of_drain {t t' : Tracker α} (idle : t.draining = false)
    (placed : t.simulation.Placed) (positive : 0 < seconds t.simulation.tickInterval)
    (quiet : ∀ other, isDue other now t = false) (done : drain now t = .done t' ()) :
    ∀ other, isDue other now t' = false := by
  obtain ⟨started, -, handsOver, -⟩ := drain_handsOver idle done
  exact handsOver.not_due placed positive quiet

/-- Nothing is due in a slot alone, if the motion there is due later. -/
theorem not_due_of_later {s : Simulation α} (alone : Alone slot s)
    (later : ∀ f, s.flight slot = some f → seconds now < seconds f.dueAt) (other : Slot) :
    due other now s = false := by
  refine alone.rests ?_ other
  rw [due]
  cases taken : s.flight slot with
  | none => rfl
  | some f =>
    have early : less now f.dueAt = true := (less_iff _ _).2 (later f taken)
    simp [early]

/-- The tick that ends a motion lets the lines that wait begin. -/
theorem catchesUp_of_ended {n : Nat} {t : Tracker α} (poised : Poised False t)
    (positive : 0 < seconds t.simulation.tickInterval) (h : isDue slot now t = true)
    {s : Simulation α} (ended : Simulation.tick slot t.simulation = .done s true)
    (still : ∀ other, s.flight other = none)
    (first : Simulation.tickTrace slot t.simulation = [.ticked t.simulation.line]) :
    CatchesUp slot now (n + 1) t := by
  obtain ⟨ticked, trace⟩ := tick_of_done now ended
  have line := Simulation.line_tick slot t.simulation
  have interval := Simulation.tickInterval_tick slot t.simulation
  rw [if_pos rfl] at ticked trace
  rw [ended] at line interval
  have rests : ∀ other, isDue other now (t.withSimulation s) = false := by
    intro other
    show due other now s = false
    rw [due, still other]
  have inTurn : InTurn t.simulation.line (n + 1) (tickTrace slot now t) := by
    have started := drainTrace_inTurn now (t.withSimulation s)
    rw [trace, first, ← line]
    exact (started.mono (Nat.zero_le n)).tick
  rcases Step.done_or_stopped (drain now (t.withSimulation s)) with ⟨t', done⟩ | ⟨t', fault, stopped⟩
  · have placed : s.Placed := ⟨fun _ => still, .inl (still .work)⟩
    have positive' : 0 < seconds s.tickInterval := by
      rw [show s.tickInterval = _ from interval]
      exact positive
    have quiet := not_due_of_drain (t := t.withSimulation s) poised.idle placed positive' rests done
    exact .of_last_tick h (ticked.trans done) quiet inTurn
  · exact .of_stopped h (ticked.trans stopped) inTurn

omit [ExactClock α] in
/-- While simulation is off, a tick cancels the motion. -/
theorem catchesUp_of_off {n : Nat} {t : Tracker α} (alone : Alone slot t.simulation)
    (h : isDue slot now t = true) {f : Flight α} (taken : t.simulation.flight slot = some f)
    (off : t.simulation.enabled = false)
    (first : Simulation.tickTrace slot t.simulation = [.ticked t.simulation.line]) :
    CatchesUp slot now (n + 1) t := by
  have cancelled := Simulation.tick_off taken off
  have alone' := alone.tickSlot
  rw [tickSlot, cancelled] at alone'
  have rests := alone'.rests (Simulation.due_setFlight _ slot _ now)
  exact .of_goesOn h cancelled first (.of_rests rests)

omit [ExactClock α] in
/-- A tick that cannot be made stops the update. -/
theorem catchesUp_of_fault {n : Nat} {t : Tracker α} (h : isDue slot now t = true) {fault : Fault}
    (faults : Simulation.tick slot t.simulation = .stopped t.simulation fault)
    (first : Simulation.tickTrace slot t.simulation = [.ticked t.simulation.line]) :
    CatchesUp slot now (n + 1) t := by
  have stopped : tick slot now t = .stopped (t.withSimulation t.simulation) fault := by
    rw [tick, faults]
    rfl
  refine .of_stopped h stopped ?_
  rw [tickTrace, first, faults]
  exact (InTurn.nil _ n).tick

/-- A motion that is less than `n` intervals behind catches up within `n` ticks. -/
theorem catchesUp {n : Nat} {t : Tracker α} (poised : Poised False t)
    (alone : Alone slot t.simulation) (positive : 0 < seconds t.simulation.tickInterval)
    (behind : ∀ f, t.simulation.flight slot = some f →
      seconds now < seconds f.dueAt + n * seconds t.simulation.tickInterval) :
    CatchesUp slot now n t := by
  -- each tick that keeps the motion in flight takes it one interval ahead
  induction n generalizing t with
  | zero =>
    refine .of_rests (not_due_of_later alone fun f taken => ?_)
    simpa using behind f taken
  | succ n ih =>
    cases h : isDue slot now t with
    | false => exact .of_rests (alone.rests h)
    | true =>
      obtain ⟨f, taken⟩ : ∃ f, t.simulation.flight slot = some f := by
        cases taken : t.simulation.flight slot with
        | none => simp [isDue, due, taken] at h
        | some f => exact ⟨f, rfl⟩
      have first : Simulation.tickTrace slot t.simulation = [.ticked t.simulation.line] := by
        rw [Simulation.tickTrace, if_pos (by simp [taken])]
      cases on : t.simulation.enabled with
      | false => exact catchesUp_of_off alone h taken on first
      | true =>
        cases advance : f.motion.advance t.simulation.machine.position with
        | error fault => exact catchesUp_of_fault h (Simulation.tick_fault taken on advance) first
        | ok a =>
          cases goes : a.goesOn with
          | false =>
            have ended := Simulation.tick_ends taken on advance goes
            exact catchesUp_of_ended poised positive h ended (fun other => by cases other <;> rfl)
              first
          | true =>
            have goesOn := Simulation.tick_goesOn taken on advance goes
            have interval := Simulation.tickInterval_tick slot t.simulation
            have placed := poised.placed.tick slot
            have alone' := alone.tickSlot
            rw [tickSlot, goesOn] at alone'
            rw [goesOn] at interval placed
            refine .of_goesOn h goesOn first (ih ⟨placed, poised.idle, False.elim⟩ alone' ?_ ?_)
            · exact interval.symm ▸ positive
            · intro g taken'
              have late := behind f taken
              cases (Simulation.flight_setFlight_self _ _ _).symm.trans taken'
              refine lt_of_lt_of_eq late ?_
              rw [show (withSimulation t _).simulation.tickInterval = _ from interval, seconds_add]
              push_cast
              ring

/-! ## The whole update -/

/-- How many ticks of a slot are due at a time. -/
noncomputable def overdue (slot : Slot) (now : α) (s : Simulation α) : Nat :=
  match s.flight slot with
  | none => 0
  | some f => (⌊(seconds now - seconds f.dueAt) / seconds s.tickInterval⌋ + 1).toNat

theorem overdue_le_tickAllowance (slot : Slot) (now : α) (s : Simulation α) :
    overdue slot now s ≤ s.tickAllowance slot now := by
  rw [overdue, Simulation.tickAllowance]
  cases s.flight slot with
  | none => exact le_rfl
  | some f =>
    have reserve : 1 ≤ Simulation.tickReserve := by decide
    dsimp only
    rw [wholePart_eq, seconds_div, seconds_sub, ← Int.floor_toNat]
    omega

theorem lt_overdue {s : Simulation α} (positive : 0 < seconds s.tickInterval) {f : Flight α}
    (taken : s.flight slot = some f) :
    seconds now < seconds f.dueAt + overdue slot now s * seconds s.tickInterval := by
  rw [overdue, taken]
  dsimp only
  generalize late : (seconds now - seconds f.dueAt) / seconds s.tickInterval = x
  have below : x < ((⌊x⌋ + 1).toNat : ℝ) := by
    have int : ⌊x⌋ + 1 ≤ ((⌊x⌋ + 1).toNat : ℤ) := Int.self_le_toNat _
    have real : ((⌊x⌋ + 1 : ℤ) : ℝ) ≤ ((⌊x⌋ + 1).toNat : ℝ) := by exact_mod_cast int
    have floor := Int.lt_floor_add_one x
    push_cast at real
    linarith
  rw [← late, div_lt_iff₀ positive] at below
  rw [← late]
  linarith

omit [ExactClock α] in
/-- Where the loop over the slot that is taken catches up, so does the update. -/
theorem CatchesUp.update {t : Tracker α} {n : Nat} (h : CatchesUp slot now n t)
    (alone : Alone slot t.simulation) (allowed : n ≤ t.simulation.tickAllowance slot now) :
    Finishes now t ∧ InTurn t.simulation.line n (updateTrace now t) := by
  have trace : InTurn t.simulation.line n (settleSlotTrace slot now t) := h.trace _
  have settled : t.settleSlot slot now = settle (isDue slot now) (tick slot now) n t :=
    settle_of_endsWithin allowed h.ends
  cases slot with
  | work =>
    have behind : ∀ t', t.settleSlot .work now = .done t' () → isDue .jog now t' = false :=
      fun t' done => h.quiet t' (settled.symm.trans done) .jog
    refine ⟨⟨endsWithin_mono allowed h.ends, fun t' done => endsWithin_rests (behind t' done) _⟩, ?_⟩
    rw [updateTrace]
    rcases Step.done_or_stopped (t.settleSlot .work now) with ⟨t', done⟩ | ⟨t', fault, stopped⟩
    · have nothing : settleSlotTrace .jog now t' = [] := settleTrace_rests (behind t' done) _ _ _
      rw [done, Step.traced, Step.done, nothing, List.append_nil]
      exact trace
    · rw [stopped, Step.traced, Step.stopped, List.append_nil]
      exact trace
  | jog =>
    have rests : isDue .work now t = false := alone.not_due (by decide) now
    have first : t.settleSlot .work now = .done t () := settle_rests rests _
    refine ⟨⟨endsWithin_rests rests _, fun t' done => ?_⟩, ?_⟩
    · cases first.symm.trans done
      exact endsWithin_mono allowed h.ends
    · rw [updateTrace, first, settleSlotTrace, settleTrace_rests rests]
      exact trace

/-- With an exact clock, an update of a tracker that can be reached ends of itself, and does what its
trace says.  The motion that was in flight gets as many ticks as are due of it, at most; every motion
that begins in the update gets one; and these are all its ticks. -/
theorem update_catches_up {t : Tracker α} (reached : Reached t) (now : α)
    (positive : 0 < seconds t.simulation.tickInterval) :
    Finishes now t ∧
      Unfolds now t.simulation (t.updateTrace now) (t.update now).state.simulation ∧
      (∀ slot f, t.simulation.flight slot = some f →
        ((t.updateTrace now).count (.ticked t.simulation.line) : ℤ) ≤
          max 0 (⌊(seconds now - seconds f.dueAt) / seconds t.simulation.tickInterval⌋ + 1)) ∧
      (∀ line, .begun line ∈ t.updateTrace now →
        t.simulation.line < line ∧ (t.updateTrace now).count (.ticked line) = 1) ∧
      ∀ line, .ticked line ∈ t.updateTrace now →
        line = t.simulation.line ∨ .begun line ∈ t.updateTrace now := by
  obtain ⟨_, poised⟩ := reached.poised
  obtain ⟨slot, alone⟩ := poised.placed.exists_alone
  have catchesUp : CatchesUp slot now (overdue slot now t.simulation) t :=
    catchesUp (poised.imp False.elim) alone positive fun f taken => lt_overdue positive taken
  obtain ⟨finishes, inTurn⟩ := catchesUp.update alone (overdue_le_tickAllowance slot now _)
  refine ⟨finishes, update_unfolds now t, fun other f taken => ?_, fun line => inTurn.count_begun,
    fun line => inTurn.ticked⟩
  obtain rfl : other = slot := by
    by_contra different
    cases (alone other different).symm.trans taken
  have count := inTurn.count_le
  rw [overdue, taken] at count
  exact (Int.ofNat_le.2 count).trans (by rw [Int.ofNat_toNat, max_comm])

end Clock

/-- A line of twenty steps is in flight, 39 intervals behind, and another one waits. -/
theorem update_catches_up_with_one_waiting :
    let ahead := Bytes.ofText "X3 Y4 Z0 F600\n"
    let back := Bytes.ofText "X0 Y0 Z0 F600\n"
    let t : Tracker ℝ := (fresh true).after [.register 0 ahead, .register 0 back]
    (∃ f, t.simulation.work = some f ∧ f.dueAt = 1 / 40) ∧ t.queue.length = 1 ∧ Finishes 1 t ∧
      (t.updateTrace 1).count (.ticked t.simulation.line) ≤ 40 ∧
      ∀ line, .begun line ∈ t.updateTrace 1 → (t.updateTrace 1).count (.ticked line) = 1 := by
  intro ahead back t
  let t₀ : Tracker ℝ := fresh true
  have plain : Plain ahead _ 600 ⟨3, 4, 0⟩ :=
    .of_read (a := .decimal false 3 0) (b := .decimal false 4 0) (c := .decimal false 0 0)
      (d := .decimal false 600 0) (by decide +kernel) (by decide +kernel) (by decide +kernel)
      (by norm_num [Numeral.toReal]) (by norm_num) (by norm_num [Numeral.toReal])
  have plain' : Plain back _ 600 ⟨0, 0, 0⟩ :=
    .of_read (a := .decimal false 0 0) (b := .decimal false 0 0) (c := .decimal false 0 0)
      (d := .decimal false 600 0) (by decide +kernel) (by decide +kernel) (by decide +kernel)
      (by norm_num [Numeral.toReal]) (by norm_num) (by norm_num [Numeral.toReal])
  -- the first line takes off
  have reached₀ : Reached t₀ := .fresh true
  obtain ⟨q, moves, aims, feed⟩ := plain.aims (t := t₀) rfl rfl rfl
  have tickMs : t₀.simulation.tickMs = 25 := reached₀.tickMs_eq
  have length : ((⟨3, 4, 0⟩ : Position ℝ).sub t₀.machine.position).length = 5 := by
    show √((3 - nat 0) * (3 - nat 0) + (4 - nat 0) * (4 - nat 0) + (0 - nat 0) * (0 - nat 0) : ℝ) = 5
    rw [nat_real, Real.sqrt_eq_iff_mul_self_eq_of_pos (by norm_num)]
    norm_num
  have long : 2 * stepLength q.feed t₀.simulation.tickMs <
      ((⟨3, 4, 0⟩ : Position ℝ).sub t₀.machine.position).length := by
    rw [length, feed, tickMs, stepLength, nat_real]
    norm_num
  obtain ⟨empty₁, onCourse⟩ := register_long reached₀ rfl rfl rfl moves aims long 0
  -- the second one waits
  have reached₁ : Reached (t₀.register 0 ahead).state := reached₀.event (.register 0 ahead)
  have modes₁ : (t₀.register 0 ahead).state.machine.modes = {} := plain.modes_register 0 t₀
  obtain ⟨q₁, moves₁, -⟩ := plain'.aims onCourse.enabled (modes₁ ▸ rfl) (modes₁ ▸ rfl)
  obtain ⟨simulation, queue⟩ := register_waits reached₁ onCourse.inMotion moves₁ 0
  have reached : Reached t := reached₁.event (.register 0 back)
  have interval : t.simulation.tickInterval = 1 / 40 := by
    rw [Simulation.tickInterval, reached.tickMs_eq, nat_real]
    norm_num
  have flight : t.simulation.flight .work = (t₀.register 0 ahead).state.simulation.flight .work := by
    show (Tracker.register 0 back (t₀.register 0 ahead).state).state.simulation.flight .work = _
    rw [simulation, (noted_noted back _).simulation]
    rfl
  have taken : ∃ f, t.simulation.flight .work = some f ∧ f.dueAt = 1 / 40 := by
    refine ⟨_, flight.trans onCourse.flight, ?_⟩
    rw [Simulation.tickInterval, tickMs, nat_real]
    norm_num
  have positive : 0 < seconds t.simulation.tickInterval := by
    show (0 : ℝ) < t.simulation.tickInterval
    rw [interval]
    norm_num
  obtain ⟨finishes, -, few, once, -⟩ := update_catches_up reached 1 positive
  refine ⟨taken, ?_, finishes, ?_, fun line begun => (once line begun).2⟩
  · show (Tracker.register 0 back (t₀.register 0 ahead).state).state.queue.length = 1
    rw [queue, empty₁]
    rfl
  · obtain ⟨f, flies, dueAt⟩ := taken
    have count := few .work f flies
    have behind : ⌊(seconds (1 : ℝ) - seconds f.dueAt) / seconds t.simulation.tickInterval⌋ = 39 := by
      show ⌊((1 : ℝ) - f.dueAt) / t.simulation.tickInterval⌋ = 39
      rw [dueAt, interval]
      norm_num
    rw [behind] at count
    omega

end Tracker

end GcodeSender
