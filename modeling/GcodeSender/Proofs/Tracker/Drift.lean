/-
# `GcodeSender.Proofs.Tracker.Drift` — absolute moves do not drift

Each straight motion stops short of its target, and the next one is planned from
where it stopped.  If that one names all three axes, absolutely, it makes up for
what the motion before it left; so after any number of such moves the machine is
within one step of the last target (`absolute_moves_do_not_drift`), whatever the
times at which lines were sent and the clock was read.

    Aims q p     the line asks for a straight move to the point `p`
    Homing n s   if such a line was handed over last, behind the first `n`, it
                 was brought to its target, but for a step, or it is on course

`Homing` is kept by every tick and every start (`kept_homing`), so by every
event that neither writes the position nor turns simulation off.  It says
nothing about the lines before the last one: they only settle from where the
last one takes off.
-/
import GcodeSender.Proofs.Motion.Straight
import GcodeSender.Proofs.Tracker.Keeping
import GcodeSender.Proofs.Tracker.Order
import GcodeSender.Proofs.Tracker.Prevailing
import GcodeSender.Proofs.Tracker.Reports

namespace GcodeSender

open Scalar Gcode

/-- A line that asks for a straight move to a point, all axes named, at a feed above zero. -/
structure QueuedMotion.Aims (q : QueuedMotion ℝ) (p : Position ℝ) : Prop where
  work : q.isJog = false
  absolute : q.modes.distance = .absolute
  linear : q.modes.motion = .linear
  feed : 0 < q.feed
  target : (Move.ofWords q.words : Move ℝ).target = .ofPosition p

namespace Simulation

open QueuedMotion (Aims)

/-- A straight motion to a point is in the slot for work, no farther along than the point is. -/
def Heads (σ : ℝ) (p : Position ℝ) (s : Simulation ℝ) : Prop :=
  ∃ start delta x dueAt, start.add delta = p ∧ 0 < delta.length ∧ 0 ≤ x ∧ x ≤ delta.length ∧
    OnCourse .work start delta σ x dueAt s

/-- Nothing is in flight, and the machine is within a step of a point. -/
def Rests (σ : ℝ) (p : Position ℝ) (s : Simulation ℝ) : Prop :=
  s.inMotion = false ∧ (s.machine.position.sub p).length ≤ σ

variable {σ : ℝ} {p : Position ℝ} {s : Simulation ℝ}

theorem Arrived.rests {start delta : Position ℝ} {x : ℝ} (h : Arrived start delta x s)
    (goal : start.add delta = p) (far : 0 < delta.length) (near : delta.length - σ ≤ x)
    (near' : x ≤ delta.length + σ) : Rests σ p s := by
  refine ⟨h.inMotion, ?_⟩
  rw [h.position, ← goal, length_pointAt_sub_end far.ne', abs_le]
  constructor <;> linarith

/-- A tick of a motion that heads for a point: it heads there still, or has come there. -/
theorem Heads.tick (h : Heads σ p s) (step : 0 < σ) :
    Heads σ p (tickSlot .work s).state ∨ Rests σ p (tickSlot .work s).state := by
  obtain ⟨start, delta, x, dueAt, rfl, far, ahead, within, onCourse⟩ := h
  rcases lt_or_ge (x + 2 * σ) delta.length with short | near
  · obtain ⟨s', ticked, -, onCourse'⟩ := onCourse.goesOn step ahead short
    rw [ticked]
    exact .inl ⟨start, delta, x + σ, _, rfl, far, by linarith, by linarith, onCourse'⟩
  · obtain ⟨s', ticked, arrived⟩ := onCourse.ends far step ahead near
    rw [ticked]
    exact .inr (arrived.rests rfl far (by linarith) (by linarith))

/-- The line handed over last, if it is behind the first `n` and asks for a move to a point, heads
for it or has come there. -/
structure Homing (n : ℕ) (s : Simulation ℝ) : Prop where
  behind : n ≤ s.machine.starts.length
  placed : s.Placed
  enabled : s.enabled = true
  tickMs : 0 < s.tickMs
  last : n < s.machine.starts.length → ∀ q p, s.machine.starts.getLast? = some q → q.Aims p →
    Heads (stepLength q.feed s.tickMs) p s ∨ Rests (stepLength q.feed s.tickMs) p s

namespace Homing

variable {n : ℕ}

/-- Where no line was handed over since, there is nothing to heed. -/
theorem at_first (placed : s.Placed) (on : s.enabled = true) (tick : 0 < s.tickMs) :
    Homing s.machine.starts.length s :=
  ⟨le_rfl, placed, on, tick, fun more => absurd more (lt_irrefl _)⟩

/-- Neither on the way nor at rest is there a jog. -/
theorem noJog (h : Homing n s) (more : n < s.machine.starts.length) {q : QueuedMotion ℝ}
    (last : s.machine.starts.getLast? = some q) (aims : q.Aims p) : s.jog = none := by
  rcases h.last more q p last aims with ⟨_, _, _, _, -, -, -, -, onCourse⟩ | rests
  · exact h.placed.alone onCourse.flight .jog nofun
  · exact h.placed.still rests.1 .jog

theorem withMachine (h : Homing n s) {m : Machine ℝ} (starts : m.starts = s.machine.starts)
    (position : m.position = s.machine.position) : Homing n { s with machine := m } where
  behind := starts ▸ h.behind
  placed := h.placed.withMachine m
  enabled := h.enabled
  tickMs := h.tickMs
  last more q p last aims := by
    rw [starts] at more last
    rcases h.last more q p last aims with
      ⟨start, delta, x, dueAt, goal, far, ahead, within, onCourse⟩ | ⟨still, near⟩
    · have onCourse' : OnCourse .work start delta (stepLength q.feed s.tickMs) x dueAt
          { s with machine := m } :=
        ⟨onCourse.enabled, onCourse.inMotion, onCourse.flight, position.trans onCourse.position⟩
      exact .inl ⟨start, delta, x, dueAt, goal, far, ahead, within, onCourse'⟩
    · exact .inr ⟨still, by rw [position]; exact near⟩

/-- A jog that is stopped was not that line's. -/
theorem stopJog (h : Homing n s) (active : s.jogActive = true) :
    Homing n { s with inMotion := false, jog := none } where
  behind := h.behind
  placed := h.placed.stopJog active
  enabled := h.enabled
  tickMs := h.tickMs
  last more q p last aims := by
    have noJog : s.jog = none := h.noJog more last aims
    simp [jogActive, noJog] at active

theorem tick (h : Homing n s) (slot : Slot) : Homing n (tick slot s).state := by
  have played := Played.tick slot s
  have starts : (Simulation.tick slot s).state.machine.starts = s.machine.starts := by
    rw [played.machine.starts, List.append_nil]
  refine ⟨starts ▸ h.behind, h.placed.tick slot, played.enabled.trans h.enabled, ?_,
    fun more q p last aims => ?_⟩
  · rw [played.tickMs]
    exact h.tickMs
  · rw [starts] at more last
    rw [played.tickMs]
    have homing := h.last more q p last aims
    cases slot with
    | work =>
      rcases homing with heads | rests
      · exact heads.tick (stepLength_pos aims.feed h.tickMs)
      · rw [tick_empty (h.placed.still rests.1 .work)]
        exact .inr rests
    | jog =>
      have noJog : s.flight .jog = none := h.noJog more last aims
      rw [tick_empty noJog]
      exact homing

end Homing

/-- What a line that asks for a straight move is planned as: nothing where the machine is there
already, else the motion along the rest of the way. -/
theorem plan_of_aims {q : QueuedMotion ℝ} (aims : q.Aims p) (position : Position ℝ) {tickMs : ℝ}
    (tick : 0 < tickMs) :
    ((p.sub position).length = 0 ∧ q.plan position tickMs = .ok (some (.error .noLength))) ∨
      (0 < (p.sub position).length ∧ q.plan position tickMs =
        .ok (some (.ok (.linear (.along position (p.sub position) (stepLength q.feed tickMs)))))) := by
  have straight : q.plan position tickMs = .ok (some
      ((GcodeSender.planLinear position (.ofPosition p) .absolute q.feed tickMs).map Motion.linear)) := by
    rw [QueuedMotion.plan, if_neg (by simp [aims.work]), aims.linear, aims.absolute, aims.target]
  have delta : displacement position (.ofPosition p) .absolute = p.sub position := rfl
  rcases (p.sub position).length_nonneg.eq_or_lt with none | far
  · left
    refine ⟨none.symm, ?_⟩
    rw [straight, GcodeSender.planLinear, delta, if_pos (by simp [← none])]
    rfl
  · right
    refine ⟨far, ?_⟩
    rw [straight, planLinear_along (by rw [delta]; exact far.ne') aims.feed tick, delta]
    rfl

/-- Such a line, handed over: the machine is there already, or the motion has its first tick, with
the whole way before it. -/
theorem start_aims (on : s.enabled = true) (still : s.inMotion = false) (tick : 0 < s.tickMs)
    {q : QueuedMotion ℝ} (aims : q.Aims p) (now : ℝ) :
    ((p.sub s.machine.position).length = 0 ∧
      ∃ s', Tracker.start now q s = .done s' () ∧ Rests (stepLength q.feed s.tickMs) p s') ∨
      ∃ s', Tracker.start now q s = tickSlot .work s' ∧ s'.tickMs = s.tickMs ∧
        0 < (p.sub s.machine.position).length ∧
        OnCourse .work s.machine.position (p.sub s.machine.position) (stepLength q.feed s.tickMs) 0
          now s' := by
  rw [Tracker.start_eq]
  rcases plan_of_aims aims s.machine.position tick with ⟨none, plan⟩ | ⟨far, plan⟩
  · left
    rw [plan]
    refine ⟨none, _, rfl, still, ?_⟩
    show (s.machine.position.sub p).length ≤ _
    rw [Position.length_sub_comm, none]
    exact (stepLength_pos aims.feed tick).le
  · right
    have slot : q.slot = .work := by rw [QueuedMotion.slot, if_neg (by simp [aims.work])]
    have takesOff := OnCourse.takeOff (s := { s with machine := s.machine.note (.motionStarted q) })
      on (p.sub s.machine.position) (stepLength q.feed s.tickMs) .work now
    rw [plan, slot]
    exact ⟨_, Step.mapResult_unit _ true, rfl, far, takesOff⟩

/-- A move of two steps at most is made at once. -/
theorem start_short (on : s.enabled = true) (still : s.inMotion = false) (tick : 0 < s.tickMs)
    {q : QueuedMotion ℝ} (aims : q.Aims p)
    (short : (p.sub s.machine.position).length ≤ 2 * stepLength q.feed s.tickMs) (now : ℝ) :
    ∃ s', Tracker.start now q s = .done s' () ∧ Rests (stepLength q.feed s.tickMs) p s' := by
  rcases start_aims on still tick aims now with ⟨-, rests⟩ | ⟨s', started, -, far, onCourse⟩
  · exact rests
  · have step := stepLength_pos aims.feed tick
    obtain ⟨s'', ticked, arrived⟩ := onCourse.ends far step le_rfl (by linarith)
    refine ⟨s'', started.trans ticked, arrived.rests (Position.add_sub_cancel _ _) far ?_ ?_⟩
    all_goals linarith

/-- A longer one stays in flight, one step ahead. -/
theorem start_long (on : s.enabled = true) (still : s.inMotion = false) (tick : 0 < s.tickMs)
    {q : QueuedMotion ℝ} (aims : q.Aims p)
    (long : 2 * stepLength q.feed s.tickMs < (p.sub s.machine.position).length) (now : ℝ) :
    ∃ s', Tracker.start now q s = .done s' () ∧
      OnCourse .work s.machine.position (p.sub s.machine.position) (stepLength q.feed s.tickMs)
        (stepLength q.feed s.tickMs) (now + s.tickInterval) s' := by
  have step := stepLength_pos aims.feed tick
  rcases start_aims on still tick aims now with ⟨none, -⟩ | ⟨s', started, tickMs, -, onCourse⟩
  · linarith
  · obtain ⟨s'', ticked, -, next⟩ := onCourse.goesOn step le_rfl (by linarith)
    rw [zero_add, tickInterval, tickMs] at next
    exact ⟨s'', started.trans ticked, next⟩

theorem Homing.start {n : ℕ} (h : Homing n s) (still : s.inMotion = false) (now : ℝ)
    (q : QueuedMotion ℝ) : Homing n (Tracker.start now q s).state := by
  have played := Tracker.start_played now q s
  refine ⟨?_, Tracker.start_placed h.placed still now q, played.enabled.trans h.enabled, ?_,
    fun _ q' p last aims => ?_⟩
  · rw [played.machine.starts, List.length_append]
    exact h.behind.trans (Nat.le_add_right _ _)
  · rw [played.tickMs]
    exact h.tickMs
  · obtain rfl : q = q' := by
      rw [played.machine.starts, List.getLast?_concat] at last
      exact Option.some.inj last
    rw [played.tickMs]
    rcases start_aims h.enabled still h.tickMs aims now with
      ⟨-, s', started, rests⟩ | ⟨s', started, -, far, onCourse⟩
    · rw [started]
      exact .inr rests
    · rw [started]
      refine Heads.tick ?_ (stepLength_pos aims.feed h.tickMs)
      exact ⟨_, _, 0, now, Position.add_sub_cancel _ _, far, le_rfl, far.le, onCourse⟩

theorem kept_homing (n : ℕ) : Kept (Homing n) where
  tick slot _ h := h.tick slot
  start now q _ still h := h.start still now q

end Simulation

namespace Tracker

open Simulation (Homing OnCourse Rests kept_homing)

/-- An event that neither writes the position nor turns simulation on or off. -/
def Event.Quiet : Event ℝ → Prop
  | .receive message => message.trim.startsWith [0x3C] = true → ¬ Report.HasReport message.trim
  | .toggle => False
  | .register _ _ | .update _ => True

variable {n : ℕ} {t : Tracker ℝ}

theorem Reached.tickMs_eq (h : Reached t) : t.simulation.tickMs = 25 := by
  rw [h.traced.tickMs, defaultTickMs, nat_real]
  norm_num

theorem Reached.tickMs_pos (h : Reached t) : 0 < t.simulation.tickMs := by
  rw [h.tickMs_eq]
  norm_num

theorem position_receive_of_quiet {message : Bytes} (quiet : Event.Quiet (.receive message))
    (t : Tracker ℝ) : (t.receive message).machine.position = t.machine.position := by
  cases kind : isAnswer message.trim with
  | true => exact (receive_answer_machine t kind).2
  | false => exact (receive_ignored kind quiet t).position

theorem homing_register (h : Homing n t.simulation) (now : ℝ) (command : Bytes) :
    Homing n (t.register now command).state.simulation := by
  have registered := register_registered now command t
  have noted := noted_noted command t
  have counted : Homing n (t.noted command).simulation := by
    rw [noted.simulation]
    exact h.withMachine noted.starts noted.position
  generalize t.register now command = outcome at registered ⊢
  cases registered with
  | counted r _ _ _ => exact counted
  | moves q _ _ =>
    exact (kept_homing n).drain now
      (t := { t.noted command with queue := (t.noted command).queue ++ [q] }) counted
  | cancels _ _ =>
    show Homing n (t.cancelJogs now).state.simulation
    rw [cancelJogs_eq]
    dsimp only
    split
    next active =>
      exact (kept_homing n).drain now ((h.stopJog active).withMachine (Machine.starts_logText _ _ _) rfl)
    next => exact h

theorem homing_apply (h : Homing n t.simulation) {e : Event ℝ} (quiet : e.Quiet) :
    Homing n (e.apply t).state.simulation := by
  cases e with
  | register now command => exact homing_register h now command
  | receive message =>
    have heard := receive_heard message t
    show Homing n (t.receive message).simulation
    rw [heard.simulation]
    exact h.withMachine heard.machine.starts (position_receive_of_quiet quiet t)
  | update now => exact (kept_homing n).update now h
  | toggle => exact quiet.elim

variable {q : QueuedMotion ℝ}

/-! ## Lines sent while nothing is in flight -/

/-- A standard line that names all three axes, sets a feed above zero and selects no mode. -/
structure Plain (command : Bytes) (words : List Word) (feed : ℝ) (p : Position ℝ) : Prop where
  standard : isSystem command = false
  ordinary : isRealtime command = false
  read : parseLine command = .ok (.ok words)
  axes : hasAxisWords words = true
  modeless : words.filterMap (Word.mode? ℝ) = []
  fed : (words.filterMap Word.feed?).getLast? = some feed
  positive : 0 < feed
  target : (Move.ofWords words : Move ℝ).target = .ofPosition p

namespace Plain

variable {command : Bytes} {words : List Word} {feed : ℝ} {p : Position ℝ}

/-- A line of three axis words and a feed word. -/
theorem of_read {a b c d : Numeral} (standard : isSystem command = false)
    (ordinary : isRealtime command = false)
    (read : parseLine command = .ok (.ok [⟨.x, 'X', a⟩, ⟨.y, 'Y', b⟩, ⟨.z, 'Z', c⟩, ⟨.f, 'F', d⟩]))
    (fed : d.toReal = feed) (positive : 0 < feed)
    (target : (⟨a.toReal, b.toReal, c.toReal⟩ : Position ℝ) = p) :
    Plain command [⟨.x, 'X', a⟩, ⟨.y, 'Y', b⟩, ⟨.z, 'Z', c⟩, ⟨.f, 'F', d⟩] feed p where
  standard := standard
  ordinary := ordinary
  read := read
  axes := rfl
  modeless := rfl
  fed := congrArg some fed
  positive := positive
  target := by
    rw [← target]
    rfl

/-- Where distances are absolute and motions straight, it asks for a straight move. -/
theorem aims (h : Plain command words feed p) (on : t.simulates = true)
    (absolute : t.machine.modes.distance = .absolute) (linear : t.machine.modes.motion = .linear) :
    ∃ q, t.entryFor? command = some q ∧ q.Aims p ∧ q.feed = feed := by
  have heeds := applyWords_heeds words t.machine
  have modes : (applyWords words t.machine).1.modes = t.machine.modes := by
    rw [heeds.modes, h.modeless]
    rfl
  have sets : (applyWords words t.machine).1.feedRate = feed := by
    rw [Machine.feedRate, heeds.feed, h.fed]
    rfl
  have jog : isJog command = false := by
    cases jog : isJog command with
    | false => rfl
    | true => exact absurd (isSystem_of_isJog jog) (by simp [h.standard])
  refine ⟨⟨command, words, (applyWords words t.machine).1.modes,
    (applyWords words t.machine).1.feedRate⟩, ?_, ⟨jog, ?_, ?_, ?_, h.target⟩, sets⟩
  · simp [entryFor?, on, h.ordinary, jog, h.standard, h.read, h.axes]
  · rw [modes, absolute]
  · rw [modes, linear]
  · exact sets.symm ▸ h.positive

theorem modes_register (h : Plain command words feed p) (now : ℝ) (t : Tracker ℝ) :
    (t.register now command).state.machine.modes = t.machine.modes := by
  have heeds := apply_heeds (.register now command) t
  have taken : Event.words (.register now command) = words := by
    simp [Event.words, standardWords, h.standard, h.ordinary, h.read]
  rw [taken] at heeds
  exact heeds.modes.trans (by rw [h.modeless]; rfl)

end Plain

/-- A line that is sent while nothing is in flight or waits is handed over at once. -/
theorem register_starts (reached : Reached t) (still : t.inMotion = false) (empty : t.queue = [])
    {command : Bytes} (moves : t.entryFor? command = some q) {now : ℝ} {s : Simulation ℝ}
    (started : start now q (t.noted command).simulation = .done s ()) :
    (t.register now command).state.simulation = s ∧ (t.register now command).state.queue = [] := by
  obtain ⟨_, poised⟩ := reached.poised
  have registered := register_registered now command t
  have noted := noted_noted command t
  generalize t.register now command = outcome at registered ⊢
  cases registered with
  | counted r _ none _ => cases none.symm.trans moves
  | cancels _ none => cases none.symm.trans moves
  | moves q' _ moves' =>
    cases moves'.symm.trans moves
    have waiting : (t.noted command).queue ++ [q] = [q] := by rw [noted.queue, empty, List.nil_append]
    have idle : (t.noted command).draining = false := noted.draining.trans poised.idle
    have first : (t.noted command).simulation.inMotion = false := by
      rw [noted.simulation]
      exact still
    have drained : startWaiting now ((t.noted command).queue ++ [q]) (t.noted command).simulation =
        .done (s, []) () := by
      rw [waiting, startWaiting, if_neg (by simp [first]), started]
      rfl
    show (enqueue now q (t.noted command)).state.simulation = s ∧
      (enqueue now q (t.noted command)).state.queue = []
    rw [enqueue, drain, if_neg (by simp [idle])]
    dsimp only
    rw [drained]
    exact ⟨rfl, rfl⟩

/-- A line that is sent while one is in flight waits behind it. -/
theorem register_waits (reached : Reached t) (flying : t.inMotion = true) {command : Bytes}
    (moves : t.entryFor? command = some q) (now : ℝ) :
    (t.register now command).state.simulation = (t.noted command).simulation ∧
      (t.register now command).state.queue = t.queue ++ [q] := by
  obtain ⟨_, poised⟩ := reached.poised
  have registered := register_registered now command t
  have noted := noted_noted command t
  generalize t.register now command = outcome at registered ⊢
  cases registered with
  | counted r _ none _ => cases none.symm.trans moves
  | cancels _ none => cases none.symm.trans moves
  | moves q' _ moves' =>
    cases moves'.symm.trans moves
    have idle : (t.noted command).draining = false := noted.draining.trans poised.idle
    have first : (t.noted command).simulation.inMotion = true := by
      rw [noted.simulation]
      exact flying
    have waits : ∀ queue, startWaiting now queue (t.noted command).simulation =
        .done ((t.noted command).simulation, queue) () := by
      rintro (_ | ⟨q, rest⟩)
      · rfl
      · rw [startWaiting, if_pos first]
    show (enqueue now q (t.noted command)).state.simulation = _ ∧
      (enqueue now q (t.noted command)).state.queue = _
    rw [enqueue, drain, if_neg (by simp [idle])]
    dsimp only
    rw [waits, ← noted.queue]
    exact ⟨rfl, rfl⟩

section
variable (reached : Reached t) (on : t.simulates = true) (still : t.inMotion = false)
  (empty : t.queue = []) {command : Bytes} {p : Position ℝ} (moves : t.entryFor? command = some q)
  (aims : q.Aims p)
include reached on still empty moves aims

/-- A short move is over when its line has been registered. -/
theorem register_short
    (short : (p.sub t.machine.position).length ≤ 2 * stepLength q.feed t.simulation.tickMs)
    (now : ℝ) :
    (t.register now command).state.queue = [] ∧
      Rests (stepLength q.feed t.simulation.tickMs) p (t.register now command).state.simulation := by
  have noted := noted_noted command t
  have same := noted.simulation
  rw [← noted.position] at short
  obtain ⟨s, started, rests⟩ := Simulation.start_short (s := (t.noted command).simulation)
    (by rw [same]; exact on) (by rw [same]; exact still) (by rw [same]; exact reached.tickMs_pos)
    aims (by rw [same]; exact short) now
  obtain ⟨simulation, queue⟩ := register_starts reached still empty moves started
  rw [same] at rests
  exact ⟨queue, simulation.symm ▸ rests⟩

/-- A longer one is in flight then. -/
theorem register_long
    (long : 2 * stepLength q.feed t.simulation.tickMs < (p.sub t.machine.position).length)
    (now : ℝ) :
    (t.register now command).state.queue = [] ∧
      OnCourse .work t.machine.position (p.sub t.machine.position)
        (stepLength q.feed t.simulation.tickMs) (stepLength q.feed t.simulation.tickMs)
        (now + t.simulation.tickInterval) (t.register now command).state.simulation := by
  have noted := noted_noted command t
  have same := noted.simulation
  have position := noted.position
  rw [← position] at long
  obtain ⟨s, started, onCourse⟩ := Simulation.start_long (s := (t.noted command).simulation)
    (by rw [same]; exact on) (by rw [same]; exact still) (by rw [same]; exact reached.tickMs_pos)
    aims (by rw [same]; exact long) now
  obtain ⟨simulation, queue⟩ := register_starts reached still empty moves started
  rw [show (t.noted command).simulation.machine.position = _ from position, same] at onCourse
  exact ⟨queue, simulation.symm ▸ onCourse⟩

end

/-! ## The line sent last -/

/-- The line sent last stands at the end of those handed over and those that wait, behind the first
`n` that were handed over. -/
def EndsWith (n : ℕ) (q : QueuedMotion ℝ) (t : Tracker ℝ) : Prop :=
  ∃ before, t.machine.starts ++ t.queue = before ++ [q] ∧ n ≤ before.length

theorem endsWith_of_joined (behind : n ≤ t.machine.starts.length) {e : Event ℝ}
    (joined : e.joined t = some q) : EndsWith n q (e.apply t).state := by
  refine ⟨t.machine.starts ++ e.kept t, ?_, ?_⟩
  · rw [apply_starts, joined]
    rfl
  · rw [List.length_append]
    exact behind.trans (Nat.le_add_right _ _)

/-- A line at the end of the queue stays there, unless it is a jog. -/
theorem kept_concat {e : Event ℝ} (quiet : e.Quiet) (work : q.isJog = false)
    {ahead : List (QueuedMotion ℝ)} (queue : t.queue = ahead ++ [q]) :
    ∃ left, e.kept t = left ++ [q] := by
  cases e with
  | register now command =>
    rw [Event.kept, queue]
    split
    · exact ⟨ahead.filter (!·.isJog), by rw [List.filter_append]; simp [work]⟩
    · exact ⟨ahead, rfl⟩
  | receive message => exact ⟨ahead, queue⟩
  | update now => exact ⟨ahead, queue⟩
  | toggle => exact quiet.elim

theorem endsWith_of_kept (behind : n ≤ t.machine.starts.length) {e : Event ℝ} (quiet : e.Quiet)
    (work : q.isJog = false) (joined : e.joined t = none) (h : EndsWith n q t) :
    EndsWith n q (e.apply t).state := by
  obtain ⟨before, listed, later⟩ := h
  have kept : (e.apply t).state.machine.starts ++ (e.apply t).state.queue =
      t.machine.starts ++ e.kept t := by
    rw [apply_starts, joined]
    exact List.append_nil _
  rcases t.queue.eq_nil_or_concat' with empty | ⟨ahead, last, queue⟩
  · have none : e.kept t = [] := List.sublist_nil.1 (empty ▸ kept_sublist e t)
    rw [empty] at listed
    exact ⟨before, by rw [kept, none]; exact listed, later⟩
  · obtain rfl : last = q := by
      rw [queue, ← List.append_assoc] at listed
      exact (List.append_inj' listed rfl).2 |> List.singleton_inj.1
    obtain ⟨left, keeps⟩ := kept_concat quiet work queue
    refine ⟨t.machine.starts ++ left, by rw [kept, keeps, List.append_assoc], ?_⟩
    rw [List.length_append]
    exact behind.trans (Nat.le_add_right _ _)

/-- After a history the line sent last stands at the end; where no line was sent, the one that stood
there before. -/
theorem homing_after {events : List (Event ℝ)} (quiet : ∀ e ∈ events, e.Quiet)
    (work : q.isJog = false) (h : Homing n t.simulation) :
    Homing n (t.after events).simulation ∧
      ((sent t events).getLast? = some q → EndsWith n q (t.after events)) ∧
        (sent t events = [] → EndsWith n q t → EndsWith n q (t.after events)) := by
  induction events generalizing t with
  | nil => exact ⟨h, nofun, fun _ ends => ends⟩
  | cons e rest ih =>
    have first : e.Quiet := quiet e List.mem_cons_self
    obtain ⟨homing, last, same⟩ :=
      ih (fun e mem => quiet e (List.mem_cons_of_mem _ mem)) (homing_apply h first)
    refine ⟨homing, fun ends => ?_, fun none ends => ?_⟩
    · rw [sent, List.getLast?_append] at ends
      cases later : (sent (e.apply t).state rest).getLast? with
      | some q' =>
        rw [later] at ends
        exact last (later.trans ends)
      | none =>
        rw [later, Option.none_or] at ends
        have joined : e.joined t = some q := by
          cases joined : e.joined t with
          | none => simp [joined] at ends
          | some q' => simpa [joined] using ends
        exact same (List.getLast?_eq_none_iff.1 later) (endsWith_of_joined h.behind joined)
    · rw [sent, List.append_eq_nil_iff] at none
      have joined : e.joined t = Option.none := Option.toList_eq_nil_iff.1 none.1
      exact same none.2 (endsWith_of_kept h.behind first work joined ends)

/-- With exact numbers, simulation on and no report among the messages: if the last line that was
sent to move asked for a straight move to a point, all axes named, and nothing is in flight or waits
any more, then the machine is within one step of that point.  It does not matter when the lines were
sent, when the clock was read, and how far off the moves before ended. -/
theorem absolute_moves_do_not_drift {t : Tracker ℝ} (reached : Reached t) (on : t.simulates = true)
    {events : List (Event ℝ)} (quiet : ∀ e ∈ events, e.Quiet) {q : QueuedMotion ℝ}
    {p : Position ℝ} (last : (sent t events).getLast? = some q) (aims : q.Aims p)
    (landed : (t.after events).inMotion = false) (empty : (t.after events).queue = []) :
    ((t.after events).machine.position.sub p).length ≤ stepLength q.feed defaultTickMs := by
  obtain ⟨_, poised⟩ := reached.poised
  have first : Homing t.machine.starts.length t.simulation :=
    .at_first poised.placed on reached.tickMs_pos
  obtain ⟨homing, ends, -⟩ := homing_after quiet aims.work first
  obtain ⟨before, listed, later⟩ := ends last
  rw [empty, List.append_nil] at listed
  have behind : t.machine.starts.length < (t.after events).simulation.machine.starts.length := by
    show _ < (t.after events).machine.starts.length
    rw [listed, List.length_append, List.length_singleton]
    omega
  have handedOver : (t.after events).simulation.machine.starts.getLast? = some q := by
    show (t.after events).machine.starts.getLast? = some q
    rw [listed, List.getLast?_concat]
  rw [← (reached.after events).traced.tickMs]
  rcases homing.last behind q p handedOver aims with ⟨_, _, _, _, -, -, -, -, onCourse⟩ | rests
  · exact absurd (onCourse.inMotion.symm.trans landed) nofun
  · exact rests.2

/-- A line that goes to the point 0.3, 0.4, 0 by steps of a quarter, sent twice: the first time it
stops half-way, the second time it gets there. -/
theorem absolute_moves_do_not_drift_twice :
    let t : Tracker ℝ := fresh true
    let line := Bytes.ofText "X0.3 Y0.4 Z0 F600\n"
    let t' := t.after [.register 0 line, .register 0 line]
    t'.inMotion = false ∧ t'.queue = [] ∧
      (t'.machine.position.sub ⟨3 / 10, 4 / 10, 0⟩).length ≤ 1 / 4 := by
  intro t line t'
  have plain : Plain line _ 600 ⟨3 / 10, 4 / 10, 0⟩ :=
    .of_read (a := .decimal false 3 (-1)) (b := .decimal false 4 (-1)) (c := .decimal false 0 0)
      (d := .decimal false 600 0) (by decide +kernel) (by decide +kernel) (by decide +kernel)
      (by norm_num [Numeral.toReal]) (by norm_num) (by norm_num [Numeral.toReal])
  have step : ∀ t : Tracker ℝ, Reached t → stepLength 600 t.simulation.tickMs = 1 / 4 := by
    intro t reached
    rw [reached.tickMs_eq, stepLength, nat_real]
    norm_num
  -- the first line
  have reached : Reached t := .fresh true
  obtain ⟨q, moves, aims, feed⟩ := plain.aims (t := t) rfl rfl rfl
  have half : ((⟨3 / 10, 4 / 10, 0⟩ : Position ℝ).sub t.machine.position).length = 1 / 2 := by
    show √((3 / 10 - nat 0) * (3 / 10 - nat 0) + (4 / 10 - nat 0) * (4 / 10 - nat 0) +
      (0 - nat 0) * (0 - nat 0) : ℝ) = 1 / 2
    rw [nat_real, Real.sqrt_eq_iff_mul_self_eq_of_pos (by norm_num)]
    norm_num
  obtain ⟨empty₁, rests₁⟩ := register_short reached rfl rfl rfl moves aims
    (by rw [half, feed, step t reached]; norm_num) 0
  rw [feed, step t reached] at rests₁
  -- the second line
  have reached₁ : Reached (t.register 0 line).state := reached.event (.register 0 line)
  have on₁ : (t.register 0 line).state.simulates = true :=
    (homing_register (.at_first (.fresh _ _) rfl reached.tickMs_pos) 0 line).enabled
  have modes₁ : (t.register 0 line).state.machine.modes = {} := plain.modes_register 0 t
  obtain ⟨q₁, moves₁, aims₁, feed₁⟩ := plain.aims on₁ (modes₁ ▸ rfl) (modes₁ ▸ rfl)
  obtain ⟨empty₂, rests₂⟩ := register_short reached₁ on₁ rests₁.1 empty₁ moves₁ aims₁
    (by
      rw [feed₁, step _ reached₁, Position.length_sub_comm]
      exact rests₁.2.trans (by norm_num)) 0
  have last : (sent t [.register 0 line, .register 0 line]).getLast? = some q₁ := by
    have joined₁ : Event.joined t (.register 0 line) = some q := moves
    have joined₂ : Event.joined (t.register 0 line).state (.register 0 line) = some q₁ := moves₁
    rw [sent, sent, sent, joined₁]
    show ([q] ++ ((Event.joined (t.register 0 line).state (.register 0 line)).toList ++ [])).getLast? =
      some q₁
    rw [joined₂]
    rfl
  have quiet : ∀ e ∈ [.register 0 line, .register 0 line], Event.Quiet e := by
    intro e mem
    obtain rfl : e = .register 0 line := by simpa using mem
    exact trivial
  have near := absolute_moves_do_not_drift reached rfl quiet last aims₁ rests₂.1 empty₂
  rw [feed₁] at near
  exact ⟨rests₂.1, empty₂, near.trans (step t reached).le⟩

end Tracker

end GcodeSender
