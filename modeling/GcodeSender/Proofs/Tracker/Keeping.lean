/-
# `GcodeSender.Proofs.Tracker.Keeping` — what every tick and every start keeps

Simulated motion is made of two things only: a tick of a slot, and the handing
over of a line while nothing is in flight.

    Kept P      each of the two keeps the property `P` of simulations

What is kept by both is kept by whatever they are made into: draining, the
ticks that are due, an update (`Kept.drain`, `Kept.settleSlot`, `Kept.update`),
also where a fault ends it early.

The first property is that simulation never sleeps over a motion.  A motion in a
slot is not a cancelled one, and while simulation is off nothing is in a slot and
nothing waits (`Awake`).  It holds of every tracker that can be reached, also
behind operations that were stopped half-way (`Reached.awake`).
-/
import GcodeSender.Proofs.Motion.Tick
import GcodeSender.Proofs.Tracker.Cancelling
import GcodeSender.Proofs.Tracker.Faults

namespace GcodeSender

open Scalar Gcode

variable {α : Type} [Scalar α]

namespace Simulation

/-- Ticks keep the property, and so does a line that is handed over while nothing is in flight. -/
structure Kept (P : Simulation α → Prop) : Prop where
  tick : ∀ slot s, P s → P (Simulation.tick slot s).state
  start : ∀ now q s, s.inMotion = false → P s → P (Tracker.start now q s).state

namespace Kept

open Tracker (startWaiting)

variable {P : Simulation α → Prop}

theorem startWaiting (h : Kept P) (now : α) (queue : List (QueuedMotion α)) {s : Simulation α}
    (hs : P s) : P (startWaiting now queue s).state.1 := by
  induction queue generalizing s with
  | nil => exact hs
  | cons q rest ih =>
    rw [Tracker.startWaiting]
    split
    next => exact hs
    next still =>
      have first := h.start now q s (Bool.eq_false_iff.2 still) hs
      split
      next s' _ started =>
        rw [started] at first
        exact ih first
      next s' fault stopped =>
        rw [stopped] at first
        exact first

variable {t : Tracker α}

theorem drain (h : Kept P) (now : α) (ht : P t.simulation) :
    P (t.drain now).state.simulation := by
  rw [Tracker.drain]
  split
  · exact ht
  · exact h.startWaiting now t.queue ht

theorem tickDrain (h : Kept P) (slot : Slot) (now : α) (ht : P t.simulation) :
    P (t.tick slot now).state.simulation := by
  have moved := h.tick slot t.simulation ht
  rw [Tracker.tick]
  split
  next simulation ended ticked =>
    rw [ticked] at moved
    dsimp only
    split
    · exact h.drain now (t := { t with simulation }) moved
    · exact moved
  next simulation fault ticked =>
    rw [ticked] at moved
    exact moved

theorem settleSlot (h : Kept P) (slot : Slot) (now : α) (ht : P t.simulation) :
    P (t.settleSlot slot now).state.simulation := by
  rw [Tracker.settleSlot]
  generalize t.simulation.tickAllowance slot now = limit
  induction limit generalizing t with
  | zero => exact ht
  | succ limit ih =>
    rw [settle]
    split
    · have first := h.tickDrain slot now ht
      split
      next t' _ ticked =>
        rw [ticked] at first
        exact ih first
      next => exact first
    · exact ht

theorem update (h : Kept P) (now : α) (ht : P t.simulation) :
    P (t.update now).state.simulation := by
  have worked := h.settleSlot .work now ht
  rw [Tracker.update, Step.andThen]
  split
  · exact h.settleSlot .jog now worked
  · exact worked

end Kept

/-! ## Nothing in flight is cancelled -/

/-- Simulation is on, and no motion in a slot is cancelled. -/
def Lively (s : Simulation α) : Prop :=
  s.enabled = true ∧ ∀ slot f, s.flight slot = some f → f.cancelled = false

omit [Scalar α] in
theorem Lively.setFlight {s : Simulation α} (h : Lively s) (slot : Slot) {f : Flight α}
    (live : f.cancelled = false) : Lively (s.setFlight slot (some f)) := by
  refine ⟨by simpa using h.1, ?_⟩
  intro other g taken
  by_cases same : other = slot
  · subst same
    rw [flight_setFlight_self] at taken
    cases taken
    exact live
  · rw [flight_setFlight_ne s same] at taken
    exact h.2 other g taken

theorem Lively.tick {s : Simulation α} (h : Lively s) (slot : Slot) :
    Lively (Simulation.tick slot s).state := by
  have ticked := tick_ticked slot s
  generalize Simulation.tick slot s = outcome at ticked ⊢
  cases ticked with
  | empty _ => exact h
  | cancelled _ off => exact absurd (h.1.symm.trans off) nofun
  | fault _ _ _ _ => exact h
  | goesOn a taken _ _ _ =>
    have moved : Lively (s.moveTo a.position) := h
    have live := h.2 slot _ taken
    exact moved.setFlight slot live
  | ends a _ on _ _ =>
    refine ⟨on, ?_⟩
    rintro (_ | _) f taken <;> cases taken

theorem kept_lively : Kept (Lively : Simulation α → Prop) where
  tick slot s h := h.tick slot
  start now q s _ h := by
    have noted : Lively { s with machine := s.machine.note (.motionStarted q) } := h
    rw [Tracker.start_eq]
    dsimp only
    split
    · exact noted
    · exact noted
    · next planned _ =>
      cases planned with
      | error refusal =>
        show Lively (refuse refusal _)
        rw [refuse]
        split
        · exact noted
        · exact noted
      | ok motion =>
        have flying : Lively
            { s with machine := s.machine.note (.motionStarted q), inMotion := true } := h
        have put := flying.setFlight q.slot (f := { motion, dueAt := now }) rfl
        have logged : Lively ((setFlight _ q.slot _).log .debug (.simulating motion)) := put
        exact logged.tick q.slot

end Simulation

namespace Tracker

open Simulation (Lively kept_lively)

/-- While simulation is off nothing is in a slot and nothing waits; and what is in a slot is not
cancelled. -/
structure Awake (t : Tracker α) : Prop where
  flying : ∀ slot f, t.simulation.flight slot = some f →
    t.simulation.enabled = true ∧ f.cancelled = false
  waiting : t.queue ≠ [] → t.simulation.enabled = true

variable {t : Tracker α}

omit [Scalar α] in
theorem Awake.lively (h : Awake t) (on : t.simulation.enabled = true) : Lively t.simulation :=
  ⟨on, fun slot f taken => (h.flying slot f taken).2⟩

omit [Scalar α] in
theorem awake_of_lively (h : Lively t.simulation) : Awake t :=
  ⟨fun slot f taken => ⟨h.1, h.2 slot f taken⟩, fun _ => h.1⟩

omit [Scalar α] in
theorem Awake.empty (h : Awake t) (off : t.simulation.enabled = false) :
    (∀ slot, t.simulation.flight slot = none) ∧ t.queue = [] := by
  constructor
  · intro slot
    cases taken : t.simulation.flight slot with
    | none => rfl
    | some f => exact absurd ((h.flying slot f taken).1.symm.trans off) nofun
  · by_contra waiting
    exact absurd ((h.waiting waiting).symm.trans off) nofun

/-- Where nothing is in flight an update does nothing. -/
theorem update_idle (still : ∀ slot, t.simulation.flight slot = none) (now : α) :
    t.update now = .done t () := by
  have rests : ∀ slot, t.settleSlot slot now = .done t () := by
    intro slot
    refine settle_rests ?_ _
    show Simulation.due slot now t.simulation = false
    rw [Simulation.due, still slot]
  rw [update, rests .work]
  exact rests .jog

namespace Awake

omit [Scalar α] in
theorem withMachine (h : Awake t) {t' : Tracker α}
    (simulation : t'.simulation = { t.simulation with machine := t'.machine })
    (queue : t'.queue = t.queue) : Awake t' where
  flying slot f := by
    rw [simulation]
    exact h.flying slot f
  waiting := by
    rw [simulation, queue]
    exact h.waiting

theorem update (h : Awake t) (now : α) : Awake (t.update now).state := by
  cases on : t.simulation.enabled with
  | true => exact awake_of_lively (kept_lively.update now (h.lively on))
  | false =>
    rw [update_idle (h.empty on).1]
    exact h

theorem cancelJogs (h : Awake t) (now : α) : Awake (t.cancelJogs now).state := by
  rw [cancelJogs_eq]
  dsimp only
  split
  next active =>
    obtain ⟨f, taken⟩ := Option.isSome_iff_exists.1 active
    have lively := h.lively (h.flying .jog f taken).1
    refine awake_of_lively (kept_lively.drain now ⟨lively.1, ?_⟩)
    rintro (_ | _) g taken
    · exact lively.2 .work g taken
    · cases taken
  next =>
    refine ⟨h.flying, fun waiting => h.waiting fun none => waiting ?_⟩
    rw [none]
    rfl

theorem register (h : Awake t) (now : α) (command : Bytes) :
    Awake (t.register now command).state := by
  have registered := register_registered now command t
  have noted := noted_noted command t
  have counted : Awake (t.noted command) := h.withMachine noted.simulation noted.queue
  generalize t.register now command = outcome at registered ⊢
  cases registered with
  | counted r _ _ _ => exact counted
  | moves q _ moves =>
    have on : (t.noted command).simulation.enabled = true := by
      rw [noted.simulation]
      exact simulates_of_entryFor? moves
    exact awake_of_lively (kept_lively.drain now
      (t := { t.noted command with queue := (t.noted command).queue ++ [q] }) (counted.lively on))
  | cancels _ _ => exact h.cancelJogs now

omit [Scalar α] in
theorem toggle (h : Awake t) : Awake t.toggle.1 := by
  rw [toggle_eq]
  split
  next =>
    refine ⟨?_, fun waiting => absurd rfl waiting⟩
    rintro (_ | _) f taken <;> cases taken
  next off =>
    obtain ⟨still, -⟩ := h.empty (Bool.eq_false_iff.2 off)
    refine ⟨fun slot f taken => ?_, fun _ => rfl⟩
    have none : t.simulation.flight slot = none := still slot
    cases slot <;> cases none.symm.trans taken

theorem apply (h : Awake t) (e : Event α) : Awake (e.apply t).state := by
  cases e with
  | register now command => exact h.register now command
  | receive message =>
    have heard := receive_heard message t
    exact h.withMachine heard.simulation heard.queue
  | update now => exact h.update now
  | toggle => exact h.toggle

end Awake

theorem Reached.traced (h : Reached t) : t.simulation.Traced := by
  induction h with
  | fresh simulate => exact fresh_traced simulate
  | event e _ ih => exact (apply_traced ih e).1
  | cleared _ ih => exact ⟨ih.tickMs, ih.flights⟩

theorem Reached.awake (h : Reached t) : Awake t := by
  induction h with
  | fresh simulate =>
    refine ⟨?_, fun waiting => absurd rfl waiting⟩
    rintro (_ | _) f taken <;> cases taken
  | event e _ ih => exact ih.apply e
  | cleared _ ih => exact ⟨ih.flying, ih.waiting⟩

end Tracker

end GcodeSender
