/-
# `GcodeSender.Proofs.Motion.Tick` — the ticks of one slot

What a tick comes to is said once for each of its cases, as an equation.

    tick_empty    nothing is in the slot
    tick_off      simulation is off
    tick_fault    the tick cannot be made
    tick_goesOn   the machine is moved, and the next tick is due later
    tick_ends     the machine is moved, and both slots are emptied

While one slot alone is taken (`Alone`), an update is the loop over that slot
(`Alone.update`): the other loop finds nothing, before it or behind it.
-/
import GcodeSender.Proofs.Motion.Loop
import GcodeSender.Proofs.Tracker.Poise

namespace GcodeSender

open Scalar

variable {α : Type} [Scalar α]

namespace Simulation

/-! ## One tick -/

variable {slot : Slot} {s : Simulation α} {f : Flight α}

theorem tick_empty (empty : s.flight slot = none) : tick slot s = .done s false := by
  rw [tick, empty]

theorem tick_off (taken : s.flight slot = some f) (off : s.enabled = false) :
    tick slot s = .done (s.setFlight slot (some { f with cancelled := true })) false := by
  rw [tick, taken]
  dsimp only
  rw [if_neg (by simp [off])]

theorem tick_fault (taken : s.flight slot = some f) (on : s.enabled = true) {fault : Fault}
    (advance : f.motion.advance s.machine.position = .error fault) :
    tick slot s = .stopped s fault := by
  rw [tick, taken]
  dsimp only
  rw [if_pos on, advance]

/-- The machine is moved to where a tick arrives. -/
def moveTo (s : Simulation α) (p : Position α) : Simulation α :=
  { s with machine := s.machine.setPosition (.ofPosition p) }

@[simp] theorem enabled_moveTo (s : Simulation α) (p : Position α) :
    (s.moveTo p).enabled = s.enabled := rfl

@[simp] theorem inMotion_moveTo (s : Simulation α) (p : Position α) :
    (s.moveTo p).inMotion = s.inMotion := rfl

@[simp] theorem tickMs_moveTo (s : Simulation α) (p : Position α) :
    (s.moveTo p).tickMs = s.tickMs := rfl

theorem tick_goesOn (taken : s.flight slot = some f) (on : s.enabled = true) {a : Advance α}
    (advance : f.motion.advance s.machine.position = .ok a) (goes : a.goesOn = true) :
    tick slot s = .done
      ((s.moveTo a.position).setFlight slot
        (some { f with motion := a.motion, dueAt := f.dueAt + s.tickInterval })) false := by
  rw [tick, taken]
  dsimp only
  rw [if_pos on, advance]
  dsimp only
  rw [if_pos goes]
  rfl

theorem tick_ends (taken : s.flight slot = some f) (on : s.enabled = true) {a : Advance α}
    (advance : f.motion.advance s.machine.position = .ok a) (stops : a.goesOn = false) :
    tick slot s = .done (s.moveTo a.position).endMotion true := by
  rw [tick, taken]
  dsimp only
  rw [if_pos on, advance]
  dsimp only
  rw [if_neg (by simp [stops])]
  rfl

/-- One tick of a slot, whether it ends the motion or not. -/
def tickSlot (slot : Slot) (s : Simulation α) : Step (Simulation α) Unit :=
  (tick slot s).mapResult fun _ => ()

theorem tickSlot_of_tick {s' : Simulation α} {ended : Bool} (ticked : tick slot s = .done s' ended) :
    tickSlot slot s = .done s' () := by
  rw [tickSlot, ticked]
  rfl

/-- A motion is put into a slot, and is about to have its first tick. -/
def takeOff (motion : Motion α) (slot : Slot) (now : α) (s : Simulation α) : Simulation α :=
  ({ s with inMotion := true }.setFlight slot (some { motion, dueAt := now })).log .debug
    (.simulating motion)

omit [Scalar α] in
@[simp] theorem machine_takeOff (motion : Motion α) (slot : Slot) (now : α) (s : Simulation α) :
    (s.takeOff motion slot now).machine = s.machine.log .debug (.simulating motion) := by
  cases slot <;> rfl

omit [Scalar α] in
@[simp] theorem tickMs_takeOff (motion : Motion α) (slot : Slot) (now : α)
    (s : Simulation α) : (s.takeOff motion slot now).tickMs = s.tickMs := by
  cases slot <;> rfl

omit [Scalar α] in
@[simp] theorem flight_takeOff (motion : Motion α) (slot : Slot) (now : α) (s : Simulation α) :
    (s.takeOff motion slot now).flight slot = some { motion, dueAt := now } := by
  cases slot <;> rfl

theorem begin_eq (motion : Motion α) (slot : Slot) (now : α) (s : Simulation α) :
    s.begin motion slot now = tickSlot slot (s.takeOff motion slot now) := rfl

/-- A tick that is stopped leaves everything as it is. -/
theorem eq_of_tickSlot_stopped {s s' : Simulation α} {fault : Fault}
    (stopped : tickSlot slot s = .stopped s' fault) : s' = s := by
  have ticked := tick_ticked slot s
  rw [tickSlot] at stopped
  generalize tick slot s = outcome at ticked stopped
  cases ticked with
  | fault _ _ _ _ =>
    cases stopped
    rfl
  | _ => cases stopped

/-! ## One slot alone -/

/-- No slot but this one is taken. -/
def Alone (slot : Slot) (s : Simulation α) : Prop := ∀ other, other ≠ slot → s.flight other = none

omit [Scalar α] in
theorem Placed.exists_alone {s : Simulation α} (h : s.Placed) : ∃ slot, Alone slot s := by
  rcases h.single with noWork | noJog
  · refine ⟨.jog, ?_⟩
    rintro (_ | _) different
    · exact noWork
    · exact absurd rfl different
  · refine ⟨.work, ?_⟩
    rintro (_ | _) different
    · exact absurd rfl different
    · exact noJog

namespace Alone

omit [Scalar α] in
theorem takeOff {s : Simulation α} (empty : ∀ slot, s.flight slot = none) (motion : Motion α)
    (slot : Slot) (now : α) : Alone slot (s.takeOff motion slot now) := by
  intro other different
  refine Eq.trans ?_ (empty other)
  cases slot <;> cases other <;> first | rfl | exact absurd rfl different

theorem not_due {s : Simulation α} (h : Alone slot s) {other : Slot} (different : other ≠ slot)
    (now : α) : due other now s = false := by
  rw [due, h other different]

/-- Where nothing is due in that slot, nothing is due. -/
theorem rests {s : Simulation α} (h : Alone slot s) {now : α} (quiet : due slot now s = false)
    (other : Slot) : due other now s = false := by
  by_cases same : other = slot
  · exact same ▸ quiet
  · exact h.not_due same now

theorem tickSlot {s : Simulation α} (h : Alone slot s) : Alone slot (tickSlot slot s).state := by
  have ticked := tick_ticked slot s
  intro other different
  show (tick slot s).state.flight other = none
  generalize tick slot s = outcome at ticked ⊢
  cases ticked with
  | empty _ => exact h other different
  | cancelled _ _ => exact (flight_setFlight_ne s different _).trans (h other different)
  | fault _ _ _ _ => exact h other different
  | goesOn a _ _ _ _ => exact (flight_setFlight_ne _ different _).trans (h other different)
  | ends a _ _ _ _ => cases other <;> rfl

theorem settle {s : Simulation α} (h : Alone slot s) (isDue : Simulation α → Bool) (limit : Nat) :
    Alone slot (settle isDue (Simulation.tickSlot slot) limit s).state := by
  induction limit generalizing s with
  | zero => exact h
  | succ limit ih =>
    rw [GcodeSender.settle]
    split
    · have next := h.tickSlot
      split
      next s' _ ticked =>
        rw [ticked] at next
        exact ih next
      next => exact next
    · exact h

/-- An update is the loop over the slot that is taken. -/
theorem update {s : Simulation α} (h : Alone slot s) (now : α) :
    s.update now = s.settleSlot slot now := by
  have rests : ∀ {s : Simulation α} {other : Slot}, Alone slot s → other ≠ slot →
      s.settleSlot other now = .done s () :=
    fun alone different => settle_rests (alone.not_due different now) _
  rw [Simulation.update]
  cases slot with
  | work =>
    have after : Alone .work (s.settleSlot .work now).state := h.settle _ _
    rcases Step.done_or_stopped (s.settleSlot .work now) with ⟨s', ended⟩ | ⟨s', fault, stopped⟩
    · rw [ended] at after ⊢
      exact rests after (by decide)
    · rw [stopped]
      rfl
  | jog =>
    rw [rests h (by decide)]
    rfl

end Alone

end Simulation

end GcodeSender
