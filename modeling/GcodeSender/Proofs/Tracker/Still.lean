/-
# `GcodeSender.Proofs.Tracker.Still` — with simulation off nothing moves

The position is written in two places only: by a tick, and by a report.  A tick
with simulation off cancels the motion and moves nothing, so whatever is in
flight or waits in the queue, no command and no clock reading reaches the
position.

    Still s s'   if simulation is off in `s`, it is off in `s'`, at the same place

The relation composes along everything that `Played` composes along; it is not
part of `Played` because it says nothing where simulation is on.
-/
import GcodeSender.Proofs.Tracker.History

namespace GcodeSender

open Scalar Gcode

variable {α : Type}

namespace Simulation

/-- Where simulation is off, it stays off and the machine stays where it is. -/
def Still (s s' : Simulation α) : Prop :=
  s.enabled = false → s'.enabled = false ∧ s'.machine.position = s.machine.position

namespace Still

theorem refl (s : Simulation α) : Still s s := fun off => ⟨off, rfl⟩

theorem trans {s s' s'' : Simulation α} (h : Still s s') (h' : Still s' s'') : Still s s'' := by
  intro off
  obtain ⟨off', here⟩ := h off
  obtain ⟨off'', there⟩ := h' off'
  exact ⟨off'', there.trans here⟩

theorem setFlight (s : Simulation α) (slot : Slot) (f : Option (Flight α)) :
    Still s (s.setFlight slot f) := by
  cases slot <;> exact fun off => ⟨off, rfl⟩

theorem refuse (refusal : Refusal α) (s : Simulation α) : Still s (s.refuse refusal) := by
  rw [Simulation.refuse]
  split
  · exact fun off => ⟨off, rfl⟩
  · exact refl s

variable [Scalar α]

theorem tick (slot : Slot) (s : Simulation α) : Still s (tick slot s).state := by
  have ticked := tick_ticked slot s
  generalize Simulation.tick slot s = outcome at ticked ⊢
  cases ticked with
  | empty _ => exact refl s
  | cancelled _ _ => exact setFlight s slot _
  | fault _ _ _ _ => exact refl s
  | goesOn _ _ on _ _ => exact fun off => absurd (off.symm.trans on) nofun
  | ends _ _ on _ _ => exact fun off => absurd (off.symm.trans on) nofun

theorem begin (motion : Motion α) (slot : Slot) (now : α) (s : Simulation α) :
    Still s (s.begin motion slot now).state := by
  have put : Still s
      (({ s with inMotion := true }.setFlight slot (some { motion, dueAt := now })).log .debug
        (.simulating motion)) := by
    cases slot <;> exact fun off => ⟨off, rfl⟩
  exact put.trans (tick slot _)

theorem beginPlanned (planned : Except (Refusal α) (Motion α)) (slot : Slot) (now : α)
    (s : Simulation α) : Still s (s.beginPlanned planned slot now).state := by
  unfold Simulation.beginPlanned
  split
  · exact refuse _ s
  · exact begin _ slot now s

end Still

end Simulation

namespace Tracker

open Simulation (Still)

variable [Scalar α]

theorem start_still (now : α) (q : QueuedMotion α) (s : Simulation α) :
    Still s (start now q s).state := by
  have noted : Still s { s with machine := s.machine.note (.motionStarted q) } :=
    fun off => ⟨off, rfl⟩
  rw [start_eq]
  dsimp only
  split
  · exact noted
  · exact noted
  · exact noted.trans (.beginPlanned _ _ _ _)

theorem startWaiting_still (now : α) (queue : List (QueuedMotion α)) (s : Simulation α) :
    Still s (startWaiting now queue s).state.1 := by
  induction queue generalizing s with
  | nil => exact .refl s
  | cons q rest ih =>
    rw [startWaiting]
    split
    · exact .refl s
    · have first := start_still now q s
      split
      next s' _ heq =>
        rw [heq] at first
        exact first.trans (ih s')
      next s' fault heq =>
        rw [heq] at first
        exact first

theorem drain_still (now : α) (t : Tracker α) :
    Still t.simulation (drain now t).state.simulation := by
  rw [drain]
  split
  · exact .refl _
  · exact startWaiting_still now t.queue t.simulation

theorem tick_still (slot : Slot) (now : α) (t : Tracker α) :
    Still t.simulation (tick slot now t).state.simulation := by
  have moved := Still.tick slot t.simulation
  rw [tick]
  split
  next simulation ended heq =>
    rw [heq] at moved
    dsimp only
    split
    · exact moved.trans (drain_still now { t with simulation })
    · exact moved
  next simulation fault heq =>
    rw [heq] at moved
    exact moved

theorem settleSlot_still (slot : Slot) (now : α) (t : Tracker α) :
    Still t.simulation (t.settleSlot slot now).state.simulation := by
  rw [settleSlot]
  generalize t.simulation.tickAllowance slot now = limit
  induction limit generalizing t with
  | zero => exact .refl _
  | succ limit ih =>
    rw [settle]
    split
    · have first := tick_still slot now t
      split
      next t' _ heq =>
        rw [heq] at first
        exact first.trans (ih t')
      next => exact first
    · exact .refl _

theorem update_still (now : α) (t : Tracker α) :
    Still t.simulation (t.update now).state.simulation := by
  have work := settleSlot_still .work now t
  rw [update, Step.andThen]
  split
  next => exact work.trans (settleSlot_still .jog now _)
  next => exact work

theorem cancelJogs_still (now : α) (t : Tracker α) :
    Still t.simulation (cancelJogs now t).state.simulation := by
  rw [cancelJogs_eq]
  dsimp only
  split
  next =>
    have stopped : Still t.simulation
        { t.simulation with inMotion := false, jog := none } := fun off => ⟨off, rfl⟩
    refine stopped.trans (Still.trans ?_ (drain_still now _))
    exact fun off => ⟨off, rfl⟩
  next => exact .refl _

/-- No command moves the machine. -/
theorem register_still (now : α) (command : Bytes) (t : Tracker α) :
    Still t.simulation (register now command t).state.simulation := by
  have registered := register_registered now command t
  have noted := noted_noted command t
  generalize register now command t = outcome at registered ⊢
  have first : Still t.simulation (t.noted command).simulation := by
    intro off
    rw [noted.simulation]
    exact ⟨off, noted.position⟩
  cases registered with
  | counted r notCancel stays _ => exact first
  | moves q notCancel moves =>
    exact first.trans (drain_still now { t.noted command with
      queue := (t.noted command).queue ++ [q] })
  | cancels cancel stays => exact cancelJogs_still now t

end Tracker

end GcodeSender
