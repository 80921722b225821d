/-
# `GcodeSender.Proofs.Tracker.Reentry` — draining calls itself

A motion that ends calls for the next one, and it may end on the very tick that
begins it, inside the loop that hands lines over.  `drain` does not show that
call: it would find the flag set and return.  Here it is written out.

    tickCalling c     a tick that calls `c` where its motion ends
    startCalling c    a line handed over; its first tick is such a tick
    handOver          the loop, under the flag

`handOver_eq` is the loop's own equation, with `drain` itself called from
inside, and `drain_eq` puts the flag around it.  So the loop that carries on
alone is the loop that is called back.
-/
import GcodeSender.Proofs.Tracker.Play

namespace GcodeSender

open Scalar Gcode

variable {α : Type} [Scalar α]

namespace Tracker

/-- One tick of a slot; where it ends its motion, `complete` is called. -/
def tickCalling (complete : Tracker α → Step (Tracker α) Unit) (slot : Slot) (t : Tracker α) :
    Step (Tracker α) Unit :=
  match Simulation.tick slot t.simulation with
  | ⟨simulation, .ok ended⟩ =>
    let t := { t with simulation }
    if ended then complete t else .done t ()
  | ⟨simulation, .error fault⟩ => .stopped { t with simulation } fault

theorem tick_eq (slot : Slot) (now : α) (t : Tracker α) :
    tick slot now t = tickCalling (drain now) slot t := rfl

/-- Hand a line over; where its motion ends on the first tick, `complete` is called. -/
def startCalling (complete : Tracker α → Step (Tracker α) Unit) (now : α) (q : QueuedMotion α)
    (t : Tracker α) : Step (Tracker α) Unit :=
  let noted := t.mapMachine (·.note (.motionStarted q))
  match q.plan t.machine.position t.simulation.tickMs with
  | .error fault => .stopped noted fault
  | .ok none => .done noted ()
  | .ok (some (.error refusal)) =>
    .done { noted with simulation := noted.simulation.refuse refusal } ()
  | .ok (some (.ok motion)) =>
    let flying := { noted.simulation with inMotion := true }.setFlight q.slot
      (some { motion, dueAt := now })
    tickCalling complete q.slot { noted with simulation := flying.log .debug (.simulating motion) }

/-- Hand lines over until one stays in flight or none waits. -/
def handOver (now : α) (t : Tracker α) : Step (Tracker α) Unit :=
  (startWaiting now t.queue t.simulation).mapState fun (simulation, queue) =>
    { t with simulation, queue }

/-- A motion that ends while lines are being handed over calls back in vain. -/
theorem startCalling_drain {t : Tracker α} (draining : t.draining = true) (now : α)
    (q : QueuedMotion α) :
    startCalling (drain now) now q t =
      (start now q t.simulation).mapState fun simulation => { t with simulation } := by
  rw [start_eq]
  rw [startCalling]
  dsimp only [mapMachine, machine]
  cases q.plan t.simulation.machine.position t.simulation.tickMs with
  | error fault => rfl
  | ok planned =>
    cases planned with
    | none => rfl
    | some planned =>
      cases planned with
      | error refusal => rfl
      | ok motion =>
        dsimp only [Simulation.beginPlanned, Simulation.begin, tickCalling]
        generalize Simulation.tick q.slot (_ : Simulation α) = ticked
        obtain ⟨simulation, result⟩ := ticked
        cases result with
        | error fault => rfl
        | ok ended =>
          have returns : drain now { t with simulation } = .done { t with simulation } () := by
            simp [drain, draining]
          cases ended with
          | false => rfl
          | true => exact returns

/-- The loop, called back from inside: as long as nothing is in flight, the line at the head of the
queue is handed over, and a motion that ends at once calls `drain`. -/
theorem handOver_eq {t : Tracker α} (draining : t.draining = true) (now : α) :
    handOver now t =
      match t.queue with
      | [] => .done t ()
      | q :: queue =>
        if t.inMotion then .done t ()
        else (startCalling (drain now) now q { t with queue }).andThen fun _ t => handOver now t := by
  obtain ⟨simulation, ledger, queue, flag, answeredOk, answeredError⟩ := t
  cases queue with
  | nil => rfl
  | cons q queue =>
    dsimp only [handOver, startWaiting, inMotion]
    by_cases flying : simulation.inMotion = true
    · rw [if_pos flying]
      exact (if_pos flying).symm
    · have called := startCalling_drain
        (t := ⟨simulation, ledger, queue, flag, answeredOk, answeredError⟩) draining now q
      rw [if_neg flying]
      refine Eq.trans ?_ (if_neg flying).symm
      rw [called]
      generalize start now q simulation = begun
      obtain ⟨simulation', result⟩ := begun
      cases result <;> rfl

/-- The flag keeps the loop from being entered twice, and is cleared however it ends. -/
theorem drain_eq (now : α) (t : Tracker α) :
    drain now t =
      if t.draining then .done t ()
      else (handOver now { t with draining := true }).mapState ({ · with draining := false }) := by
  rw [drain]
  split <;> rfl

end Tracker

end GcodeSender
