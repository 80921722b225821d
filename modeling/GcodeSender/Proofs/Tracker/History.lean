/-
# `GcodeSender.Proofs.Tracker.History` — what can happen to a tracker

An owner registers commands, passes on messages, reads the clock, and turns
simulation on and off, in any order.  A history is a list of such events.

    after t es       the tracker after the events; one that is stopped half-way
                     leaves what it had done, and the next event follows
    Unstopped t es   no event is stopped half-way

Properties of all histories are proved for one event first.
-/
import GcodeSender.Proofs.Tracker.Intake

namespace GcodeSender.Tracker

open Scalar Gcode

variable {α : Type} [Scalar α]

/-- What an owner does to a tracker. -/
inductive Event (α : Type) where
  | register (now : α) (command : Bytes)
  | receive (message : Bytes)
  | update (now : α)
  | toggle
  deriving DecidableEq, Repr

/-- The outcome of an event. -/
def Event.apply : Event α → Tracker α → Step (Tracker α) Unit
  | .register now command, t => (t.register now command).mapResult fun _ => ()
  | .receive message, t => .done (t.receive message) ()
  | .update now, t => t.update now
  | .toggle, t => .done t.toggle.1 ()

/-- The tracker after a history. -/
def after (t : Tracker α) (events : List (Event α)) : Tracker α :=
  events.foldl (fun t e => (e.apply t).state) t

@[simp] theorem after_nil (t : Tracker α) : t.after [] = t := rfl

@[simp] theorem after_cons (t : Tracker α) (e : Event α) (rest : List (Event α)) :
    t.after (e :: rest) = (e.apply t).state.after rest := rfl

theorem after_append (t : Tracker α) (events more : List (Event α)) :
    t.after (events ++ more) = (t.after events).after more := List.foldl_append

/-- No event of the history is stopped half-way. -/
def Unstopped : Tracker α → List (Event α) → Prop
  | _, [] => True
  | t, e :: rest => (e.apply t).result = .ok () ∧ Unstopped (e.apply t).state rest

instance decidableUnstopped : (t : Tracker α) → (events : List (Event α)) →
    Decidable (Unstopped t events)
  | _, [] => isTrue trivial
  | t, e :: rest =>
    match here : (e.apply t).result with
    | .ok () =>
      let _ := decidableUnstopped (e.apply t).state rest
      decidable_of_iff (Unstopped (e.apply t).state rest) (by simp [Unstopped, here])
    | .error _ => isFalse (by simp [Unstopped, here])

/-! ## The events that take lines out of the queue -/

/-- What the cancelling byte comes to, by whether a jog is in flight. -/
theorem cancelJogs_eq (now : α) (t : Tracker α) :
    cancelJogs now t =
      let left := { t with queue := t.queue.filter (!·.isJog) }
      if t.simulation.jogActive then
        drain now (logText
          { left with simulation := { t.simulation with inMotion := false, jog := none } }
          .debug "Jog simulation cancelled.")
      else .done left () := by
  rw [cancelJogs, Simulation.cancelJog]
  by_cases active : t.simulation.jogActive = true <;> simp [active]

/-- The cancelling byte takes the waiting jogs out of the queue; where it also stopped a jog in
flight, lines are handed over from what is left. -/
theorem cancelJogs_played (now : α) (t : Tracker α) :
    ∃ ls, Played ls { t with queue := t.queue.filter (!·.isJog) } (cancelJogs now t).state := by
  rw [cancelJogs_eq]
  dsimp only
  split
  next =>
    obtain ⟨ls, hplayed⟩ := drain_played now
      (logText
        { t with
          queue := t.queue.filter (!·.isJog)
          simulation := { t.simulation with inMotion := false, jog := none } }
        .debug "Jog simulation cancelled.")
    refine ⟨ls, ⟨?_, ?_, ?_⟩, hplayed.queue, hplayed.ledger, hplayed.answeredOk,
      hplayed.answeredError, hplayed.draining⟩
    · exact (Machine.Played.log _ _ _).trans hplayed.simulation.machine
    · exact hplayed.simulation.enabled
    · exact hplayed.simulation.tickMs
  next => exact ⟨[], .refl _⟩

omit [Scalar α] in
/-- What turning simulation on or off comes to. -/
theorem toggle_eq (t : Tracker α) :
    t.toggle.1 =
      if t.simulates then
        logText { t with simulation := { t.simulation.stop with enabled := false }, queue := [] }
          .info "Motion simulation disabled"
      else
        logText { t with simulation := { t.simulation with enabled := true } }
          .info "Motion simulation enabled" := by
  rw [toggle]
  by_cases on : t.simulation.enabled = true <;> simp [simulates, Simulation.stop, on]

omit [Scalar α] in
theorem queue_toggle (t : Tracker α) : t.toggle.1.queue = if t.simulates then [] else t.queue := by
  rw [toggle_eq]
  split <;> rfl

omit [Scalar α] in
theorem starts_toggle (t : Tracker α) : t.toggle.1.machine.starts = t.machine.starts := by
  rw [toggle_eq]
  split <;> exact Machine.starts_logText _ _ _

end GcodeSender.Tracker
