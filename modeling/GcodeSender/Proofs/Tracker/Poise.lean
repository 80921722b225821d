/-
# `GcodeSender.Proofs.Tracker.Poise` — nothing waits for nothing

A line waits in the motion queue because a motion before it is in flight.  That
is so after every operation that comes to its end, whatever the operations
before it were; what the flags and the slots say agrees even where one was
stopped half-way.

    Placed s        in flight or not, one slot at most is taken, and none while
                    nothing is in flight
    Poised calm t   placed; not draining; and as long as all is `calm`, lines
                    wait only for a motion in flight

`calm` is a proposition that the operations take along: it says that none was
stopped so far.  An operation that is stopped may leave lines waiting behind a
motion that never began, so it ends the calm (`Step.Completes`).

Of the machine nothing matters here, so that what the journal holds does not
either: a controller may take the notices of its tracker over at any time.
-/
import GcodeSender.Proofs.Tracker.Flight

namespace GcodeSender

open Scalar Gcode

/-- The operation came to its end. -/
def Step.Completes {σ ρ : Type} (a : Step σ ρ) : Prop := ∃ r, a.result = .ok r

variable {α : Type} [Scalar α]

namespace Simulation

omit [Scalar α] in
/-- One slot at most is taken, and none while nothing is in flight. -/
structure Placed (s : Simulation α) : Prop where
  still : s.inMotion = false → ∀ slot, s.flight slot = none
  single : s.work = none ∨ s.jog = none

namespace Placed

variable {s : Simulation α}

theorem fresh (enabled : Bool) (tickMs : α) : Placed (Simulation.fresh enabled tickMs) :=
  ⟨fun _ slot => by cases slot <;> rfl, .inl rfl⟩

omit [Scalar α] in
theorem withMachine (h : Placed s) (m : Machine α) : Placed { s with machine := m } :=
  ⟨h.still, h.single⟩

omit [Scalar α] in
theorem stop (s : Simulation α) : Placed s.stop :=
  ⟨fun _ slot => by cases slot <;> rfl, .inl rfl⟩

omit [Scalar α] in
/-- What is put into a slot while a motion is in flight, the other slot being empty. -/
theorem occupy {slot : Slot} (f : Flight α) (flying : s.inMotion = true)
    (alone : ∀ other, other ≠ slot → s.flight other = none) :
    Placed (s.setFlight slot (some f)) where
  still h := by
    rw [inMotion_setFlight, flying] at h
    cases h
  single := by
    cases slot with
    | work => exact .inr (alone .jog nofun)
    | jog => exact .inl (alone .work nofun)

omit [Scalar α] in
theorem inMotion_of_flight (h : Placed s) {slot : Slot} {f : Flight α}
    (taken : s.flight slot = some f) : s.inMotion = true := by
  cases flying : s.inMotion with
  | true => rfl
  | false =>
    rw [h.still flying slot] at taken
    cases taken

omit [Scalar α] in
theorem alone (h : Placed s) {slot : Slot} {f : Flight α} (taken : s.flight slot = some f) :
    ∀ other, other ≠ slot → s.flight other = none := by
  intro other different
  rcases h.single with noWork | noJog
  · cases slot with
    | work => exact absurd taken (by simp [flight, noWork])
    | jog => cases other with
      | work => exact noWork
      | jog => exact absurd rfl different
  · cases slot with
    | jog => exact absurd taken (by simp [flight, noJog])
    | work => cases other with
      | work => exact absurd rfl different
      | jog => exact noJog

theorem tick (h : Placed s) (slot : Slot) : Placed (tick slot s).state := by
  have ticked := tick_ticked slot s
  generalize Simulation.tick slot s = outcome at ticked ⊢
  cases ticked with
  | empty _ => exact h
  | cancelled taken _ => exact occupy _ (h.inMotion_of_flight taken) (h.alone taken)
  | fault _ _ _ _ => exact h
  | goesOn a taken _ _ _ =>
    exact occupy (s := { s with machine := s.machine.setPosition (.ofPosition a.position) }) _
      (h.inMotion_of_flight taken) (h.alone taken)
  | ends a taken _ _ _ => exact (stop _).withMachine _

theorem begin (h : Placed s) (still : s.inMotion = false) (motion : Motion α) (slot : Slot)
    (now : α) : Placed (s.begin motion slot now).state := by
  have put : Placed ({ s with inMotion := true }.setFlight slot (some { motion, dueAt := now })) :=
    occupy _ rfl fun other _ => h.still still other
  exact (put.withMachine _).tick slot

theorem beginPlanned (h : Placed s) (still : s.inMotion = false)
    (planned : Except (Refusal α) (Motion α)) (slot : Slot) (now : α) :
    Placed (s.beginPlanned planned slot now).state := by
  cases planned with
  | ok motion => exact h.begin still motion slot now
  | error refusal =>
    show Placed (s.refuse refusal)
    rw [refuse]
    split
    · exact h.withMachine _
    · exact h

omit [Scalar α] in
/-- Where a jog is in flight, nothing is when it has been taken out. -/
theorem stopJog (h : Placed s) (active : s.jogActive = true) :
    Placed { s with inMotion := false, jog := none } := by
  have noWork : s.work = none := by
    rcases h.single with noWork | noJog
    · exact noWork
    · simp [jogActive, noJog] at active
  refine ⟨?_, .inl noWork⟩
  rintro - (_ | _)
  · exact noWork
  · rfl

end Placed

end Simulation

namespace Tracker

open Simulation

/-! ## The motion queue -/

theorem start_placed {s : Simulation α} (h : s.Placed) (still : s.inMotion = false) (now : α)
    (q : QueuedMotion α) : (start now q s).state.Placed := by
  have noted := h.withMachine (s.machine.note (.motionStarted q))
  rw [start_eq]
  dsimp only
  split
  · exact noted
  · exact noted
  · exact noted.beginPlanned still _ _ now

/-- Lines are handed over until one stays in flight or none is left. -/
theorem startWaiting_placed (now : α) (queue : List (QueuedMotion α)) {s : Simulation α}
    (h : s.Placed) :
    (startWaiting now queue s).state.1.Placed ∧
      ((startWaiting now queue s).Completes → (startWaiting now queue s).state.2 ≠ [] →
        (startWaiting now queue s).state.1.inMotion = true) := by
  induction queue generalizing s with
  | nil => exact ⟨h, fun _ waiting => absurd rfl waiting⟩
  | cons q rest ih =>
    rw [startWaiting]
    split
    next flying => exact ⟨h, fun _ _ => flying⟩
    next still =>
      have begun := start_placed h (Bool.eq_false_iff.2 still) now q
      split
      next s' _ started =>
        rw [started] at begun
        exact ih begun
      next s' fault stopped =>
        rw [stopped] at begun
        refine ⟨begun, ?_⟩
        rintro ⟨_, ended⟩
        cases ended

omit [Scalar α] in
/-- Slots, flags and queue fit together; lines wait only for a motion in flight, as long as all is
calm. -/
structure Poised (calm : Prop) (t : Tracker α) : Prop where
  placed : t.simulation.Placed
  idle : t.draining = false
  waiting : calm → t.queue ≠ [] → t.inMotion = true

namespace Poised

variable {calm calm' : Prop} {t t' : Tracker α}

omit [Scalar α] in
theorem imp (h : Poised calm t) (less : calm' → calm) : Poised calm' t :=
  ⟨h.placed, h.idle, fun quiet => h.waiting (less quiet)⟩

theorem fresh (simulate : Bool) : Poised True (fresh simulate : Tracker α) :=
  ⟨.fresh _ _, rfl, fun _ waiting => absurd rfl waiting⟩

omit [Scalar α] in
/-- Only the machine, the ledger and the counts have changed. -/
theorem of_same (h : Poised calm t)
    (simulation : t'.simulation = { t.simulation with machine := t'.machine })
    (queue : t'.queue = t.queue) (draining : t'.draining = t.draining) : Poised calm t' where
  placed := by
    rw [simulation]
    exact h.placed.withMachine _
  idle := draining.trans h.idle
  waiting quiet := by
    rw [queue, inMotion, simulation]
    exact h.waiting quiet

theorem of_drain (placed : t.simulation.Placed) (idle : t.draining = false) (now : α) :
    Poised (drain now t).Completes (drain now t).state := by
  obtain ⟨placed', waiting⟩ := startWaiting_placed now t.queue placed
  rw [drain, if_neg (by simp [idle])]
  exact ⟨placed', rfl, waiting⟩

theorem tick (h : Poised calm t) (slot : Slot) (now : α) :
    Poised (calm ∧ (tick slot now t).Completes) (tick slot now t).state := by
  have ticked := tick_ticked slot t.simulation
  have placed := h.placed.tick slot
  rw [Tracker.tick]
  generalize Simulation.tick slot t.simulation = outcome at ticked placed ⊢
  -- only a motion that ends lets the next ones start; else what is in flight stays there
  cases ticked with
  | empty _ => exact h.imp And.left
  | cancelled taken _ =>
    refine ⟨placed, h.idle, fun _ _ => ?_⟩
    show (t.simulation.setFlight slot _).inMotion = true
    rw [inMotion_setFlight]
    exact h.placed.inMotion_of_flight taken
  | fault cause _ _ _ =>
    refine ⟨placed, h.idle, ?_⟩
    rintro ⟨-, _, ended⟩
    cases ended
  | goesOn a taken _ _ _ =>
    refine ⟨placed, h.idle, fun _ _ => ?_⟩
    show (Simulation.setFlight _ slot _).inMotion = true
    rw [inMotion_setFlight]
    exact h.placed.inMotion_of_flight taken
  | ends a taken _ _ _ =>
    exact (of_drain (t := { t with simulation := _ }) placed h.idle now).imp And.right

theorem settleSlot (h : Poised calm t) (slot : Slot) (now : α) :
    Poised (calm ∧ (t.settleSlot slot now).Completes) (t.settleSlot slot now).state := by
  rw [Tracker.settleSlot]
  generalize t.simulation.tickAllowance slot now = limit
  induction limit generalizing calm t with
  | zero => exact h.imp And.left
  | succ limit ih =>
    rw [settle]
    split
    · have first := h.tick slot now
      split
      next t' _ ticked =>
        rw [ticked] at first
        have more := ih (first.imp fun quiet => ⟨quiet, (), rfl⟩)
        exact more
      next stopped =>
        exact first
    · exact h.imp And.left

theorem update (h : Poised calm t) (now : α) :
    Poised (calm ∧ (t.update now).Completes) (t.update now).state := by
  have worked := h.settleSlot .work now
  rw [Tracker.update, Step.andThen]
  split
  next r ended => exact (worked.imp fun quiet => ⟨quiet, r, ended⟩).settleSlot .jog now
  next fault stopped =>
    refine worked.imp ?_
    rintro ⟨-, _, ended⟩
    cases ended

/-! ## Commands and messages -/

theorem cancelJogs (h : Poised calm t) (now : α) :
    Poised (calm ∧ (t.cancelJogs now).Completes) (t.cancelJogs now).state := by
  rw [cancelJogs_eq]
  dsimp only
  split
  next active =>
    have stopped := (h.placed.stopJog active).withMachine
      (t.simulation.machine.logText .debug "Jog simulation cancelled.")
    exact (of_drain (t := { t with simulation := _, queue := _ }) stopped h.idle now).imp And.right
  next =>
    refine ⟨h.placed, h.idle, ?_⟩
    rintro ⟨quiet, -⟩ left
    refine h.waiting quiet fun empty => left ?_
    rw [empty]
    rfl

theorem register (h : Poised calm t) (now : α) (command : Bytes) :
    Poised (calm ∧ (t.register now command).Completes) (t.register now command).state := by
  have registered := register_registered now command t
  have noted := noted_noted command t
  have counted : Poised calm (t.noted command) :=
    h.of_same noted.simulation noted.queue noted.draining
  generalize t.register now command = outcome at registered ⊢
  cases registered with
  | counted r _ _ _ => exact counted.imp And.left
  | moves q _ _ =>
    have drained := of_drain
      (t := { t.noted command with queue := (t.noted command).queue ++ [q] })
      counted.placed counted.idle now
    refine drained.imp ?_
    rintro ⟨-, _, ended⟩
    exact Step.result_of_mapResult ended
  | cancels _ _ =>
    refine (h.cancelJogs now).imp ?_
    rintro ⟨quiet, _, ended⟩
    exact ⟨quiet, Step.result_of_mapResult ended⟩

theorem receive (h : Poised calm t) (message : Bytes) : Poised calm (t.receive message) :=
  have heard := receive_heard message t
  h.of_same heard.simulation heard.queue heard.draining

theorem receiveAll (h : Poised calm t) (messages : List Bytes) :
    Poised calm (messages.foldl (fun t message => t.receive message) t) := by
  induction messages generalizing t with
  | nil => exact h
  | cons message rest ih => exact ih (h.receive message)

omit [Scalar α] in
/-- Turning simulation off leaves nothing in flight and nothing waiting. -/
theorem toggle (h : t.Poised calm) : t.toggle.1.Poised calm := by
  rw [toggle_eq]
  split
  next =>
    have stopped : Simulation.Placed { t.simulation.stop with enabled := false } :=
      ⟨(Simulation.Placed.stop t.simulation).still, .inl rfl⟩
    exact ⟨stopped.withMachine _, h.idle, fun _ waiting => absurd rfl waiting⟩
  next => exact ⟨⟨h.placed.still, h.placed.single⟩, h.idle, h.waiting⟩

/-- A realtime byte sets nothing in motion. -/
theorem register_realtime (h : Poised calm t) (still : t.inMotion = false) {byte : Bytes}
    (realtime : isRealtime byte = true) (now : α) :
    (t.register now byte).state.inMotion = false := by
  have registered := register_registered now byte t
  generalize t.register now byte = outcome at registered ⊢
  cases registered with
  | counted r _ _ _ =>
    show (t.noted byte).inMotion = false
    rw [Tracker.noted, if_pos realtime]
    exact still
  | moves q _ moves => simp [entryFor?, realtime] at moves
  | cancels _ _ =>
    have noJog : t.simulation.jog = none := h.placed.still still .jog
    show (t.cancelJogs now).state.inMotion = false
    rw [cancelJogs_eq]
    dsimp only
    rw [if_neg (by simp [Simulation.jogActive, noJog])]
    exact still

end Poised

end Tracker

end GcodeSender
