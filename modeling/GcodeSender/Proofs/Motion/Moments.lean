/-
# `GcodeSender.Proofs.Motion.Moments` — a motion in flight, and what else happens

Between two ticks of a motion anything can happen to the machine: a report puts
it elsewhere, a line changes its modes or its feed.  What befalls a motion in
flight is a list of `Moment`s:

    tick           a tick of its slot
    aside change   something else changes the machine

A motion `Lasts n` if the `n`-th tick is its last one, whatever else happens of
a given kind: all that can happen, or only what does not move the machine
(`Moment.Still`).

How a motion flies is said stage by stage (`Stages`): what holds after `k` ticks
is kept by whatever happens in between, a tick leads to the next stage, and the
last one to the end.  That makes a run of it (`Stages.run`).  What a stage says
first is which motion is in its slot (`InFlight`), and a tick of it is made, or
is the last one, as its `advance` says.
-/
import GcodeSender.Proofs.Motion.Tick

namespace GcodeSender.Simulation

open Scalar

variable {α : Type}

/-- What befalls a motion in flight. -/
inductive Moment (α : Type) where
  /-- A tick of its slot. -/
  | tick
  /-- Something else happens to the machine: a report comes in, say. -/
  | aside (change : Machine α → Machine α)

namespace Moment

/-- Only ticks move the machine. -/
def Still : Moment α → Prop
  | .tick => True
  | .aside change => ∀ m, (change m).position = m.position

def isTick : Moment α → Bool
  | .tick => true
  | .aside _ => false

end Moment

/-- How many ticks there are among some moments. -/
def ticksIn (moments : List (Moment α)) : ℕ := moments.countP (·.isTick)

@[simp] theorem ticksIn_nil : ticksIn ([] : List (Moment α)) = 0 := rfl

@[simp] theorem ticksIn_tick (rest : List (Moment α)) :
    ticksIn (.tick :: rest) = ticksIn rest + 1 := List.countP_cons_of_pos rfl

@[simp] theorem ticksIn_aside (change : Machine α → Machine α) (rest : List (Moment α)) :
    ticksIn (.aside change :: rest) = ticksIn rest := List.countP_cons_of_neg nofun

variable [Scalar α]

/-- A simulation after a moment. -/
def meet (slot : Slot) (s : Simulation α) : Moment α → Simulation α
  | .tick => (tickSlot slot s).state
  | .aside change => { s with machine := change s.machine }

/-- A simulation after some moments. -/
def elapse (slot : Slot) (moments : List (Moment α)) (s : Simulation α) : Simulation α :=
  moments.foldl (meet slot) s

/-! ## In flight, and at the end -/

/-- A motion is in flight in a slot, and can have a tick. -/
structure Flying (slot : Slot) (s : Simulation α) : Prop where
  inMotion : s.inMotion = true
  taken : (s.flight slot).isSome = true
  unstopped : (tickSlot slot s).result = .ok ()

omit [Scalar α] in
/-- No motion is in flight. -/
structure Landed (s : Simulation α) : Prop where
  inMotion : s.inMotion = false
  empty : ∀ slot, s.flight slot = none

theorem Landed.tickSlot {s : Simulation α} (h : Landed s) (slot : Slot) :
    (tickSlot slot s).state = s := by
  rw [Simulation.tickSlot, tick_empty (h.empty slot)]
  rfl

omit [Scalar α] in
theorem Landed.withMachine {s : Simulation α} (h : Landed s) (machine : Machine α) :
    Landed { s with machine } := ⟨h.inMotion, h.empty⟩

omit [Scalar α] in
/-- A certain motion is in its slot, and simulation is on. -/
structure InFlight (slot : Slot) (motion : Motion α) (s : Simulation α) : Prop where
  enabled : s.enabled = true
  inMotion : s.inMotion = true
  flight : ∃ dueAt, s.flight slot = some { motion, dueAt }

namespace InFlight

variable {slot : Slot} {motion : Motion α} {s : Simulation α} {a : Advance α}

omit [Scalar α] in
theorem takeOff (on : s.enabled = true) (motion : Motion α) (slot : Slot) (now : α) :
    InFlight slot motion (s.takeOff motion slot now) where
  enabled := by cases slot <;> exact on
  inMotion := by cases slot <;> rfl
  flight := ⟨now, flight_takeOff _ _ _ _⟩

omit [Scalar α] in
theorem withMachine (h : InFlight slot motion s) (machine : Machine α) :
    InFlight slot motion { s with machine } := ⟨h.enabled, h.inMotion, h.flight⟩

/-- A tick that is not the last. -/
theorem goesOn (h : InFlight slot motion s) (advance : motion.advance s.machine.position = .ok a)
    (goes : a.goesOn = true) :
    ∃ s', tickSlot slot s = .done s' () ∧ InFlight slot a.motion s' ∧
      s'.machine.position = (s.moveTo a.position).machine.position := by
  obtain ⟨dueAt, flight⟩ := h.flight
  have ticked := tick_goesOn flight h.enabled advance goes
  refine ⟨_, tickSlot_of_tick ticked, ⟨?_, ?_, _, flight_setFlight_self _ _ _⟩, ?_⟩
  · simpa using h.enabled
  · simpa using h.inMotion
  · simp

/-- The last tick. -/
theorem ends (h : InFlight slot motion s) (advance : motion.advance s.machine.position = .ok a)
    (stops : a.goesOn = false) :
    ∃ s', tickSlot slot s = .done s' () ∧ Landed s' ∧
      s'.machine.position = (s.moveTo a.position).machine.position := by
  obtain ⟨dueAt, flight⟩ := h.flight
  have ticked := tick_ends flight h.enabled advance stops
  refine ⟨_, tickSlot_of_tick ticked, ⟨rfl, fun other => ?_⟩, rfl⟩
  cases other <;> rfl

/-- Either way, it is made. -/
theorem made (h : InFlight slot motion s) (advance : motion.advance s.machine.position = .ok a) :
    ∃ s', tickSlot slot s = .done s' () ∧
      s'.machine.position = (s.moveTo a.position).machine.position := by
  cases goes : a.goesOn with
  | true =>
    obtain ⟨s', ticked, -, position⟩ := h.goesOn advance goes
    exact ⟨s', ticked, position⟩
  | false =>
    obtain ⟨s', ticked, -, position⟩ := h.ends advance goes
    exact ⟨s', ticked, position⟩

theorem elapse_tick (h : InFlight slot motion s)
    (advance : motion.advance s.machine.position = .ok a) :
    tickSlot slot s = .done (s.elapse slot [.tick]) () := by
  obtain ⟨s', ticked, -⟩ := h.made advance
  show tickSlot slot s = .done (tickSlot slot s).state ()
  rw [ticked]
  rfl

theorem flying (h : InFlight slot motion s) (advance : motion.advance s.machine.position = .ok a) :
    Flying slot s where
  inMotion := h.inMotion
  taken := by
    obtain ⟨dueAt, flight⟩ := h.flight
    rw [flight]
    rfl
  unstopped := by
    rw [h.elapse_tick advance]
    rfl

end InFlight

/-- The motion in a slot is in flight until its `n`-th tick from now, and over then, whatever else
happens of that kind. -/
def Lasts (slot : Slot) (n : ℕ) (kind : Moment α → Prop) (s : Simulation α) : Prop :=
  ∀ moments : List (Moment α), (∀ m ∈ moments, kind m) →
    (ticksIn moments < n → Flying slot (elapse slot moments s)) ∧
      (n ≤ ticksIn moments → Landed (elapse slot moments s))

/-! ## Stages -/

/-- The stages of a flight of `n` ticks: what holds of it after each tick but the last, and once it
is over. -/
structure Stages (slot : Slot) (n : ℕ) (kind : Moment α → Prop) (stage : ℕ → Simulation α → Prop)
    (ended : Simulation α → Prop) : Prop where
  flying : ∀ {k s}, stage k s → Flying slot s
  tick : ∀ {k s}, stage k s → k + 1 < n → stage (k + 1) (tickSlot slot s).state
  last : ∀ {k s}, stage k s → k + 1 = n → ended (tickSlot slot s).state
  aside : ∀ {k s change}, kind (.aside change) → stage k s →
    stage k { s with machine := change s.machine }
  landed : ∀ {s}, ended s → Landed s
  behind : ∀ {s change}, kind (.aside change) → ended s → ended { s with machine := change s.machine }

namespace Stages

variable {slot : Slot} {n : ℕ} {kind : Moment α → Prop} {stage : ℕ → Simulation α → Prop}
  {ended : Simulation α → Prop} {s : Simulation α} {moments : List (Moment α)}

/-- Once it is over it stays so. -/
theorem run_over (h : Stages slot n kind stage ended) (hs : ended s)
    (kinds : ∀ m ∈ moments, kind m) : ended (elapse slot moments s) := by
  induction moments generalizing s with
  | nil => exact hs
  | cons moment rest ih =>
    obtain ⟨first, others⟩ := List.forall_mem_cons.1 kinds
    cases moment with
    | tick =>
      refine ih ?_ others
      show ended (tickSlot slot s).state
      rw [(h.landed hs).tickSlot]
      exact hs
    | aside change => exact ih (h.behind first hs) others

/-- From stage to stage with the ticks, and to the end with the last of them. -/
theorem run_from (h : Stages slot n kind stage ended) {k : ℕ} (hs : stage k s) (before : k < n)
    (kinds : ∀ m ∈ moments, kind m) :
    (k + ticksIn moments < n → stage (k + ticksIn moments) (elapse slot moments s)) ∧
      (n ≤ k + ticksIn moments → ended (elapse slot moments s)) := by
  induction moments generalizing k s with
  | nil => exact ⟨fun _ => hs, fun past => absurd past (not_le.2 before)⟩
  | cons moment rest ih =>
    obtain ⟨first, others⟩ := List.forall_mem_cons.1 kinds
    cases moment with
    | tick =>
      rw [ticksIn_tick, ← add_assoc, add_right_comm]
      rcases (Nat.succ_le_of_lt before).lt_or_eq with more | last
      · exact ih (h.tick hs more) more others
      · refine ⟨fun less => ?_, fun _ => ?_⟩
        · omega
        · exact h.run_over (s := (tickSlot slot s).state) (h.last hs last) others
    | aside change =>
      rw [ticksIn_aside]
      exact ih (h.aside first hs) before others

theorem run (h : Stages slot n kind stage ended) (hs : stage 0 s) (first : 0 < n)
    (kinds : ∀ m ∈ moments, kind m) :
    (ticksIn moments < n → stage (ticksIn moments) (elapse slot moments s)) ∧
      (n ≤ ticksIn moments → ended (elapse slot moments s)) := by
  simpa using h.run_from hs first kinds

theorem lasts (h : Stages slot n kind stage ended) (hs : stage 0 s) (first : 0 < n) :
    Lasts slot n kind s := by
  intro moments kinds
  obtain ⟨before, past⟩ := h.run hs first kinds
  exact ⟨fun less => h.flying (before less), fun le => h.landed (past le)⟩

end Stages

end GcodeSender.Simulation
