/-
# `GcodeSender.Motion.Simulation` — moving the machine between reports

The machine reports its position a few times a second.  In between, planned
motions are played tick by tick onto the machine's state, and each report
overwrites what was played.

A motion in flight occupies one of two slots, one for work and one for jogs,
so that a jog can be cancelled on its own.  Its first tick is made when it
begins; after that a tick is due whenever the clock has reached `dueAt`, and a
tick that keeps the motion going moves `dueAt` on by the tick interval.

    tick, simulation disabled      the flight is cancelled and stays in its slot
    tick, motion goes on           the machine moves, the next tick is due later
    tick, motion ends              the machine moves, both slots are emptied
    tick, angle infinite           a fault; nothing has moved

`settle` is the one loop: it makes the due ticks of a slot, at most as many as
an allowance says.  In exact arithmetic a motion in flight has at most
`(now − dueAt) / interval + 1` due ticks.  Sums of rounded intervals can fall
behind their exact value, so `tickAllowance` adds a reserve.  What a tick goes
by is no more than sixteen words of the machine, so a loop that has come to the
end of the reserve has been in one state twice, and would never end.
-/
import GcodeSender.Machine.Basic
import GcodeSender.Motion.Plan

namespace GcodeSender

open Scalar Gcode

variable {α : Type} [Scalar α]

/-- A motion in flight. -/
structure Flight (α : Type) where
  motion : Motion α
  dueAt : α
  cancelled : Bool := false
  deriving DecidableEq, Repr

/-- The two places that a motion in flight can occupy. -/
inductive Slot where
  | work
  | jog
  deriving DecidableEq, Repr

/-- A machine together with the motions that are played onto it. -/
structure Simulation (α : Type) where
  machine : Machine α
  tickMs : α
  enabled : Bool := false
  inMotion : Bool := false
  work : Option (Flight α) := none
  jog : Option (Flight α) := none
  deriving DecidableEq, Repr

/-- Repeat a step while it is due, at most `limit` times, and stop at a fault. -/
def settle {σ : Type} (due : σ → Bool) (step : σ → Step σ Unit) : Nat → σ → Step σ Unit
  | 0, s => .done s ()
  | limit + 1, s =>
    if due s then
      match step s with
      | ⟨s', .ok _⟩ => settle due step limit s'
      | stopped => stopped
    else .done s ()

namespace Simulation

/-- Nothing in flight, on a fresh machine. -/
def fresh (enabled : Bool) (tickMs : α) : Simulation α :=
  { machine := .fresh, tickMs, enabled }

/-- The time between ticks, in seconds. -/
def tickInterval (s : Simulation α) : α := s.tickMs / nat 1000

/-- What occupies a slot. -/
def flight (s : Simulation α) : Slot → Option (Flight α)
  | .work => s.work
  | .jog => s.jog

/-- Put something into a slot. -/
def setFlight (s : Simulation α) (slot : Slot) (f : Option (Flight α)) : Simulation α :=
  match slot with
  | .work => { s with work := f }
  | .jog => { s with jog := f }

/-- Log a message. -/
def log (s : Simulation α) (level : Level) (message : Message α) : Simulation α :=
  { s with machine := s.machine.log level message }

/-- Log a text. -/
def logText (s : Simulation α) (level : Level) (message : String) : Simulation α :=
  s.log level (.text message)

/-- Is a jog being simulated? -/
def jogActive (s : Simulation α) : Bool := s.jog.isSome

/-- Empty both slots. -/
def stop (s : Simulation α) : Simulation α :=
  { s with inMotion := false, work := none, jog := none }

/-- A motion has ended: empty both slots and say so. -/
def endMotion (s : Simulation α) : Simulation α :=
  { s.stop with machine := s.machine.note .motionEnded }

/-! ## Ticks -/

/-- One tick of what occupies a slot.  Did the motion end? -/
def tick (slot : Slot) (s : Simulation α) : Step (Simulation α) Bool :=
  match s.flight slot with
  | none => .done s false
  | some f =>
    if s.enabled then
      match f.motion.advance s.machine.position with
      | .error fault => .stopped s fault
      | .ok a =>
        let moved := { s with machine := s.machine.setPosition (.ofPosition a.position) }
        if a.goesOn then
          .done
            (moved.setFlight slot
              (some { f with motion := a.motion, dueAt := f.dueAt + s.tickInterval }))
            false
        else .done moved.endMotion true
    else .done (s.setFlight slot (some { f with cancelled := true })) false

/-- Is a tick of a slot due? -/
def due (slot : Slot) (now : α) (s : Simulation α) : Bool :=
  match s.flight slot with
  | none => false
  | some f => !f.cancelled && !less now f.dueAt

/-- Ticks in reserve for rounded intervals: as many as sixteen words of 64 bits have values. -/
def tickReserve : Nat := Nat.pow (Nat.pow 2 64) 16

/-- How many ticks of a slot are made at most in one update: those that are due in exact
arithmetic, and the reserve. -/
def tickAllowance (slot : Slot) (now : α) (s : Simulation α) : Nat :=
  match s.flight slot with
  | none => 0
  | some f => wholePart ((now - f.dueAt) / s.tickInterval) + tickReserve

/-- Make the due ticks of a slot. -/
def settleSlot (slot : Slot) (now : α) (s : Simulation α) : Step (Simulation α) Unit :=
  settle (due slot now) (fun s => (tick slot s).mapResult fun _ => ()) (s.tickAllowance slot now) s

/-- Make every due tick, first of the work slot, then of the jog slot. -/
def update (now : α) (s : Simulation α) : Step (Simulation α) Unit :=
  (s.settleSlot .work now).andThen fun _ s => s.settleSlot .jog now

/-! ## Motions -/

/-- Put a motion into a slot and make its first tick. -/
def begin (motion : Motion α) (slot : Slot) (now : α) (s : Simulation α) :
    Step (Simulation α) Unit :=
  let s := { s with inMotion := true }.setFlight slot (some { motion, dueAt := now })
  (tick slot (s.log .debug (.simulating motion))).mapResult fun _ => ()

/-- Log why a move is not simulated. -/
def refuse (refusal : Refusal α) (s : Simulation α) : Simulation α :=
  match refusal.message? with
  | some message => s.log .warning message
  | none => s

/-- Begin a planned motion, or log why there is none.  Did a motion begin? -/
def beginPlanned (planned : Except (Refusal α) (Motion α)) (slot : Slot) (now : α)
    (s : Simulation α) : Step (Simulation α) Bool :=
  match planned with
  | .error refusal => .done (s.refuse refusal) false
  | .ok motion => (s.begin motion slot now).mapResult fun _ => true

/-- The straight motion to a target from where the machine is. -/
def planLinear (s : Simulation α) (target : Target α) (mode : DistanceMode) (feed : α) :
    Except (Refusal α) (LinearMotion α) :=
  GcodeSender.planLinear s.machine.position target mode feed s.tickMs

/-- The arc of a move from where the machine is. -/
def planArc (s : Simulation α) (move : Move α) (modes : Modes) (feed : α) :
    Except Fault (Except (Refusal α) (ArcMotion α)) :=
  GcodeSender.planArc s.machine.position move modes feed s.tickMs

/-- Simulate a move by its motion mode.  Rapid moves are not simulated.  Did a motion begin? -/
def dispatch (move : Move α) (modes : Modes) (feed : α) (now : α) (s : Simulation α) :
    Step (Simulation α) Bool :=
  match modes.motion with
  | .rapid => .done s false
  | .linear =>
    s.beginPlanned ((s.planLinear move.target modes.distance feed).map .linear) .work now
  | .arcClockwise | .arcCounterClockwise =>
    match s.planArc move modes feed with
    | .error fault => .stopped s fault
    | .ok planned => s.beginPlanned (planned.map .arc) .work now

/-- Simulate a jog: straight, in the slot for jogs.  Did a motion begin? -/
def jogTo (target : Target α) (mode : DistanceMode) (feed : α) (now : α) (s : Simulation α) :
    Step (Simulation α) Bool :=
  s.beginPlanned ((s.planLinear target mode feed).map .linear) .jog now

/-- Stop the jog in flight.  Was there one? -/
def cancelJog (s : Simulation α) : Simulation α × Bool :=
  if s.jogActive then ({ s with inMotion := false, jog := none }, true) else (s, false)

end Simulation

end GcodeSender
