/-
# `GcodeSender.Proofs.Tracker.Turns` — the few ways in which a machine changes

Whatever is done to a tracker, its machine changes in five ways only, and every
operation is a sequence of them.

    note       something is written down that announces nothing
    position   coordinates are assigned: by a report, or by a tick
    run        the run state is assigned: by a report
    words      the G and F words of a standard line are taken up and announced

A property of the machine that each of them keeps is kept by every history,
and is proved without another look at the queue, the slots or the calls
between them.
-/
import Mathlib.Logic.Relation
import GcodeSender.Proofs.Tracker.History

namespace GcodeSender

open Scalar Gcode Relation

variable {α : Type} [Scalar α]

namespace Machine

/-- One change of a machine. -/
inductive Turn : Machine α → Machine α → Prop
  | note (m : Machine α) (n : Notice α) : (∀ u, n ≠ .update u) → Turn m (m.note n)
  | position (m : Machine α) (t : Target α) : Turn m (m.setPosition t)
  | run (m : Machine α) (run : RunState) : Turn m (m.setRun run)
  | words (m : Machine α) (words : List Word) : Turn m (Tracker.takeUp words m)

/-- Any number of changes, one after the other. -/
abbrev Turns : Machine α → Machine α → Prop := ReflTransGen Turn

theorem Turns.log (m : Machine α) (level : Level) (message : Message α) :
    m.Turns (m.log level message) := .single (.note m _ fun _ => nofun)

theorem Turns.logText (m : Machine α) (level : Level) (s : String) : m.Turns (m.logText level s) :=
  .log m level (.text s)

theorem Turns.ended (m : Machine α) : m.Turns (m.note .motionEnded) :=
  .single (.note m _ fun _ => nofun)

theorem Turns.started (m : Machine α) (q : QueuedMotion α) : m.Turns (m.note (.motionStarted q)) :=
  .single (.note m _ fun _ => nofun)

theorem Turns.receiveReport (m : Machine α) (report : Bytes) :
    m.Turns (m.receiveReport report) := by
  have placed : m.Turns (m.receivePosition report) := by
    rw [receivePosition]
    split
    · exact .single (.position m _)
    · exact .refl
  rw [Machine.receiveReport]
  split
  · refine placed.trans ?_
    rw [receiveToken]
    split
    · exact .single (.run _ _)
    · exact Turns.logText _ _ _
  · exact Turns.logText m _ _

/-- A message assigns a position and a run state, or is logged. -/
theorem Turns.receive (m : Machine α) (message : Bytes) : m.Turns (m.receive message) := by
  rw [Machine.receive]
  split
  · exact Turns.receiveReport m message
  · split
    · exact Turns.logText m _ _
    · split
      · exact Turns.logText m _ _
      · split
        · exact Turns.logText m _ _
        · exact Turns.logText m _ _

end Machine

open Machine (Turns)

/-! ## Simulated motion -/

namespace Simulation

theorem tick_turns (slot : Slot) (s : Simulation α) :
    Turns s.machine (tick slot s).state.machine := by
  have ticked := tick_ticked slot s
  generalize tick slot s = outcome at ticked ⊢
  cases ticked with
  | empty _ => exact .refl
  | cancelled _ _ => cases slot <;> exact .refl
  | fault _ _ _ _ => exact .refl
  | goesOn a _ _ _ _ => cases slot <;> exact .single (.position _ _)
  | ends a _ _ _ _ =>
    have moved : Turns s.machine (s.machine.setPosition (.ofPosition a.position)) :=
      .single (.position _ _)
    exact moved.trans (Turns.ended _)

theorem begin_turns (motion : Motion α) (slot : Slot) (now : α) (s : Simulation α) :
    Turns s.machine (s.begin motion slot now).state.machine := by
  have logged : Turns s.machine
      ((({ s with inMotion := true }.setFlight slot (some { motion, dueAt := now })).log .debug
        (.simulating motion))).machine := by
    cases slot <;> exact Turns.log _ _ _
  exact logged.trans (tick_turns slot _)

theorem beginPlanned_turns (planned : Except (Refusal α) (Motion α)) (slot : Slot) (now : α)
    (s : Simulation α) : Turns s.machine (s.beginPlanned planned slot now).state.machine := by
  cases planned with
  | ok motion => exact begin_turns motion slot now s
  | error refusal =>
    show Turns s.machine (s.refuse refusal).machine
    rw [refuse]
    split
    · exact Turns.log _ _ _
    · exact .refl

end Simulation

namespace Tracker

open Simulation

theorem start_turns (now : α) (q : QueuedMotion α) (s : Simulation α) :
    Turns s.machine (start now q s).state.machine := by
  have noted : Turns s.machine (s.machine.note (.motionStarted q)) := Turns.started _ q
  rw [start_eq]
  dsimp only
  split
  · exact noted
  · exact noted
  next planned _ =>
    exact noted.trans (beginPlanned_turns planned q.slot now
      { s with machine := s.machine.note (.motionStarted q) })

theorem startWaiting_turns (now : α) (queue : List (QueuedMotion α)) (s : Simulation α) :
    Turns s.machine (startWaiting now queue s).state.1.machine := by
  induction queue generalizing s with
  | nil => exact .refl
  | cons q rest ih =>
    rw [startWaiting]
    split
    · exact .refl
    · have first := start_turns now q s
      split
      next s' _ started =>
        rw [started] at first
        exact first.trans (ih s')
      next s' fault stopped =>
        rw [stopped] at first
        exact first

theorem drain_turns (now : α) (t : Tracker α) : Turns t.machine (drain now t).state.machine := by
  rw [drain]
  split
  · exact .refl
  · exact startWaiting_turns now t.queue t.simulation

theorem tick_turns (slot : Slot) (now : α) (t : Tracker α) :
    Turns t.machine (tick slot now t).state.machine := by
  have moved := Simulation.tick_turns slot t.simulation
  rw [tick]
  split
  next simulation ended ticked =>
    rw [ticked] at moved
    dsimp only
    split
    · exact moved.trans (drain_turns now { t with simulation })
    · exact moved
  next simulation fault ticked =>
    rw [ticked] at moved
    exact moved

theorem settleSlot_turns (slot : Slot) (now : α) (t : Tracker α) :
    Turns t.machine (t.settleSlot slot now).state.machine := by
  rw [settleSlot]
  generalize t.simulation.tickAllowance slot now = limit
  induction limit generalizing t with
  | zero => exact .refl
  | succ limit ih =>
    rw [settle]
    split
    · have first := tick_turns slot now t
      split
      next t' _ ticked =>
        rw [ticked] at first
        exact first.trans (ih t')
      next => exact first
    · exact .refl

/-! ## Events -/

theorem update_turns (now : α) (t : Tracker α) : Turns t.machine (t.update now).state.machine := by
  have work := settleSlot_turns .work now t
  rw [update, Step.andThen]
  split
  · exact work.trans (settleSlot_turns .jog now (t.settleSlot .work now).state)
  · exact work

theorem cancelJogs_turns (now : α) (t : Tracker α) :
    Turns t.machine (cancelJogs now t).state.machine := by
  rw [cancelJogs_eq]
  dsimp only
  split
  · exact (Turns.logText t.machine .debug _).trans (drain_turns now (logText
      { t with
        queue := t.queue.filter (!·.isJog)
        simulation := { t.simulation with inMotion := false, jog := none } }
      .debug "Jog simulation cancelled."))
  · exact .refl

theorem noted_turns (command : Bytes) (t : Tracker α) :
    Turns t.machine (t.noted command).machine := by
  have logged : ∀ s : String, Turns t.machine
      (logText { t with ledger := t.ledger.send command } .error s).machine :=
    fun s => Turns.logText t.machine _ s
  rw [noted]
  dsimp only
  split
  · exact .refl
  · split
    · split
      · exact logged _
      · exact .refl
    · split
      · exact .refl
      · split
        · exact .refl
        · exact logged _
        next words _ => exact .single (.words t.machine words)

theorem register_turns (now : α) (command : Bytes) (t : Tracker α) :
    Turns t.machine (register now command t).state.machine := by
  have registered := register_registered now command t
  have noted := noted_turns command t
  generalize register now command t = outcome at registered ⊢
  cases registered with
  | counted r _ _ _ => exact noted
  | moves q _ _ =>
    exact noted.trans
      (drain_turns now { t.noted command with queue := (t.noted command).queue ++ [q] })
  | cancels _ _ => exact cancelJogs_turns now t

theorem receive_turns (message : Bytes) (t : Tracker α) :
    Turns t.machine (receive message t).machine := by
  have answered : ∀ t : Tracker α, Turns t.machine (answer t).machine := by
    intro t
    simp only [answer]
    split
    · exact .refl
    · exact Turns.logText t.machine _ _
  rw [receive]
  split
  · exact answered { t with answeredOk := t.answeredOk + 1 }
  · split
    · exact (Turns.logText t.machine .warning _).trans
        (answered (logText { t with answeredError := t.answeredError + 1 } .warning
          ("Grbl reported " ++ message.trim.lossyText)))
    · split
      · exact .refl
      · exact Turns.receive t.machine _

theorem toggle_turns (t : Tracker α) : Turns t.machine t.toggle.1.machine := by
  rw [toggle_eq]
  split <;> exact Turns.logText t.machine _ _

/-- Whatever an event comes to, also where it is stopped half-way, it is a sequence of turns. -/
theorem apply_turns (e : Event α) (t : Tracker α) : Turns t.machine (e.apply t).state.machine := by
  cases e with
  | register now command => exact register_turns now command t
  | receive message => exact receive_turns message t
  | update now => exact update_turns now t
  | toggle => exact toggle_turns t

theorem after_turns (events : List (Event α)) (t : Tracker α) :
    Turns t.machine (t.after events).machine := by
  induction events generalizing t with
  | nil => exact .refl
  | cons e rest ih => exact (apply_turns e t).trans (ih (e.apply t).state)

end Tracker

end GcodeSender
