/-
# `GcodeSender.Proofs.Tracker.Play` — what playing motions can change

Ticks, and the starting of motions that wait, happen inside operations that are
about something else: a command is registered, the clock is read.  This module
says once what they can do, so that every later proof reads it off.

    Machine.Played ls m m'      modes, feed and run state stay; the lines `ls`
                                were handed over to be simulated, in that order
    Simulation.Played ls s s'   the same of its machine; simulation stays on or off
    Tracker.Played ls t t'      the same of its simulation; `ls` left the queue
                                at its head; ledger and counts stay

Each relation composes (`trans`), the lists one behind the other.  The main
statements are `startWaiting_played`, `drain_played`, `tick_played` and
`update_played`: whatever happens in them, also where a fault ends them early,
the lines that left the queue are those handed over.
-/
import GcodeSender.Tracker

namespace GcodeSender

open Scalar Gcode

variable {α : Type}

/-! ## The lines handed over, read off a journal -/

namespace Journal

@[simp] theorem starts_nil : starts ([] : Journal α) = [] := rfl

@[simp] theorem starts_note_started (j : Journal α) (q : QueuedMotion α) :
    (j.note (.motionStarted q)).starts = j.starts ++ [q] := by
  simp [starts]

@[simp] theorem starts_note_update (j : Journal α) (u : Update α) :
    (j.note (.update u)).starts = j.starts := by
  simp [starts]

@[simp] theorem starts_note_log (j : Journal α) (e : LogEntry α) :
    (j.note (.log e)).starts = j.starts := by
  simp [starts]

@[simp] theorem starts_note_ended (j : Journal α) : (j.note .motionEnded).starts = j.starts := by
  simp [starts]

end Journal

/-! ## The machine -/

namespace Machine

/-- The lines handed over so far. -/
def starts (m : Machine α) : List (QueuedMotion α) := m.journal.starts

@[simp] theorem starts_announce (m : Machine α) (topic : Topic) (value : Payload α) :
    (m.announce topic value).starts = m.starts := by
  simp [announce, note, starts]

@[simp] theorem starts_log (m : Machine α) (level : Level) (message : Message α) :
    (m.log level message).starts = m.starts := by
  simp [log, note, starts]

@[simp] theorem starts_logText (m : Machine α) (level : Level) (s : String) :
    (m.logText level s).starts = m.starts := by
  simp [logText]

/-- The machine was moved and wrote notices, and the lines `ls` were handed over meanwhile. -/
structure Played (ls : List (QueuedMotion α)) (m m' : Machine α) : Prop where
  modes : m'.modes = m.modes
  feed : m'.feed = m.feed
  run : m'.run = m.run
  starts : m'.starts = m.starts ++ ls

namespace Played

theorem refl (m : Machine α) : Played [] m m := ⟨rfl, rfl, rfl, by simp⟩

theorem trans {as bs : List (QueuedMotion α)} {m m' m'' : Machine α}
    (h : Played as m m') (h' : Played bs m' m'') : Played (as ++ bs) m m'' where
  modes := h'.modes.trans h.modes
  feed := h'.feed.trans h.feed
  run := h'.run.trans h.run
  starts := by rw [h'.starts, h.starts, List.append_assoc]

theorem log (m : Machine α) (level : Level) (message : Message α) :
    Played [] m (m.log level message) := ⟨rfl, rfl, rfl, by simp⟩

theorem ended (m : Machine α) : Played [] m (m.note .motionEnded) :=
  ⟨rfl, rfl, rfl, by simp [note, Machine.starts]⟩

theorem started (m : Machine α) (q : QueuedMotion α) : Played [q] m (m.note (.motionStarted q)) :=
  ⟨rfl, rfl, rfl, by simp [note, Machine.starts]⟩

variable [Scalar α]

/-- An assignment to the position is announced, and changes nothing else that is followed. -/
theorem setPosition (m : Machine α) (t : Target α) : Played [] m (m.setPosition t) := by
  rw [Machine.setPosition]
  split
  · exact ⟨rfl, rfl, rfl, by simp [announcePosition, Axis.all, Machine.starts, announce, note]⟩
  · exact refl m

end Played

@[simp] theorem starts_setPosition [Scalar α] (m : Machine α) (t : Target α) :
    (m.setPosition t).starts = m.starts := by
  rw [(Played.setPosition m t).starts, List.append_nil]

end Machine

/-! ## The simulation -/

namespace Simulation

variable [Scalar α]

/-- All that one tick of a slot can do. -/
inductive Ticked (slot : Slot) (s : Simulation α) : Step (Simulation α) Bool → Prop
  /-- Nothing is in the slot. -/
  | empty : s.flight slot = none → Ticked slot s (.done s false)
  /-- Simulation is off: the motion stays where it is, cancelled. -/
  | cancelled {f : Flight α} : s.flight slot = some f → s.enabled = false →
      Ticked slot s (.done (s.setFlight slot (some { f with cancelled := true })) false)
  | fault {f : Flight α} (cause : Fault) : s.flight slot = some f → s.enabled = true →
      f.motion.advance s.machine.position = .error cause → Ticked slot s (.stopped s cause)
  | goesOn {f : Flight α} (a : Advance α) : s.flight slot = some f → s.enabled = true →
      f.motion.advance s.machine.position = .ok a → a.goesOn = true →
      Ticked slot s (.done
        ({ s with machine := s.machine.setPosition (.ofPosition a.position) }.setFlight slot
          (some { f with motion := a.motion, dueAt := f.dueAt + s.tickInterval })) false)
  | ends {f : Flight α} (a : Advance α) : s.flight slot = some f → s.enabled = true →
      f.motion.advance s.machine.position = .ok a → a.goesOn = false →
      Ticked slot s (.done
        { s with machine := s.machine.setPosition (.ofPosition a.position) }.endMotion true)

theorem tick_ticked (slot : Slot) (s : Simulation α) : Ticked slot s (tick slot s) := by
  rw [tick]
  split
  next h => exact .empty h
  next f h =>
    split
    next on =>
      split
      next cause failed => exact .fault cause h on failed
      next a ha =>
        dsimp only
        split
        next goes => exact .goesOn a h on ha goes
        next stops => exact .ends a h on ha (by simpa using stops)
    next off => exact .cancelled h (by simpa using off)

/-- The machine was played onto, and simulation stays on or off. -/
structure Played (ls : List (QueuedMotion α)) (s s' : Simulation α) : Prop where
  machine : Machine.Played ls s.machine s'.machine
  enabled : s'.enabled = s.enabled
  tickMs : s'.tickMs = s.tickMs

namespace Played

omit [Scalar α] in
theorem refl (s : Simulation α) : Played [] s s := ⟨.refl _, rfl, rfl⟩

omit [Scalar α] in
theorem trans {as bs : List (QueuedMotion α)} {s s' s'' : Simulation α}
    (h : Played as s s') (h' : Played bs s' s'') : Played (as ++ bs) s s'' where
  machine := h.machine.trans h'.machine
  enabled := h'.enabled.trans h.enabled
  tickMs := h'.tickMs.trans h.tickMs

omit [Scalar α] in
theorem setFlight (s : Simulation α) (slot : Slot) (f : Option (Flight α)) :
    Played [] s (s.setFlight slot f) := by
  cases slot <;> exact ⟨.refl _, rfl, rfl⟩

omit [Scalar α] in
theorem endMotion (s : Simulation α) : Played [] s s.endMotion := ⟨.ended _, rfl, rfl⟩

theorem setPosition (s : Simulation α) (t : Target α) :
    Played [] s { s with machine := s.machine.setPosition t } := ⟨.setPosition _ _, rfl, rfl⟩

theorem tick (slot : Slot) (s : Simulation α) : Played [] s (tick slot s).state := by
  have h := tick_ticked slot s
  generalize Simulation.tick slot s = r at h ⊢
  cases h with
  | empty _ => exact refl s
  | cancelled _ _ => exact setFlight s slot _
  | fault _ _ _ _ => exact refl s
  | goesOn a _ _ _ _ => exact (setPosition s _).trans (setFlight _ slot _)
  | ends a _ _ _ _ => exact (setPosition s _).trans (endMotion _)

theorem begin (motion : Motion α) (slot : Slot) (now : α) (s : Simulation α) :
    Played [] s (s.begin motion slot now).state := by
  have put : Played [] s
      ({ s with inMotion := true }.setFlight slot (some { motion, dueAt := now })) := by
    cases slot <;> exact ⟨.refl _, rfl, rfl⟩
  have logged : ∀ s : Simulation α, Played [] s (s.log .debug (.simulating motion)) :=
    fun s => ⟨.log _ _ _, rfl, rfl⟩
  exact (put.trans (logged _)).trans (tick slot _)

omit [Scalar α] in
theorem refuse (refusal : Refusal α) (s : Simulation α) : Played [] s (s.refuse refusal) := by
  rw [Simulation.refuse]
  split
  · exact ⟨.log _ _ _, rfl, rfl⟩
  · exact refl s

theorem beginPlanned (planned : Except (Refusal α) (Motion α)) (slot : Slot) (now : α)
    (s : Simulation α) : Played [] s (s.beginPlanned planned slot now).state := by
  unfold Simulation.beginPlanned
  split
  · exact refuse _ s
  · exact begin _ slot now s

end Played

end Simulation

/-! ## What a line asks for -/

namespace QueuedMotion

/-- The slot that the motion of a line goes to. -/
def slot (q : QueuedMotion α) : Slot := if q.isJog then .jog else .work

variable [Scalar α]

/-- The motion that a line asks for from a position, by the modes and the feed it carries; `none`
for a rapid move. -/
def plan (q : QueuedMotion α) (position : Position α) (tickMs : α) :
    Except Fault (Option (Except (Refusal α) (Motion α))) :=
  let move : Move α := .ofWords q.words
  let straight := (planLinear position move.target q.modes.distance q.feed tickMs).map Motion.linear
  if q.isJog then .ok (some straight)
  else
    match q.modes.motion with
    | .rapid => .ok none
    | .linear => .ok (some straight)
    | .arcClockwise | .arcCounterClockwise =>
      match planArc position move q.modes q.feed tickMs with
      | .error fault => .error fault
      | .ok arc => .ok (some (arc.map Motion.arc))

end QueuedMotion

/-! ## The tracker -/

namespace Tracker

variable [Scalar α]

/-- A line that is handed over is noted, and what it asks for is begun.  Of the machine, only its
position counts. -/
theorem start_eq (now : α) (q : QueuedMotion α) (s : Simulation α) :
    start now q s =
      let s' := { s with machine := s.machine.note (.motionStarted q) }
      match q.plan s.machine.position s.tickMs with
      | .error fault => .stopped s' fault
      | .ok none => .done s' ()
      | .ok (some planned) => (s'.beginPlanned planned q.slot now).mapResult fun _ => () := by
  rw [start, QueuedMotion.plan, QueuedMotion.slot]
  dsimp only
  split
  · rfl
  · rw [Simulation.dispatch]
    cases q.modes.motion with
    | rapid => rfl
    | linear => rfl
    | arcClockwise | arcCounterClockwise =>
      dsimp only [Simulation.planArc, Machine.note]
      cases planArc s.machine.position (.ofWords q.words) q.modes q.feed s.tickMs <;> rfl

/-- Whatever a line comes to, it has been handed over. -/
theorem start_played (now : α) (q : QueuedMotion α) (s : Simulation α) :
    Simulation.Played [q] s (start now q s).state := by
  have noted : Simulation.Played [q] s { s with machine := s.machine.note (.motionStarted q) } :=
    ⟨.started _ _, rfl, rfl⟩
  rw [start_eq]
  dsimp only
  split
  · exact noted
  · exact noted
  · exact noted.trans (.beginPlanned _ _ _ _)

/-- Lines are handed over from the head of the queue, and the others stay. -/
theorem startWaiting_played (now : α) (queue : List (QueuedMotion α)) (s : Simulation α) :
    ∃ ls, queue = ls ++ (startWaiting now queue s).state.2 ∧
      Simulation.Played ls s (startWaiting now queue s).state.1 := by
  induction queue generalizing s with
  | nil => exact ⟨[], rfl, .refl s⟩
  | cons q rest ih =>
    rw [startWaiting]
    split
    · exact ⟨[], rfl, .refl s⟩
    · have first := start_played now q s
      split
      next s' _ heq =>
        rw [heq] at first
        obtain ⟨ls, hqueue, hplayed⟩ := ih s'
        exact ⟨q :: ls, by rw [List.cons_append, ← hqueue], first.trans hplayed⟩
      next s' fault heq =>
        rw [heq] at first
        exact ⟨[q], rfl, first⟩

/-- Motions were played: the lines `ls` left the queue at its head and were handed over. -/
structure Played (ls : List (QueuedMotion α)) (t t' : Tracker α) : Prop where
  simulation : Simulation.Played ls t.simulation t'.simulation
  queue : t.queue = ls ++ t'.queue
  ledger : t'.ledger = t.ledger
  answeredOk : t'.answeredOk = t.answeredOk
  answeredError : t'.answeredError = t.answeredError
  draining : t'.draining = t.draining

omit [Scalar α] in
theorem Played.refl (t : Tracker α) : Played [] t t := ⟨.refl _, rfl, rfl, rfl, rfl, rfl⟩

omit [Scalar α] in
theorem Played.trans {as bs : List (QueuedMotion α)} {t t' t'' : Tracker α}
    (h : Played as t t') (h' : Played bs t' t'') : Played (as ++ bs) t t'' where
  simulation := h.simulation.trans h'.simulation
  queue := by rw [h.queue, h'.queue, List.append_assoc]
  ledger := h'.ledger.trans h.ledger
  answeredOk := h'.answeredOk.trans h.answeredOk
  answeredError := h'.answeredError.trans h.answeredError
  draining := h'.draining.trans h.draining

theorem drain_played (now : α) (t : Tracker α) : ∃ ls, Played ls t (drain now t).state := by
  rw [drain]
  split
  next => exact ⟨[], .refl t⟩
  next idle =>
    obtain ⟨ls, hqueue, hplayed⟩ := startWaiting_played now t.queue t.simulation
    have cleared : false = t.draining := by simpa using idle
    exact ⟨ls, hplayed, hqueue, rfl, rfl, rfl, cleared⟩

theorem tick_played (slot : Slot) (now : α) (t : Tracker α) :
    ∃ ls, Played ls t (tick slot now t).state := by
  have moved := Simulation.Played.tick slot t.simulation
  rw [tick]
  split
  next simulation ended heq =>
    rw [heq] at moved
    have first : Played [] t { t with simulation } := ⟨moved, rfl, rfl, rfl, rfl, rfl⟩
    dsimp only
    split
    · obtain ⟨ls, hplayed⟩ := drain_played now { t with simulation }
      exact ⟨ls, first.trans hplayed⟩
    · exact ⟨[], first⟩
  next simulation fault heq =>
    rw [heq] at moved
    exact ⟨[], moved, rfl, rfl, rfl, rfl, rfl⟩

theorem settleSlot_played (slot : Slot) (now : α) (t : Tracker α) :
    ∃ ls, Played ls t (t.settleSlot slot now).state := by
  rw [settleSlot]
  generalize t.simulation.tickAllowance slot now = limit
  induction limit generalizing t with
  | zero => exact ⟨[], .refl t⟩
  | succ limit ih =>
    rw [settle]
    split
    · obtain ⟨as, first⟩ := tick_played slot now t
      split
      next t' _ heq =>
        rw [heq] at first
        obtain ⟨bs, hplayed⟩ := ih t'
        exact ⟨as ++ bs, first.trans hplayed⟩
      next => exact ⟨as, first⟩
    · exact ⟨[], .refl t⟩

theorem update_played (now : α) (t : Tracker α) : ∃ ls, Played ls t (t.update now).state := by
  obtain ⟨as, first⟩ := settleSlot_played .work now t
  rw [update, Step.andThen]
  split
  next =>
    obtain ⟨bs, second⟩ := settleSlot_played .jog now (t.settleSlot .work now).state
    exact ⟨as ++ bs, first.trans second⟩
  next => exact ⟨as, first⟩

end Tracker

end GcodeSender
