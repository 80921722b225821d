/-
# `GcodeSender.Proofs.Tracker.Threads` — a tracker concerns no thread

The thread that serves a port is the connection's.  A tracker notes updates, log
entries, lines handed over and motions that end; whatever it is told, and
wherever a fault stops it, its notices say nothing of a thread.

    m.threads    the thread events that a machine's journal holds

Each operation leaves `threads` as it was.  The lemmas follow the calls, from a
single notice up to `threads_register`, `threads_receive`, `threads_update` and
`threads_toggle`.
-/
import GcodeSender.Proofs.Tracker.Flight

namespace GcodeSender

open Scalar Gcode

variable {α : Type}

/-! ## Thread events, read off a journal -/

namespace Journal

theorem threadEvents_append (newer older : Journal α) :
    threadEvents (newer ++ older) = older.threadEvents ++ newer.threadEvents := by
  simp [threadEvents, notices]

@[simp] theorem threadEvents_note_thread (j : Journal α) (e : ThreadEvent) :
    (j.note (.thread e)).threadEvents = j.threadEvents ++ [e] := by
  simp [threadEvents]

@[simp] theorem threadEvents_note_update (j : Journal α) (u : Update α) :
    (j.note (.update u)).threadEvents = j.threadEvents := by
  simp [threadEvents]

@[simp] theorem threadEvents_note_log (j : Journal α) (e : LogEntry α) :
    (j.note (.log e)).threadEvents = j.threadEvents := by
  simp [threadEvents]

@[simp] theorem threadEvents_note_started (j : Journal α) (q : QueuedMotion α) :
    (j.note (.motionStarted q)).threadEvents = j.threadEvents := by
  simp [threadEvents]

@[simp] theorem threadEvents_note_ended (j : Journal α) :
    (j.note .motionEnded).threadEvents = j.threadEvents := by
  simp [threadEvents]

/-- A label concerns updates alone. -/
theorem threadEvents_putUnder (label : String) (j : Journal α) :
    threadEvents (j.map (putUnder label)) = j.threadEvents := by
  induction j with
  | nil => rfl
  | cons n rest ih =>
    have joined : ∀ (n : Notice α) (rest : Journal α),
        threadEvents (n :: rest) = rest.threadEvents ++ threadEvents [n] := fun n rest =>
      threadEvents_append [n] rest
    rw [List.map_cons, joined, joined n, ih]
    cases n <;> rfl

end Journal

/-! ## The machine -/

namespace Machine

/-- The thread events noted so far. -/
def threads (m : Machine α) : List ThreadEvent := m.journal.threadEvents

@[simp] theorem threads_announce (m : Machine α) (topic : Topic) (value : Payload α) :
    (m.announce topic value).threads = m.threads := by
  simp [announce, note, threads]

@[simp] theorem threads_log (m : Machine α) (level : Level) (message : Message α) :
    (m.log level message).threads = m.threads := by
  simp [log, note, threads]

@[simp] theorem threads_logText (m : Machine α) (level : Level) (s : String) :
    (m.logText level s).threads = m.threads := threads_log m level _

variable [Scalar α]

@[simp] theorem threads_setPosition (m : Machine α) (t : Target α) :
    (m.setPosition t).threads = m.threads := by
  rw [setPosition]
  split
  · simp [announcePosition, Axis.all, threads, announce, note]
  · rfl

@[simp] theorem threads_setFeed (m : Machine α) (feed : α) :
    (m.setFeed feed).threads = m.threads := by
  rw [setFeed]
  split
  · rfl
  · exact threads_announce m _ _

omit [Scalar α] in
@[simp] theorem threads_setRun (m : Machine α) (run : RunState) :
    (m.setRun run).threads = m.threads := by
  rw [setRun]
  split
  · rfl
  · exact threads_announce { m with run, changed := true } _ _

theorem threads_receiveReport (m : Machine α) (report : Bytes) :
    (m.receiveReport report).threads = m.threads := by
  have position : (m.receivePosition report).threads = m.threads := by
    rw [receivePosition]
    split
    · exact threads_setPosition m _
    · rfl
  rw [receiveReport]
  split
  · rw [receiveToken]
    split
    · exact (threads_setRun _ _).trans position
    · exact (threads_logText _ _ _).trans position
  · exact threads_logText m _ _

theorem threads_receive (m : Machine α) (message : Bytes) :
    (m.receive message).threads = m.threads := by
  rw [receive]
  split
  · exact threads_receiveReport m message
  · repeat' split
    all_goals exact threads_logText m _ _

end Machine

/-! ## The simulation -/

namespace Simulation

theorem threads_refuse (refusal : Refusal α) (s : Simulation α) :
    (s.refuse refusal).machine.threads = s.machine.threads := by
  rw [refuse]
  split
  · exact Machine.threads_log s.machine _ _
  · rfl

variable [Scalar α]

theorem threads_tick (slot : Slot) (s : Simulation α) :
    (tick slot s).state.machine.threads = s.machine.threads := by
  have ticked := tick_ticked slot s
  generalize Simulation.tick slot s = outcome at ticked ⊢
  cases ticked with
  | empty _ => rfl
  | cancelled _ _ => simp [Step.done]
  | fault _ _ _ _ => rfl
  | goesOn a _ _ _ _ => simp [Step.done]
  | ends a _ _ _ _ =>
    have moved := s.machine.threads_setPosition (.ofPosition a.position)
    simpa [Step.done, endMotion, stop, Machine.threads, Machine.note] using moved

theorem threads_begin (motion : Motion α) (slot : Slot) (now : α) (s : Simulation α) :
    (s.begin motion slot now).state.machine.threads = s.machine.threads := by
  have put : (({ s with inMotion := true }.setFlight slot (some { motion, dueAt := now })).log
      .debug (.simulating motion)).machine.threads = s.machine.threads := by
    simp [Simulation.log]
  exact (threads_tick slot _).trans put

theorem threads_beginPlanned (planned : Except (Refusal α) (Motion α)) (slot : Slot) (now : α)
    (s : Simulation α) :
    (s.beginPlanned planned slot now).state.machine.threads = s.machine.threads := by
  unfold beginPlanned
  split
  · exact threads_refuse _ s
  · exact threads_begin _ slot now s

end Simulation

/-! ## The tracker -/

namespace Tracker

variable [Scalar α]

theorem threads_start (now : α) (q : QueuedMotion α) (s : Simulation α) :
    (start now q s).state.machine.threads = s.machine.threads := by
  have noted : (s.machine.note (.motionStarted q)).threads = s.machine.threads := by
    simp [Machine.threads, Machine.note]
  rw [start_eq]
  dsimp only
  split
  · exact noted
  · exact noted
  · exact (Simulation.threads_beginPlanned _ _ _ _).trans noted

theorem threads_startWaiting (now : α) (queue : List (QueuedMotion α)) (s : Simulation α) :
    (startWaiting now queue s).state.1.machine.threads = s.machine.threads := by
  induction queue generalizing s with
  | nil => rfl
  | cons q rest ih =>
    rw [startWaiting]
    split
    · rfl
    · have first := threads_start now q s
      split
      next s' _ heq =>
        rw [heq] at first
        exact (ih s').trans first
      next s' fault heq =>
        rw [heq] at first
        exact first

theorem threads_drain (now : α) (t : Tracker α) :
    (drain now t).state.machine.threads = t.machine.threads := by
  rw [drain]
  split
  · rfl
  · exact threads_startWaiting now t.queue t.simulation

theorem threads_tick (slot : Slot) (now : α) (t : Tracker α) :
    (tick slot now t).state.machine.threads = t.machine.threads := by
  have ticked := Simulation.threads_tick slot t.simulation
  rw [tick]
  split
  next simulation ended heq =>
    rw [heq] at ticked
    dsimp only
    split
    · exact (threads_drain now { t with simulation }).trans ticked
    · exact ticked
  next simulation fault heq =>
    rw [heq] at ticked
    exact ticked

theorem threads_settleSlot (slot : Slot) (now : α) (t : Tracker α) :
    (t.settleSlot slot now).state.machine.threads = t.machine.threads := by
  rw [settleSlot]
  generalize t.simulation.tickAllowance slot now = limit
  induction limit generalizing t with
  | zero => rfl
  | succ limit ih =>
    rw [settle]
    split
    · have first := threads_tick slot now t
      split
      next t' _ heq =>
        rw [heq] at first
        exact (ih t').trans first
      next => exact first
    · rfl

/-- Simulated motion concerns no thread. -/
theorem threads_update (now : α) (t : Tracker α) :
    (t.update now).state.machine.threads = t.machine.threads := by
  have work := threads_settleSlot .work now t
  rw [update, Step.andThen]
  split
  next => exact (threads_settleSlot .jog now _).trans work
  next => exact work

theorem threads_cancelJogs (now : α) (t : Tracker α) :
    (cancelJogs now t).state.machine.threads = t.machine.threads := by
  rw [cancelJogs_eq]
  dsimp only
  split
  next => exact (threads_drain now _).trans (Machine.threads_logText t.machine _ _)
  next => rfl

theorem threads_takeUp (words : List Word) (m : Machine α) :
    (takeUp words m).threads = m.threads := by
  have applied : (applyWords words m).1.threads = m.threads := by
    rw [applyWords]
    generalize false = selected
    induction words generalizing m selected with
    | nil => rfl
    | cons w rest ih =>
      cases letter : w.letter with
      | g =>
        simp only [List.foldl_cons, letter]
        exact ih (m.applyCode (ofNumeral w.value)).1 _
      | f =>
        simp only [List.foldl_cons, letter]
        exact (ih (m.setFeed (ofNumeral w.value)) selected).trans (m.threads_setFeed _)
      | x | y | z | r | i | j | other =>
        simp only [List.foldl_cons, letter]
        exact ih m selected
  rw [takeUp]
  split
  · exact (Machine.threads_announce _ _ _).trans applied
  · exact applied

theorem threads_noted (command : Bytes) (t : Tracker α) :
    (t.noted command).machine.threads = t.machine.threads := by
  have logged : ∀ s : String,
      (logText { t with ledger := t.ledger.send command } .error s).machine.threads =
        t.machine.threads := fun s => t.machine.threads_logText .error s
  rw [noted]
  dsimp only
  split
  · rfl
  · split
    · split
      · exact logged _
      · rfl
    · split
      · rfl
      · split
        · rfl
        · exact logged _
        · exact threads_takeUp _ t.machine

/-- No command concerns a thread. -/
theorem threads_register (now : α) (command : Bytes) (t : Tracker α) :
    (register now command t).state.machine.threads = t.machine.threads := by
  have registered := register_registered now command t
  have noted := threads_noted command t
  generalize register now command t = outcome at registered ⊢
  cases registered with
  | counted r _ _ _ => exact noted
  | moves q _ _ => exact (threads_drain now _).trans noted
  | cancels _ _ => exact threads_cancelJogs now t

/-- No message concerns a thread. -/
theorem threads_receive (message : Bytes) (t : Tracker α) :
    (receive message t).machine.threads = t.machine.threads := by
  have answered : ∀ t : Tracker α, (answer t).machine.threads = t.machine.threads := by
    intro t
    simp only [answer]
    split
    · rfl
    · exact t.machine.threads_logText _ _
  rw [receive]
  split
  · exact answered _
  · split
    · exact (answered _).trans (t.machine.threads_logText _ _)
    · split
      · rfl
      · exact t.machine.threads_receive _

theorem threads_receiveAll (messages : List Bytes) (t : Tracker α) :
    (messages.foldl (fun t message => t.receive message) t).machine.threads =
      t.machine.threads := by
  induction messages generalizing t with
  | nil => rfl
  | cons message rest ih => exact (ih (t.receive message)).trans (threads_receive message t)

omit [Scalar α] in
theorem threads_toggle (t : Tracker α) : t.toggle.1.machine.threads = t.machine.threads := by
  rw [toggle_eq]
  split <;> exact Machine.threads_logText _ _ _

end Tracker

end GcodeSender
