/-
# `GcodeSender.Tracker` — following a machine by what it is sent and what it answers

A tracker performs no input or output.  Its owner asks whether a command would
overflow the machine's buffer, tells it each command that was written
(`register`) and each line that came back (`receive`), and lets it play the
simulated motion (`update`).

    command     ledger       effect
    standard    counted      G and F words change modes and feed; axis words move
    jog         counted      moves, with modes and a feed of its own
    system      counted      none
    0x85        not counted  cancels the jogs, waiting or in flight
    `?`         not counted  none

A line that moves is queued together with the modes and the feed in force
*when it was sent*, and starts when the motions before it have ended
(`drain`).  Motions that are not simulated end at once, so draining goes on to
the next until one stays in flight or none is left.

    message         effect
    ok…             the oldest pending line is answered; counted
    error…          the same, counted apart, and logged
    anything else   goes to the machine's state; blank lines are dropped

A refused line is answered to the caller and otherwise only counted in the
ledger.  A fault leaves the tracker as far as it had come.
-/
import GcodeSender.Ledger
import GcodeSender.Gcode.Line
import GcodeSender.Machine.Report
import GcodeSender.Motion.Simulation

namespace GcodeSender

open Scalar Gcode

variable {α : Type} [Scalar α]

/-- What is known about one machine. -/
structure Tracker (α : Type) where
  simulation : Simulation α
  ledger : Ledger := {}
  /-- Motions that wait for the one in flight, the next one first. -/
  queue : List (QueuedMotion α) := []
  /-- Are waiting motions being started right now? -/
  draining : Bool := false
  answeredOk : Nat := 0
  answeredError : Nat := 0
  deriving DecidableEq, Repr

namespace Tracker

/-- Nothing is known about the machine yet. -/
def fresh (simulate : Bool) : Tracker α := { simulation := .fresh simulate defaultTickMs }

/-- The machine's state. -/
def machine (t : Tracker α) : Machine α := t.simulation.machine

/-- Change the machine's state. -/
def mapMachine (f : Machine α → Machine α) (t : Tracker α) : Tracker α :=
  { t with simulation := { t.simulation with machine := f t.machine } }

/-- Is a simulated motion in flight? -/
def inMotion (t : Tracker α) : Bool := t.simulation.inMotion

/-- Is motion between reports simulated? -/
def simulates (t : Tracker α) : Bool := t.simulation.enabled

/-- The commands that wait for the motion in flight. -/
def queuedCommands (t : Tracker α) : List Bytes := t.queue.map (·.command)

/-- Log a text. -/
def logText (t : Tracker α) (level : Level) (s : String) : Tracker α :=
  t.mapMachine (·.logText level s)

/-! ## The motion queue -/

/-- Simulate a queued motion with the modes and the feed it was sent with. -/
def start (now : α) (q : QueuedMotion α) (s : Simulation α) : Step (Simulation α) Unit :=
  let s := { s with machine := s.machine.note (.motionStarted q) }
  let move : Move α := .ofWords q.words
  let begun :=
    if q.isJog then s.jogTo move.target q.modes.distance q.feed now
    else s.dispatch move q.modes q.feed now
  begun.mapResult fun _ => ()

/-- Start waiting motions in order until one stays in flight; the result holds those that still
wait. -/
def startWaiting (now : α) :
    List (QueuedMotion α) → Simulation α → Step (Simulation α × List (QueuedMotion α)) Unit
  | [], s => .done (s, []) ()
  | q :: rest, s =>
    if s.inMotion then .done (s, q :: rest) ()
    else
      match start now q s with
      | ⟨s', .ok _⟩ => startWaiting now rest s'
      | ⟨s', .error fault⟩ => .stopped (s', rest) fault

/-- Start waiting motions until one stays in flight.  While they are being started, a further call
returns at once: the one that starts them goes on. -/
def drain (now : α) (t : Tracker α) : Step (Tracker α) Unit :=
  if t.draining then .done t ()
  else
    let t := { t with draining := true }
    (startWaiting now t.queue t.simulation).mapState fun (simulation, queue) =>
      { t with simulation, queue, draining := false }

/-- Queue a motion; it starts now if nothing is in flight. -/
def enqueue (now : α) (q : QueuedMotion α) (t : Tracker α) : Step (Tracker α) Unit :=
  drain now { t with queue := t.queue ++ [q] }

/-! ## Simulated motion -/

/-- One tick of a slot; where it ends its motion, waiting motions start. -/
def tick (slot : Slot) (now : α) (t : Tracker α) : Step (Tracker α) Unit :=
  match Simulation.tick slot t.simulation with
  | ⟨simulation, .ok ended⟩ =>
    let t := { t with simulation }
    if ended then drain now t else .done t ()
  | ⟨simulation, .error fault⟩ => .stopped { t with simulation } fault

/-- Make the due ticks of a slot. -/
def settleSlot (slot : Slot) (now : α) (t : Tracker α) : Step (Tracker α) Unit :=
  settle (fun t => Simulation.due slot now t.simulation) (tick slot now)
    (t.simulation.tickAllowance slot now) t

/-- Make every due tick. -/
def update (now : α) (t : Tracker α) : Step (Tracker α) Unit :=
  (t.settleSlot .work now).andThen fun _ t => t.settleSlot .jog now

/-- Turn simulation on or off; turning it off drops the motion in flight and those waiting.
The result is the new setting. -/
def toggle (t : Tracker α) : Tracker α × Bool :=
  let t := if t.simulates then { t with simulation := t.simulation.stop, queue := [] } else t
  let enabled := !t.simulates
  let t := { t with simulation := { t.simulation with enabled } }
  (t.logText .info ("Motion simulation " ++ if enabled then "enabled" else "disabled"), enabled)

/-! ## Commands -/

/-- Would the machine's buffer become full with this command? -/
def wouldOverflow (t : Tracker α) (command : Bytes) : Bool := t.ledger.wouldOverflow command

/-- Forget the lines that wait for an answer. -/
def clearLedger (t : Tracker α) : Tracker α := { t with ledger := t.ledger.clear }

/-- Take up the G and F words of a standard line.  Did one select a mode? -/
def applyWords (words : List Word) (m : Machine α) : Machine α × Bool :=
  words.foldl
    (fun (m, selected) w =>
      match w.letter with
      | .g =>
        let (m, now) := m.applyCode (ofNumeral w.value)
        (m, selected || now)
      | .f => (m.setFeed (ofNumeral w.value), selected)
      | _ => (m, selected))
    (m, false)

/-- A standard line was written. -/
def registerStandard (now : α) (command : Bytes) (t : Tracker α) :
    Step (Tracker α) (Option LineError) :=
  match parseLine command with
  | .error fault => .stopped t fault
  | .ok (.error refusal) =>
    let message := "Command " ++ command.literal ++ " not registered: " ++ refusal.message
    .done (t.logText .error message) (some refusal)
  | .ok (.ok words) =>
    let (machine, selected) := applyWords words t.machine
    let t := t.mapMachine fun _ => if selected then machine.announceModes else machine
    if hasAxisWords words && t.simulates then
      let queued := ⟨command, words, t.machine.modes, t.machine.feedRate⟩
      (enqueue now queued t).mapResult fun _ => none
    else .done t none

/-- The modes and the feed of a jog line, for that jog only. -/
def jogSettings (words : List Word) (modes : Modes) (feed : α) : Modes × α :=
  words.foldl
    (fun (modes, feed) w =>
      match w.letter with
      | .g => ((modes.apply (ofNumeral w.value : α) ModeGroup.jog).1, feed)
      | .f => (modes, ofNumeral w.value)
      | _ => (modes, feed))
    (modes, feed)

/-- A jog line was written. -/
def registerJog (now : α) (command : Bytes) (t : Tracker α) :
    Step (Tracker α) (Option LineError) :=
  match parseLine (command.drop jogMark.length) with
  | .error fault => .stopped t fault
  | .ok (.error refusal) =>
    let message := "Invalid jog command " ++ command.literal ++ ": " ++ refusal.message
    .done (t.logText .error message) (some refusal)
  | .ok (.ok words) =>
    let (modes, feed) := jogSettings words t.machine.modes t.machine.feedRate
    if t.simulates then
      (enqueue now ⟨command, words, modes, feed⟩ t).mapResult fun _ => none
    else .done t none

/-- The jog cancel byte was written: no jog waits or is in flight any more. -/
def cancelJogs (now : α) (t : Tracker α) : Step (Tracker α) Unit :=
  let t := { t with queue := t.queue.filter (!·.isJog) }
  let (simulation, cancelled) := t.simulation.cancelJog
  let t := { t with simulation }
  if cancelled then drain now (t.logText .debug "Jog simulation cancelled.") else .done t ()

/-- A command was written.  The result is the refusal if the line could not be read. -/
def register (now : α) (command : Bytes) (t : Tracker α) : Step (Tracker α) (Option LineError) :=
  let counted := { t with ledger := t.ledger.send command }
  if isSystem command then
    if isJog command then registerJog now command counted else .done counted none
  else if isRealtime command then
    if command = [jogCancel] then (cancelJogs now t).mapResult fun _ => none else .done t none
  else registerStandard now command counted

/-! ## Messages -/

/-- The oldest pending line was answered. -/
def answer (t : Tracker α) : Tracker α :=
  let (ledger, known) := t.ledger.answer
  let t := { t with ledger }
  if known then t else t.logText .warning Ledger.desynchronisedMessage

/-- A line came from the machine. -/
def receive (message : Bytes) (t : Tracker α) : Tracker α :=
  let message := message.trim
  if message.startsWith (Bytes.ofText "ok") then
    answer { t with answeredOk := t.answeredOk + 1 }
  else if message.startsWith (Bytes.ofText "error") then
    answer ({ t with answeredError := t.answeredError + 1 }.logText .warning
      ("Grbl reported " ++ message.lossyText))
  else if message.isEmpty then t
  else t.mapMachine (·.receive message)

end Tracker

end GcodeSender
