/-
# `GcodeSender.Rehearsal` — a whole session against a machine that follows a script

A rehearsal runs the event loop and the passes over the port in turn, against
a machine whose answers are written down beforehand, and with a clock that
only pauses move on.

    written to the machine   answer
    `?`                      the next report, if there is one left
    a line                   the next reply, none if it is empty; `ok` when no
                             reply is left
    anything else            none

Every pause takes one off the number of pauses left; when none is left, the
user interrupts.  Each turn of a loop pauses, so this number bounds the turns.
The record holds the opening of the port and everything written, in order.
-/
import GcodeSender.Program

namespace GcodeSender

open Link Gcode

/-- A machine that follows a script. -/
structure ScriptedMachine where
  reports : List Bytes := []
  replies : List Bytes := []
  /-- How many entries of the record there may be before writing fails. -/
  writeLimit : Option Nat := none
  deriving DecidableEq, Repr

namespace ScriptedMachine

/-- The answer to what was written, and the machine after it. -/
def answer (m : ScriptedMachine) (written : Bytes) : Option Bytes × ScriptedMachine :=
  if written = [statusQuery] then
    match m.reports with
    | [] => (none, m)
    | report :: reports => (some (report ++ lineEnd), { m with reports })
  else if written.getLast? = newline.getLast? then
    match m.replies with
    | [] => (some (Bytes.ofText "ok" ++ lineEnd), m)
    | reply :: replies =>
      (if reply.isEmpty then none else some (reply ++ lineEnd), { m with replies })
  else (none, m)

/-- The answers to several things written. -/
def answerAll (m : ScriptedMachine) : List Bytes → List Bytes × ScriptedMachine
  | [] => ([], m)
  | written :: rest =>
    let (chunk, m) := m.answer written
    let (chunks, m) := m.answerAll rest
    (chunk.toList ++ chunks, m)

end ScriptedMachine

/-- What happens on a port. -/
inductive PortEvent where
  | opened (name baud : String)
  | wrote (data : Bytes)
  deriving DecidableEq, Repr

variable {α : Type} [Scalar α]

/-- A session, the machine at the other end, and the clock. -/
structure Rehearsal (α : Type) where
  session : Session α
  machine : ScriptedMachine
  now : α
  /-- How many pauses are left. -/
  pauses : Nat
  /-- What happened on the port. -/
  record : List PortEvent := []
  /-- How much of what was written to the port is in the record. -/
  recorded : Nat := 0

namespace Rehearsal

/-- Change the session. -/
def mapSession (f : Session α → Session α) (r : Rehearsal α) : Rehearsal α :=
  { r with session := f r.session }

/-- The rehearsal after an outcome of its session. -/
def sessionStep {ρ : Type} (r : Rehearsal α) (a : Step (Session α) ρ) : Step (Rehearsal α) ρ :=
  a.mapState fun session => { r with session }

/-- Pause for some seconds. -/
def pause (seconds : α) (r : Rehearsal α) : Step (Rehearsal α) Unit :=
  match r.pauses with
  | 0 => .stopped r .interrupted
  | n + 1 => .done { r with pauses := n, now := r.now + seconds } ()

/-! ## The machine at the other end -/

/-- Let writing fail from now on, if the limit of the record has been passed. -/
def applyLimit (r : Rehearsal α) : Rehearsal α :=
  let full := r.machine.writeLimit.any fun n => decide (n < r.record.length)
  if full then
    r.mapSession (·.mapController fun c =>
      { c with port := c.port.map fun p => { p with writeFault := some "write failed" } })
  else r

/-- Let the machine answer what has been written since the last time. -/
def listen (r : Rehearsal α) : Rehearsal α :=
  match r.session.controller.port with
  | none => r
  | some port =>
    let fresh := port.written.drop r.recorded
    let (chunks, machine) := r.machine.answerAll fresh
    let r :=
      { r with machine, record := r.record ++ fresh.map PortEvent.wrote, recorded := port.written.length }
    r.mapSession (·.mapController fun c => { c with port := some (port.receive chunks) })

/-- Serve the port once, if it is connected, and pause. -/
def pass (r : Rehearsal α) : Step (Rehearsal α) Unit :=
  if r.session.status = .connected then
    let r := r.applyLimit
    let a := (r.session.controller.pass r.now).mapState fun c =>
      (r.mapSession (·.mapController fun _ => c)).listen
    a.andThen fun _ r => r.pause Controller.passInterval
  else .done r ()

/-- Put the opening of a port into the record, if the session has just opened one. -/
def noteOpening (before : Option Port) (r : Rehearsal α) : Rehearsal α :=
  let c := r.session.controller
  if before.isNone && c.port.isSome then
    { r with record := r.record ++ [.opened c.portName c.baud] }
  else r

/-! ## The loops -/

/-- Connect.  Is the session connected then?  Each turn takes a pause of those left. -/
def connect (started : α) : Nat → Rehearsal α → Step (Rehearsal α) Bool
  | 0, r => .done r false
  | turns + 1, r =>
    let before := r.session.controller.port
    let a := (r.sessionStep (r.session.attempt started r.now)).mapState (noteOpening before)
    a.andThen fun attempt r =>
      match attempt with
      | .connected => .done r true
      | .givenUp => .done r false
      | .waiting => (r.pause Session.turnInterval).andThen fun _ r => connect started turns r

/-- Stream until the work is done or the connection is lost.  Each turn takes a pause of those
left. -/
def stream (number : α → String) : Nat → Rehearsal α → Step (Rehearsal α) Unit
  | 0, r => .done r ()
  | turns + 1, r =>
    if r.session.status = .connected then
      r.pass.andThen fun _ r =>
        (r.sessionStep (r.session.turn number r.now)).andThen fun finished r =>
          if finished then .done r ()
          else (r.pause Session.turnInterval).andThen fun _ r => stream number turns r
    else .done r ()

/-! ## The whole -/

/-- How a program ended: its exit code and the lines shown, or a breakdown; and the record. -/
structure Ending where
  outcome : Except Breakdown (Nat × List String)
  record : List PortEvent := []

/-- The end of a rehearsal that came to an end of its own. -/
def ended (r : Rehearsal α) (code : Nat) : Ending := ⟨.ok (code, r.session.shown), r.record⟩

/-- The end of a rehearsal that broke down. -/
def broken (r : Rehearsal α) (b : Breakdown) : Ending := ⟨.error b, r.record⟩

/-- Stream commands; an interruption is shown, anything else that stops the stream is answered. -/
def streamAll (number : α → String) (source : Except Breakdown (List Bytes))
    (r : Rehearsal α) : Rehearsal α × Option Breakdown :=
  match source with
  | .error b => (r, some b)
  | .ok lines =>
    let r := r.mapSession (·.sendAll lines)
    match stream number (r.pauses + 1) r with
    | ⟨r, .ok _⟩ => (r, none)
    | ⟨r, .error .interrupted⟩ => (r.mapSession (·.say "Interrupted."), none)
    | ⟨r, .error fault⟩ => (r, some (.fault fault))

/-- The whole session: connect, stream, give the port back, show the state. -/
def run (number : α → String) (source : Except Breakdown (List Bytes)) (r : Rehearsal α) :
    Ending :=
  let r := r.mapSession (·.begin)
  match connect r.now (r.pauses + 1) r with
  | ⟨r, .error fault⟩ => r.broken (.fault fault)
  | ⟨r, .ok false⟩ =>
    (r.mapSession (·.say ("Could not connect to " ++ r.session.controller.portName))).ended 1
  | ⟨r, .ok true⟩ =>
    let (r, trouble) := r.streamAll number source
    match r.sessionStep (r.session.close r.now), trouble with
    | ⟨r, .error fault⟩, _ => r.broken (.fault fault)
    | ⟨r, .ok _⟩, some b => r.broken b
    | ⟨r, .ok _⟩, none =>
      (r.mapSession fun s => (s.showState number).say "done").ended 0

end Rehearsal

end GcodeSender
