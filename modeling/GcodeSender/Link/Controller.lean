/-
# `GcodeSender.Link.Controller` — one machine behind one port

A controller holds what is to be written, what was read, and a tracker that is
told of both.

    queue      holds                                       order of writing
    immediate  realtime bytes, the soft reset              first
    heldBack   the line that did not fit the last time     before `streaming`
    streaming  lines, each ended by a newline              in the order sent

What comes in is collected in `partialLine` until a line end is there.  Lines
that answer a command go to the tracker at once, because room in the machine's
buffer depends on them; all others wait in `received` for the event loop.

What the tracker announces goes out under the controller's label (`adopt`).
-/
import GcodeSender.Link.Connection
import GcodeSender.Link.Port
import GcodeSender.Tracker

namespace GcodeSender.Link

open Scalar Gcode

variable {α : Type} [Scalar α]

/-- A connection to a machine through a serial port. -/
structure Controller (α : Type) where
  connection : Connection α
  /-- The name of the serial port. -/
  portName : String := ""
  /-- The speed of the port, as it is written in a configuration. -/
  baud : String := "115200"
  /-- The port, from its opening until it is given back. -/
  port : Option Port := none
  /-- Is the port served by a thread? -/
  threaded : Bool := false
  /-- Is there a thread that serves the port? -/
  thread : Bool := false
  tracker : Tracker α
  immediate : List Bytes := []
  streaming : List Bytes := []
  heldBack : Option Bytes := none
  received : List Bytes := []
  partialLine : Bytes := []
  /-- When the status was last asked for. -/
  lastQuery : α
  /-- The feed of a jog that names none. -/
  jogFeed : Amount := .whole 300

/-- What ends a line that comes in. -/
def lineEnd : Bytes := [0x0D, 0x0A]

/-- What ends a line that is written. -/
def newline : Bytes := [0x0A]

namespace Controller

/-- A controller that nothing has happened to yet. -/
def fresh (label : String) (simulate : Bool) : Controller α :=
  { connection := .fresh label, tracker := .fresh simulate, lastQuery := nat 0 }

def label (c : Controller α) : String := c.connection.label

def status (c : Controller α) : Status := c.connection.status

def desired (c : Controller α) : Status := c.connection.desired

/-- Change the connection. -/
def mapConnection (f : Connection α → Connection α) (c : Controller α) : Controller α :=
  { c with connection := f c.connection }

/-- Assign the status. -/
def setStatus (c : Controller α) (s : Status) : Controller α := c.mapConnection (·.setStatus s)

/-- Assign the status to be reached. -/
def setDesired (c : Controller α) (s : Status) : Controller α := c.mapConnection (·.setDesired s)

/-- Log a text. -/
def logText (c : Controller α) (level : Level) (s : String) : Controller α :=
  c.mapConnection (·.logText level s)

/-- Write a notice. -/
def note (c : Controller α) (n : Notice α) : Controller α := c.mapConnection (·.note n)

/-- Set whether commands are welcome. -/
def setReady (c : Controller α) (ready : Bool) : Controller α :=
  c.mapConnection fun n => { n with ready }

/-- Take a tracker over, and its notices with it. -/
def adopt (c : Controller α) (t : Tracker α) : Controller α :=
  { c with
    tracker := t.mapMachine fun m => { m with journal := [] }
    connection :=
      { c.connection with
        journal := t.machine.journal.map (Journal.putUnder c.label) ++ c.connection.journal } }

/-- The outcome of the controller, after an outcome of its tracker. -/
def adoptStep {ρ : Type} (c : Controller α) (a : Step (Tracker α) ρ) : Step (Controller α) ρ :=
  a.mapState c.adopt

/-! ## What is to be written -/

/-- How many lines wait to be written. -/
def pending (c : Controller α) : Nat := c.streaming.length + c.heldBack.toList.length

/-- Queue a command.  Realtime bytes go in front; of other commands the blanks around them are
dropped, and nothing is queued if nothing is left. -/
def send (c : Controller α) (command : Bytes) : Controller α :=
  if isRealtime command then { c with immediate := c.immediate ++ [command] }
  else
    let line := command.trim
    if line.isEmpty then c else { c with streaming := c.streaming ++ [line ++ newline] }

/-- Queue a jog in a distance mode; without a feed it takes the controller's. -/
def jogIn (mode : String) (c : Controller α) (j : Jog) : Controller α :=
  c.send ({ j with f := some (j.f.getD c.jogFeed) }.command (Bytes.ofText mode))

/-- Queue a jog that moves from where the machine is. -/
def jog (c : Controller α) (j : Jog) : Controller α := jogIn "G91" c j

/-- Queue a jog that moves to given coordinates. -/
def jogAbsolute (c : Controller α) (j : Jog) : Controller α := jogIn "G90" c j

/-- Queue the byte that cancels the jogs. -/
def cancelJog (c : Controller α) : Controller α :=
  let c := c.logText .debug "Cancel jog"
  { c with immediate := c.immediate ++ [[jogCancel]] }

/-! ## What has come in -/

/-- Take up a line without its blanks: an answer at once, anything else later. -/
def takeLine (c : Controller α) (line : Bytes) : Controller α :=
  if line.isEmpty then c
  else if line.startsWith (Bytes.ofText "ok") || line.startsWith (Bytes.ofText "error") then
    c.adopt (c.tracker.receive line)
  else { c with received := c.received ++ [line] }

/-- Take up a piece of what came in: it joins what is there, and the first line of that, if there
is one, is taken up. -/
def accept (c : Controller α) (piece : Bytes) : Controller α :=
  match Bytes.cutAt? lineEnd (c.partialLine ++ piece) with
  | none => { c with partialLine := c.partialLine ++ piece }
  | some (line, rest) => { c with partialLine := rest }.takeLine line.trim

/-! ## Simulation -/

/-- Is motion between reports simulated? -/
def simulates (c : Controller α) : Bool := c.tracker.simulates

/-- Turn simulation on or off.  The result is the new setting. -/
def toggle (c : Controller α) : Controller α × Bool :=
  let (tracker, enabled) := c.tracker.toggle
  (c.adopt tracker, enabled)

/-- Set whether motion is simulated. -/
def setSimulates (c : Controller α) (enabled : Bool) : Controller α :=
  if c.simulates = enabled then c else c.toggle.1

end Controller

end GcodeSender.Link
