/-
# `GcodeSender.Journal` — what is announced and what is logged

Two kinds of notice leave an operation.  An *update* tells subscribers the new
value of something they follow, under a topic; a *log entry* tells a reader
what happened, with a level.  The handing over of a line to be simulated and
the end of a simulated motion are noted too, and so are the start and the end of
the thread that serves a port.

Operations do not call anybody.  They write their notices into a journal, in
the order in which they arise, and the caller reads the journal afterwards.

    topic                       value
    machine_pos                 the whole position
    machine_pos:x (y, z)        one coordinate
    feed_rate                   the feed rate
    run_state                   the run state
    gcode_modal                 all modes
    gcode_modal:distance_mode … one mode
    connection_status …         a connection state, or a label

A log message keeps the numbers it is about; `Message.text` puts them in.
-/
import GcodeSender.Gcode.Move
import GcodeSender.Link.Status
import GcodeSender.Machine.RunState
import GcodeSender.Motion.Basic

namespace GcodeSender

open Gcode

/-! ## Updates -/

/-- What an update is about. -/
inductive Topic where
  | position
  | axis (axis : Axis)
  | feedRate
  | runState
  | modes
  | mode (group : ModeGroup)
  | connectionStatus
  | desiredStatus
  | label
  | named (name : String)
  deriving DecidableEq, Repr

def Topic.name : Topic → String
  | .position => "machine_pos"
  | .axis a => "machine_pos:" ++ a.name
  | .feedRate => "feed_rate"
  | .runState => "run_state"
  | .modes => "gcode_modal"
  | .mode g => "gcode_modal:" ++ g.name
  | .connectionStatus => "connection_status"
  | .desiredStatus => "desired_connection_status"
  | .label => "label"
  | .named name => name

/-- The value that an update carries. -/
inductive Payload (α : Type) where
  | position (p : Position α)
  | coordinate (x : α)
  | feed (x : α)
  | run (s : RunState)
  | modes (m : Modes)
  | mode (m : Mode)
  | status (s : Link.Status)
  | text (s : String)
  deriving DecidableEq, Repr

/-- A new value for subscribers; `label` is the controller it comes from. -/
structure Update (α : Type) where
  label : Option String := none
  topic : Topic
  value : Payload α
  deriving DecidableEq, Repr

/-- The name of a tag under a label. -/
def labelled (label tag : String) : String := label ++ ":" ++ tag

/-- The name that an update goes by. -/
def Update.name {α : Type} (u : Update α) : String :=
  match u.label with
  | some label => labelled label u.topic.name
  | none => u.topic.name

/-! ## Log entries -/

/-- How much a log entry matters. -/
inductive Level where
  | debug
  | info
  | warning
  | error
  deriving DecidableEq, Repr

def Level.name : Level → String
  | .debug => "DEBUG"
  | .info => "INFO"
  | .warning => "WARNING"
  | .error => "ERROR"

/-- What a log entry says. -/
inductive Message (α : Type) where
  | text (s : String)
  | simulating (motion : Motion α)
  | feedTooLow (feed : α)
  | radiusTooSmall (radius chord : α)
  | configuration (shown : String)
  deriving DecidableEq, Repr

/-- The wording of a message; `number` writes the numbers. -/
def Message.wording {α : Type} [Scalar α] (number : α → String) : Message α → String
  | .text s => s
  | .simulating motion => "Simulating " ++ motion.describe number
  | .feedTooLow feed => "Feed rate " ++ number feed ++ " too low to simulate motion."
  | .radiusTooSmall radius chord =>
    "Arc radius " ++ number radius ++ " too small to join points " ++ number chord ++ " apart."
  | .configuration shown => "Config:\n" ++ shown

structure LogEntry (α : Type) where
  level : Level
  message : Message α
  deriving DecidableEq, Repr

/-! ## Notices -/

/-- What happens to the thread that serves a port. -/
inductive ThreadEvent where
  | created
  | started
  | joined
  deriving DecidableEq, Repr

inductive Notice (α : Type) where
  | update (u : Update α)
  | log (entry : LogEntry α)
  | motionStarted (line : QueuedMotion α)
  | motionEnded
  | thread (event : ThreadEvent)
  deriving DecidableEq, Repr

/-- Notices, the newest first. -/
abbrev Journal (α : Type) := List (Notice α)

namespace Journal

variable {α : Type}

/-- Write one more notice. -/
def note (j : Journal α) (n : Notice α) : Journal α := n :: j

/-- The notices in the order in which they arose. -/
def notices (j : Journal α) : List (Notice α) := j.reverse

/-- The updates in the order in which they arose. -/
def updates (j : Journal α) : List (Update α) :=
  j.notices.filterMap fun | .update u => some u | _ => none

/-- The log entries in the order in which they arose. -/
def entries (j : Journal α) : List (LogEntry α) :=
  j.notices.filterMap fun | .log e => some e | _ => none

/-- The thread events in the order in which they arose. -/
def threadEvents (j : Journal α) : List ThreadEvent :=
  j.notices.filterMap fun | .thread e => some e | _ => none

/-- The lines that were handed over to be simulated, in that order. -/
def starts (j : Journal α) : List (QueuedMotion α) :=
  j.notices.filterMap fun | .motionStarted q => some q | _ => none

/-- How many simulated motions have ended. -/
def motionsEnded (j : Journal α) : Nat := j.countP fun | .motionEnded => true | _ => false

/-- A notice, its update put under a label. -/
def putUnder (label : String) : Notice α → Notice α
  | .update u => .update { u with label := some label }
  | n => n

@[simp] theorem notices_note (j : Journal α) (n : Notice α) :
    (j.note n).notices = j.notices ++ [n] := by
  simp [note, notices]

end Journal

end GcodeSender
