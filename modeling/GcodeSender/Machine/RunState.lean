/-
# `GcodeSender.Machine.RunState` — what the machine is doing

The machine names its state by a token at the head of a status report.  A
token may carry a sub-state behind a colon (`Hold:0`), which is not followed.
-/
import GcodeSender.Text.Bytes

namespace GcodeSender

/-- What the machine is doing. -/
inductive RunState where
  | idle
  | alarm
  | checkMode
  | homing
  | cycle
  | hold
  | jog
  | safetyDoor
  | sleep
  deriving DecidableEq, Repr, Inhabited

namespace RunState

def name : RunState → String
  | .idle => "IDLE"
  | .alarm => "ALARM"
  | .checkMode => "CHECK_MODE"
  | .homing => "HOMING"
  | .cycle => "CYCLE"
  | .hold => "HOLD"
  | .jog => "JOG"
  | .safetyDoor => "SAFETY_DOOR"
  | .sleep => "SLEEP"

/-- All states, in the order of their numbers. -/
def all : List RunState :=
  [.idle, .alarm, .checkMode, .homing, .cycle, .hold, .jog, .safetyDoor, .sleep]

/-- The token that reports a state. -/
def token : RunState → Bytes
  | .idle => Bytes.ofText "Idle"
  | .alarm => Bytes.ofText "Alarm"
  | .checkMode => Bytes.ofText "Check"
  | .homing => Bytes.ofText "Home"
  | .cycle => Bytes.ofText "Run"
  | .hold => Bytes.ofText "Hold"
  | .jog => Bytes.ofText "Jog"
  | .safetyDoor => Bytes.ofText "Door"
  | .sleep => Bytes.ofText "Sleep"

/-- The state that a token reports. -/
def ofToken? (t : Bytes) : Option RunState := all.find? fun s => s.token = t

end RunState

end GcodeSender
