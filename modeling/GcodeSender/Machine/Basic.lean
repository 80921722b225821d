/-
# `GcodeSender.Machine.Basic` — the machine as its followers see it

The state of a machine is its position, its feed rate, what it is doing, and
its modes.  Every change of a value is announced:

    position   if some given coordinate differs: x, y, z, then the whole
    feed       if it differs from the feed in force
    run state  if it differs
    modes      when told to (`announceModes`)

A coordinate that is not given, or that is the same as the one in force, stays
as it is.  A value that is no number differs from everything, itself included,
so it is announced every time.

Position and run state also raise the flag `changed`, which a display lowers
when it has shown them.  Before the first F word there is no feed; it counts
as zero.
-/
import GcodeSender.Journal

namespace GcodeSender

open Scalar Gcode

variable {α : Type} [Scalar α]

/-- The state of a machine, and the journal of what it announced. -/
structure Machine (α : Type) where
  position : Position α
  feed : Option α := none
  run : RunState := .idle
  modes : Modes := {}
  changed : Bool := true
  journal : Journal α := []
  deriving DecidableEq, Repr

namespace Machine

/-- A machine at its origin, before anything happened. -/
def fresh : Machine α := { position := .origin }

/-- The feed rate in force. -/
def feedRate (m : Machine α) : α := m.feed.getD (nat 0)

/-- Write a notice. -/
def note (m : Machine α) (n : Notice α) : Machine α := { m with journal := m.journal.note n }

/-- Announce a value. -/
def announce (m : Machine α) (topic : Topic) (value : Payload α) : Machine α :=
  m.note (.update { topic, value })

/-- Log a message. -/
def log (m : Machine α) (level : Level) (message : Message α) : Machine α :=
  m.note (.log ⟨level, message⟩)

/-- Log a text. -/
def logText (m : Machine α) (level : Level) (s : String) : Machine α := m.log level (.text s)

/-- Announce a position, coordinate by coordinate and as a whole. -/
def announcePosition (m : Machine α) : Machine α :=
  (Axis.all.foldl (fun m a => m.announce (.axis a) (.coordinate (m.position.get a))) m).announce
    .position (.position m.position)

/-- Does a given coordinate differ from the one in force? -/
def differs (old : α) : Option α → Bool
  | some value => !same old value
  | none => false

/-- The coordinate after an assignment. -/
def assigned (old : α) (given : Option α) : α := if differs old given then given.getD old else old

/-- Assign coordinates to the position; those not given stay. -/
def setPosition (m : Machine α) (t : Target α) : Machine α :=
  if Axis.all.any fun a => differs (m.position.get a) (t.get a) then
    announcePosition
      { m with
        position :=
          ⟨assigned m.position.x t.x, assigned m.position.y t.y, assigned m.position.z t.z⟩
        changed := true }
  else m

/-- Assign the feed rate. -/
def setFeed (m : Machine α) (feed : α) : Machine α :=
  let announced := if same m.feedRate feed then m else m.announce .feedRate (.feed feed)
  { announced with feed := some feed }

/-- Assign the run state. -/
def setRun (m : Machine α) (run : RunState) : Machine α :=
  if m.run = run then m else { m with run, changed := true }.announce .runState (.run run)

/-- Announce the modes. -/
def announceModes (m : Machine α) : Machine α := m.announce .modes (.modes m.modes)

/-- Apply the number of a G word to the modes, without announcing them. -/
def applyCode (m : Machine α) (code : α) : Machine α × Bool :=
  let (modes, selected) := m.modes.apply code
  ({ m with modes }, selected)

/-- Lower the flag that position or run state have changed. -/
def clearChanged (m : Machine α) : Machine α := { m with changed := false }

/-- Announce everything, each compound value followed by its parts. -/
def sync (m : Machine α) : Machine α :=
  let m := m.announce .position (.position m.position)
  let m := Axis.all.foldl (fun m a => m.announce (.axis a) (.coordinate (m.position.get a))) m
  let m := m.announce .feedRate (.feed m.feedRate)
  let m := m.announce .runState (.run m.run)
  let m := m.announceModes
  ModeGroup.all.foldl (fun m g => m.announce (.mode g) (.mode (m.modes.get g))) m

/-- The state in four lines; `number` writes the numbers. -/
def describe (number : α → String) (m : Machine α) : String :=
  "machine_pos x: " ++ number m.position.x ++ " y: " ++ number m.position.y ++ " z: " ++
    number m.position.z ++ "\r\n" ++
  "feed_rate: " ++ ((m.feed.map number).getD "0") ++ "\r\n" ++
  "run_state: " ++ m.run.name ++ "\r\n" ++
  "gcode_modal: " ++ m.modes.describe ++ "\r\n"

end Machine

end GcodeSender
