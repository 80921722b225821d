/-
# `GcodeSender.Gcode.Modes` — modes that persist from line to line

A G word may select a mode.  Modes fall into groups; selecting one replaces
the mode of its group and leaves the other groups alone.

    code         group          mode
    0, 1         motion         rapid, linear
    2, 3         motion         arc clockwise, arc counter-clockwise
    20, 21       units          inch, millimetre
    90, 91       distance       absolute, incremental
    90.1, 91.1   arc distance   absolute, incremental

A jog line may change the distance and the units, for that jog only.
-/
import GcodeSender.Scalar

namespace GcodeSender.Gcode

open Scalar

/-- Are distances counted from the origin or from where the machine is? -/
inductive DistanceMode where
  | absolute
  | incremental
  deriving DecidableEq, Repr, Inhabited

inductive UnitMode where
  | inch
  | millimeter
  deriving DecidableEq, Repr, Inhabited

inductive MotionMode where
  | rapid
  | linear
  | arcClockwise
  | arcCounterClockwise
  deriving DecidableEq, Repr, Inhabited

def DistanceMode.name : DistanceMode → String
  | .absolute => "ABSOLUTE"
  | .incremental => "INCREMENTAL"

def UnitMode.name : UnitMode → String
  | .inch => "INCH"
  | .millimeter => "MILLIMETER"

def MotionMode.name : MotionMode → String
  | .rapid => "RAPID"
  | .linear => "LINEAR"
  | .arcClockwise => "ARC_CW"
  | .arcCounterClockwise => "ARC_CCW"

/-- The groups of modes. -/
inductive ModeGroup where
  | distance
  | arcDistance
  | units
  | motion
  deriving DecidableEq, Repr, Inhabited

namespace ModeGroup

/-- The groups in the order in which they are shown. -/
def all : List ModeGroup := [.distance, .arcDistance, .units, .motion]

/-- The groups that a jog line may change. -/
def jog : List ModeGroup := [.distance, .units]

def name : ModeGroup → String
  | .distance => "distance_mode"
  | .arcDistance => "arc_distance_mode"
  | .units => "unit_mode"
  | .motion => "motion_mode"

end ModeGroup

/-- A mode together with its group. -/
inductive Mode where
  | distance (mode : DistanceMode)
  | arcDistance (mode : DistanceMode)
  | units (mode : UnitMode)
  | motion (mode : MotionMode)
  deriving DecidableEq, Repr

namespace Mode

def group : Mode → ModeGroup
  | .distance _ => .distance
  | .arcDistance _ => .arcDistance
  | .units _ => .units
  | .motion _ => .motion

def name : Mode → String
  | .distance m | .arcDistance m => m.name
  | .units m => m.name
  | .motion m => m.name

end Mode

/-- One mode of every group. -/
structure Modes where
  distance : DistanceMode := .absolute
  arcDistance : DistanceMode := .incremental
  units : UnitMode := .millimeter
  motion : MotionMode := .linear
  deriving DecidableEq, Repr, Inhabited

namespace Modes

/-- The mode of a group. -/
def get (m : Modes) : ModeGroup → Mode
  | .distance => .distance m.distance
  | .arcDistance => .arcDistance m.arcDistance
  | .units => .units m.units
  | .motion => .motion m.motion

/-- Replace the mode of one group. -/
def set (m : Modes) : Mode → Modes
  | .distance d => { m with distance := d }
  | .arcDistance d => { m with arcDistance := d }
  | .units u => { m with units := u }
  | .motion k => { m with motion := k }

/-- The group that was set has the mode that was selected. -/
@[simp] theorem get_set_group (m : Modes) (s : Mode) : (m.set s).get s.group = s := by
  cases s <;> rfl

/-- The other groups keep their modes. -/
theorem get_set_of_ne (m : Modes) {s : Mode} {g : ModeGroup} (h : g ≠ s.group) :
    (m.set s).get g = m.get g := by
  cases s <;> cases g <;> simp_all [Mode.group, set, get]

/-- The modes, group by group. -/
def describe (m : Modes) : String :=
  "ModalState(" ++ ", ".intercalate (ModeGroup.all.map fun g => g.name ++ "=" ++ (m.get g).name) ++ ")"

end Modes

/-! ## Codes -/

/-- The codes that select a mode: mantissa and places of the number, and the mode. -/
def modeCodes : List (Nat × Nat × Mode) :=
  [(0, 0, .motion .rapid), (1, 0, .motion .linear), (2, 0, .motion .arcClockwise),
   (3, 0, .motion .arcCounterClockwise), (20, 0, .units .inch), (21, 0, .units .millimeter),
   (90, 0, .distance .absolute), (91, 0, .distance .incremental),
   (901, 1, .arcDistance .absolute), (911, 1, .arcDistance .incremental)]

/-- The mode that a code selects. -/
def modeOf? {α : Type} [Scalar α] (code : α) : Option Mode :=
  (modeCodes.find? fun (m, places, _) => same code (decimal m places)).map (·.2.2)

/-- Apply the number of a G word, as far as its group is among `groups`.  Did it select a mode? -/
def Modes.apply {α : Type} [Scalar α] (m : Modes) (code : α)
    (groups : List ModeGroup := ModeGroup.all) : Modes × Bool :=
  match modeOf? code with
  | some mode => if groups.contains mode.group then (m.set mode, true) else (m, false)
  | none => (m, false)

end GcodeSender.Gcode
