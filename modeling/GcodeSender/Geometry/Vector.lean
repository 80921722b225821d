/-
# `GcodeSender.Geometry.Vector` — points of the plane and of space

Arcs live in the XY plane (`Point`), positions in space (`Position`).  The
length of a space vector is `sqrt (x² + y² + z²)` without scaling.
-/
import GcodeSender.Scalar

namespace GcodeSender

open Scalar

variable {α : Type} [Scalar α]

/-! ## The plane -/

/-- A point or a vector of the XY plane. -/
structure Point (α : Type) where
  x : α
  y : α
  deriving DecidableEq, Repr

namespace Point

/-- The vector from `b` to `a`. -/
def sub (a b : Point α) : Point α := ⟨a.x - b.x, a.y - b.y⟩

/-- The dot product. -/
def dot (a b : Point α) : α := a.x * b.x + a.y * b.y

/-- The third component of the cross product: positive where `b` lies counter-clockwise of `a`. -/
def cross (a b : Point α) : α := a.x * b.y - a.y * b.x

/-- The length of a vector. -/
def length (a : Point α) : α := hypot a.x a.y

/-- Are both coordinates the same? -/
def coincides (a b : Point α) : Bool := same a.x b.x && same a.y b.y

end Point

/-! ## Space -/

/-- The three axes of the machine. -/
inductive Axis where
  | x
  | y
  | z
  deriving DecidableEq, Repr, Inhabited

/-- The axes in their order. -/
def Axis.all : List Axis := [.x, .y, .z]

/-- The name of an axis. -/
def Axis.name : Axis → String
  | .x => "x"
  | .y => "y"
  | .z => "z"

/-- A position or a displacement. -/
structure Position (α : Type) where
  x : α
  y : α
  z : α
  deriving DecidableEq, Repr

namespace Position

/-- The coordinate of an axis. -/
def get (p : Position α) : Axis → α
  | .x => p.x
  | .y => p.y
  | .z => p.z

/-- The machine's origin. -/
def origin : Position α := ⟨nat 0, nat 0, nat 0⟩

/-- Coordinate by coordinate. -/
def map (f : α → α) (p : Position α) : Position α := ⟨f p.x, f p.y, f p.z⟩

def add (p q : Position α) : Position α := ⟨p.x + q.x, p.y + q.y, p.z + q.z⟩

def sub (p q : Position α) : Position α := ⟨p.x - q.x, p.y - q.y, p.z - q.z⟩

/-- The length of a displacement. -/
def length (p : Position α) : α := sqrt (p.x * p.x + p.y * p.y + p.z * p.z)

/-- The projection to the XY plane. -/
def plane (p : Position α) : Point α := ⟨p.x, p.y⟩

end Position

/-! ## Named axes -/

/-- Coordinates for some of the axes: the axis words of a line. -/
structure Target (α : Type) where
  x : Option α := none
  y : Option α := none
  z : Option α := none
  deriving DecidableEq, Repr

namespace Target

/-- The coordinate given for an axis. -/
def get (t : Target α) : Axis → Option α
  | .x => t.x
  | .y => t.y
  | .z => t.z

/-- Give an axis a coordinate, in place of an earlier one. -/
def set (t : Target α) (axis : Axis) (value : α) : Target α :=
  match axis with
  | .x => { t with x := some value }
  | .y => { t with y := some value }
  | .z => { t with z := some value }

/-- A position with the given coordinates, the others taken from `p`. -/
def completedBy (t : Target α) (p : Position α) : Position α :=
  ⟨t.x.getD p.x, t.y.getD p.y, t.z.getD p.z⟩

/-- All three coordinates of a position. -/
def ofPosition (p : Position α) : Target α := ⟨some p.x, some p.y, some p.z⟩

end Target

/-- The centre of an arc as its line gives it: the I word, the J word, or both. -/
structure CentreWords (α : Type) where
  i : Option α := none
  j : Option α := none
  deriving DecidableEq, Repr

/-- Does the line give a centre at all? -/
def CentreWords.isEmpty (c : CentreWords α) : Bool := c.i.isNone && c.j.isNone

end GcodeSender
