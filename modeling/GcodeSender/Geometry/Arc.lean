/-
# `GcodeSender.Geometry.Arc` — circular arcs in the XY plane

An arc is given by its two ends and its centre.  The sweep `sweep` is the
angle travelled *clockwise* from start to end, in `(0, 2π]`; a counter-clockwise
arc takes the rest of the circle.

    cross     dot        sweep
    0         (same ray)       2π       coincident ends, or one behind the other
    0         (opposite rays)  π
    < 0       any              acos      the end lies clockwise of the start
    > 0       any              2π − acos

A line may give the centre in two ways: by a radius, whose sign picks the arc
of more than half a turn, or by the I and J words, counted from the start or
absolute.
-/
import GcodeSender.Geometry.Vector

namespace GcodeSender.Arc

open Scalar

variable {α : Type} [Scalar α]

/-- The length of a full circle. -/
def circumference (radius : α) : α := nat 2 * pi * radius

/-- The angle travelled clockwise around `centre` from `start` to `stop`. -/
def sweep (start stop centre : Point α) : α :=
  let a := start.sub centre
  let b := stop.sub centre
  let side := a.cross b
  if same side (nat 0) then
    if a.coincides b then turn
    else if less (nat 0) (a.dot b) then turn
    else pi
  else
    let between := acos (clampUnit (a.dot b / (a.length * b.length)))
    if less side (nat 0) then between else turn - between

/-- The distance travelled around `centre` on a circle of the given radius. -/
def length (start stop centre : Point α) (clockwise : Bool) (radius : α) : α :=
  let full := circumference radius
  if start.coincides stop then full
  else
    let forward := sweep start stop centre / turn * full
    if clockwise then forward else full - forward

/-- The distance of the start from the centre: the radius of an arc that names none. -/
def startRadius (start centre : Point α) : α := (start.sub centre).length

/-! ## Centres -/

/-- Why a radius does not determine an arc. -/
inductive RadiusProblem (α : Type) where
  /-- Start and end coincide, so every direction has a centre. -/
  | coincidentEnds
  /-- The ends are farther apart than a diameter. -/
  | tooSmall (radius chord : α)
  deriving Repr

/-- The centre of the arc with the given radius; a negative radius asks for the arc of more than
half a turn. -/
def centreOfRadius (start stop : Point α) (radius : α) (clockwise : Bool) :
    Except (RadiusProblem α) (Point α) :=
  let chordX := stop.x - start.x
  let chordY := stop.y - start.y
  let chord := hypot chordX chordY
  if same chord (nat 0) then .error .coincidentEnds
  else
    let square := nat 4 * radius * radius - chord * chord
    if less square (nat 0) then .error (.tooSmall radius chord)
    else
      let direction : α := if clockwise then -(nat 1) else nat 1
      let scale := direction * sqrt square / chord
      let scale := if less radius (nat 0) then -scale else scale
      .ok ⟨start.x + decimal 5 1 * (chordX - chordY * scale),
        start.y + decimal 5 1 * (chordY + chordX * scale)⟩

/-- The centre from the I and J words, counted from the start (`relative`) or absolute.  A word
that is missing leaves the centre beside the start on that axis. -/
def centreOfWords (start : Point α) (words : CentreWords α) (relative : Bool) : Point α :=
  if relative then ⟨start.x + words.i.getD (nat 0), start.y + words.j.getD (nat 0)⟩
  else ⟨words.i.getD start.x, words.j.getD start.y⟩

end GcodeSender.Arc
