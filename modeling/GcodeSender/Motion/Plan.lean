/-
# `GcodeSender.Motion.Plan` — from the words of a move to a motion

A plan is made from where the machine is shown, the words of the line, the
modes and feed in force for it, and the tick length.  A tick lasts `tickMs`
milliseconds; the distance travelled in it is `stepLength`.

    straight   displacement / distance · stepLength per tick
    arc        turn by 2π · stepLength / circumference per tick,
               Z by its displacement / max (length / stepLength, 1)

A plan can be refused (`Refusal`): a move of no length ends at once and in
silence; the other refusals are logged.  Where a move has several faults, the
centre is looked at first, then the radius, then the feed.

An arc whose step per tick is zero has no number of ticks; that is a fault.
-/
import GcodeSender.Fault
import GcodeSender.Journal
import GcodeSender.Gcode.Move

namespace GcodeSender

open Scalar Gcode

variable {α : Type} [Scalar α]

/-- Milliseconds between ticks, where nothing else is said. -/
def defaultTickMs : α := nat 25

/-- The distance travelled in one tick at a feed in units per minute. -/
def stepLength (feed tickMs : α) : α := feed / nat 60000 * tickMs

/-- Why a move is not simulated. -/
inductive Refusal (α : Type) where
  | noLength
  | feedTooLow (feed : α)
  | noCentre
  | badRadius (problem : Arc.RadiusProblem α)
  | endsOnCentre

/-- What is logged about a refusal; a move of no length is passed over in silence. -/
def Refusal.message? : Refusal α → Option (Message α)
  | .noLength => none
  | .feedTooLow feed => some (.feedTooLow feed)
  | .noCentre => some (.text "Arc has neither radius nor center offset.")
  | .badRadius problem =>
    match problem with
    | .coincidentEnds => some (.text "Radius form arc with identical start and end points.")
    | .tooSmall radius chord => some (.radiusTooSmall radius chord)
  | .endsOnCentre => some (.text "Arc ends on its center point.")

/-! ## Straight moves -/

/-- The displacement that a target asks for. -/
def displacement (start : Position α) (target : Target α) : DistanceMode → Position α
  | .absolute =>
    let toward (a : Axis) : α :=
      match target.get a with
      | some value => value - start.get a
      | none => nat 0
    ⟨toward .x, toward .y, toward .z⟩
  | .incremental => target.completedBy .origin

/-- The motion of a straight move. -/
def planLinear (start : Position α) (target : Target α) (mode : DistanceMode) (feed tickMs : α) :
    Except (Refusal α) (LinearMotion α) :=
  let delta := displacement start target mode
  let total := delta.length
  if same total (nat 0) then .error .noLength
  else if atMost feed (nat 0) then .error (.feedTooLow feed)
  else
    let step := stepLength feed tickMs
    .ok (.new start (delta.map fun d => d / total * step) total)

/-! ## Arcs -/

/-- The point that a target asks for. -/
def destination (start : Position α) (target : Target α) : DistanceMode → Position α
  | .absolute => target.completedBy start
  | .incremental => start.add (target.completedBy .origin)

/-- The centre of an arc: from its radius if it has one, else from its I and J words. -/
def arcCentre (start stop : Point α) (move : Move α) (modes : Modes) (clockwise : Bool) :
    Except (Refusal α) (Point α) :=
  match move.radius with
  | some radius =>
    match Arc.centreOfRadius start stop radius clockwise with
    | .ok centre => .ok centre
    | .error problem => .error (.badRadius problem)
  | none =>
    if move.centre.isEmpty then .error .noCentre
    else .ok (Arc.centreOfWords start move.centre (modes.arcDistance = .incremental))

/-- The motion of an arc. -/
def planArc (start : Position α) (move : Move α) (modes : Modes) (feed tickMs : α) :
    Except Fault (Except (Refusal α) (ArcMotion α)) :=
  let clockwise := modes.motion = .arcClockwise
  let stop := destination start move.target modes.distance
  match arcCentre start.plane stop.plane move modes clockwise with
  | .error refusal => .ok (.error refusal)
  | .ok centre =>
    let radius := (stop.plane.sub centre).length
    if same radius (nat 0) then .ok (.error .endsOnCentre)
    else if atMost feed (nat 0) then .ok (.error (.feedTooLow feed))
    else
      let total := Arc.length start.plane stop.plane centre clockwise radius
      let step := stepLength feed tickMs
      if same step (nat 0) then .error .zeroStep
      else
        let ticks := raiseTo (nat 1) (total / step)
        let zStep := (stop.z - start.z) / ticks
        .ok (.ok (.new centre radius clockwise step total zStep))

/-! ## One tick -/

/-- What a tick makes of a motion: the position reached, the motion afterwards, and whether it
goes on. -/
structure Advance (α : Type) where
  position : Position α
  motion : Motion α
  goesOn : Bool

namespace LinearMotion

/-- One tick of a straight motion from a position. -/
def advance (m : LinearMotion α) (from_ : Position α) : Advance α :=
  let position := from_.add m.step
  ⟨position, .linear m, less (position.sub m.start).length (m.total - m.stepDistance)⟩

end LinearMotion

namespace ArcMotion

/-- The angle at which the next tick of an arc arrives from a position. -/
def nextAngle (m : ArcMotion α) (from_ : Position α) : α :=
  atan2 (from_.y - m.centre.y) (from_.x - m.centre.x) + m.angleStep

/-- One tick of an arc from a position; `none` where the angle is infinite. -/
def advance? (m : ArcMotion α) (from_ : Position α) : Option (Advance α) :=
  let angle := m.nextAngle from_
  if isInfinite angle then none
  else
    let travelled := m.travelled + m.stepDistance
    some
      { position :=
          ⟨m.centre.x + m.radius * cos angle, m.centre.y + m.radius * sin angle,
            from_.z + m.zStep⟩
        motion := .arc { m with travelled }
        goesOn := less travelled (m.total - m.stepDistance) }

end ArcMotion

/-- One tick of a motion from a position. -/
def Motion.advance (from_ : Position α) : Motion α → Except Fault (Advance α)
  | .linear m => .ok (m.advance from_)
  | .arc m =>
    match m.advance? from_ with
    | some a => .ok a
    | none => .error .infiniteAngle

end GcodeSender
