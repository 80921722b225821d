/-
# `GcodeSender.Motion.Basic` — planned motions

A planned motion carries all that a tick needs.  A linear motion adds the same
displacement at every tick; an arc turns about its centre by the same angle,
and moves along Z by the same amount, so an arc with a Z target is a helix.

    linear   start, step                          stepDistance, total
    arc      centre, radius, angleStep, zStep     stepDistance, total, travelled

Both end by comparing a distance with `total − stepDistance`: a linear motion
the distance from its start to where the machine is shown, an arc the distance
it has travelled.  An arc turns clockwise by a negative angle.
-/
import GcodeSender.Geometry.Arc

namespace GcodeSender

open Scalar

variable {α : Type} [Scalar α]

/-- Straight travel by a constant step. -/
structure LinearMotion (α : Type) where
  start : Position α
  step : Position α
  stepDistance : α
  total : α
  deriving DecidableEq, Repr

/-- Travel around a centre in the XY plane. -/
structure ArcMotion (α : Type) where
  centre : Point α
  radius : α
  clockwise : Bool
  stepDistance : α
  total : α
  zStep : α
  angleStep : α
  travelled : α
  deriving DecidableEq, Repr

/-- A straight motion; the distance per tick is the length of its step. -/
def LinearMotion.new (start step : Position α) (total : α) : LinearMotion α :=
  ⟨start, step, step.length, total⟩

/-- An arc that has not begun. -/
def ArcMotion.new (centre : Point α) (radius : α) (clockwise : Bool) (stepDistance total zStep : α) :
    ArcMotion α :=
  let angle := turn * stepDistance / Arc.circumference radius
  { centre, radius, clockwise, stepDistance, total, zStep,
    angleStep := if clockwise then -angle else angle, travelled := nat 0 }

/-- A planned motion. -/
inductive Motion (α : Type) where
  | linear (motion : LinearMotion α)
  | arc (motion : ArcMotion α)
  deriving DecidableEq, Repr

/-! ## Text -/

/-- Truth values as messages show them. -/
def boolText (b : Bool) : String := if b then "True" else "False"

/-- A list in square brackets. -/
def bracketed (items : List String) : String := "[" ++ ", ".intercalate items ++ "]"

/-- A motion in words; `number` writes the numbers. -/
def Motion.describe (number : α → String) : Motion α → String
  | .linear m =>
    let list (p : Position α) : String := bracketed (Axis.all.map fun a => number (p.get a))
    "LinearMotion(start=" ++ list m.start ++ ", step=" ++ list m.step ++ ", distance=" ++
      number m.total ++ ")"
  | .arc m =>
    "ArcMotion(center=(" ++ number m.centre.x ++ ", " ++ number m.centre.y ++ "), radius=" ++
      number m.radius ++ ", clockwise=" ++ boolText m.clockwise ++ ", distance=" ++
      number m.total ++ ")"

end GcodeSender
