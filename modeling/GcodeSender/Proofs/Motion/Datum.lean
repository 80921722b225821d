/-
# `GcodeSender.Proofs.Motion.Datum` — absolute and incremental words of one move

The words of a move are numbers counted from a datum: the origin, or where the
machine is.  The distance mode says from which the axis words are counted, the
arc distance mode from which the I and J words are.  One move can be written
under each of the four pairs of modes (`Move.written`):

    distance     absolute   X Y Z as they are    incremental   less the position
    arc distance absolute   I J as they are      incremental   less the position

What a word that is missing stands for depends on the datum too.  Counted from
the origin it is the coordinate of the machine; counted from the machine it is
zero (`add_getD_sub`).  So the plan does not tell the four writings apart, and
neither does anything that follows from the plan (`forms_agree`).

This is a law of exact numbers: rounding does not give `p + (t − p) = t`.
-/
import GcodeSender.Proofs.Motion.Exact

namespace GcodeSender

open Scalar Gcode

/-! ## One move, counted from two places -/

/-- The same coordinates, counted from a position. -/
def Target.since (p : Position ℝ) (t : Target ℝ) : Target ℝ :=
  ⟨t.x.map (· - p.x), t.y.map (· - p.y), t.z.map (· - p.z)⟩

/-- The same centre, counted from a point. -/
def CentreWords.since (p : Point ℝ) (c : CentreWords ℝ) : CentreWords ℝ :=
  ⟨c.i.map (· - p.x), c.j.map (· - p.y)⟩

namespace Gcode

/-- A target as it is written under a distance mode, where the machine is at `p`. -/
def DistanceMode.target (p : Position ℝ) (t : Target ℝ) : DistanceMode → Target ℝ
  | .absolute => t
  | .incremental => t.since p

/-- A centre as it is written under an arc distance mode, where the machine is at `p`. -/
def DistanceMode.centre (p : Point ℝ) (c : CentreWords ℝ) : DistanceMode → CentreWords ℝ
  | .absolute => c
  | .incremental => c.since p

/-- A move as it is written under two distance modes, where the machine is at `p`. -/
def Move.written (m : Move ℝ) (p : Position ℝ) (distance arcDistance : DistanceMode) : Move ℝ where
  target := distance.target p m.target
  radius := m.radius
  centre := arcDistance.centre p.plane m.centre

end Gcode

/-- To go on from here by what is counted from here is to arrive; a word that is missing goes
nowhere. -/
theorem add_getD_sub (here : ℝ) (value : Option ℝ) :
    here + (value.map (· - here)).getD (nat 0) = value.getD here := by
  cases value with
  | none => simp
  | some value => exact add_sub_cancel here value

/-! ## What the words are asked for -/

section Words
variable (start : Position ℝ) (t : Target ℝ) (mode : DistanceMode)

theorem displacement_written :
    displacement start (mode.target start t) mode = displacement start t .absolute := by
  cases mode with
  | absolute => rfl
  | incremental =>
    obtain ⟨x, y, z⟩ := t
    cases x <;> cases y <;> cases z <;> rfl

theorem destination_written :
    destination start (mode.target start t) mode = destination start t .absolute := by
  cases mode with
  | absolute => rfl
  | incremental =>
    simp only [destination, DistanceMode.target, Target.since, Target.completedBy, Position.add,
      Position.origin, add_getD_sub]

variable (p : Point ℝ) (c : CentreWords ℝ)

theorem centreOfWords_written :
    Arc.centreOfWords p (mode.centre p c) (mode = .incremental) = Arc.centreOfWords p c false := by
  cases mode with
  | absolute => rfl
  | incremental =>
    simp only [Arc.centreOfWords, DistanceMode.centre, CentreWords.since, add_getD_sub, decide_true,
      if_true, Bool.false_eq_true, if_false]

/-- Whether there is an I or a J word is the same from everywhere. -/
theorem isEmpty_written : (mode.centre p c).isEmpty = c.isEmpty := by
  cases mode with
  | absolute => rfl
  | incremental => simp [DistanceMode.centre, CentreWords.since, CentreWords.isEmpty]

end Words

/-! ## What is planned -/

section Plans
variable (start : Position ℝ) (move : Move ℝ) (modes : Modes) (feed tickMs : ℝ)
  (distance arcDistance : DistanceMode)

theorem planLinear_written :
    planLinear start (distance.target start move.target) distance feed tickMs =
      planLinear start move.target .absolute feed tickMs := by
  rw [planLinear, planLinear, displacement_written]

theorem arcCentre_written (stop : Point ℝ) (clockwise : Bool) :
    arcCentre start.plane stop (move.written start distance arcDistance)
        { modes with distance, arcDistance } clockwise =
      arcCentre start.plane stop move { modes with distance := .absolute, arcDistance := .absolute }
        clockwise := by
  have words := centreOfWords_written arcDistance start.plane move.centre
  have given := isEmpty_written arcDistance start.plane move.centre
  simp only [arcCentre, Move.written, given, words]
  rfl

theorem planArc_written :
    planArc start (move.written start distance arcDistance) { modes with distance, arcDistance }
        feed tickMs =
      planArc start move { modes with distance := .absolute, arcDistance := .absolute } feed
        tickMs := by
  have stop : destination start (move.written start distance arcDistance).target distance =
      destination start move.target .absolute := destination_written start move.target distance
  simp only [planArc, stop, arcCentre_written]

end Plans

/-- However the words of a move are counted, under the modes that say so: the same straight motion
and the same arc are planned, or neither is and for the same reason, and the same begins. -/
theorem Simulation.forms_agree (s : Simulation ℝ) (move : Move ℝ) (modes : Modes) (feed now : ℝ)
    (distance arcDistance : DistanceMode) :
    let written := move.written s.machine.position distance arcDistance
    let counted : Modes := { modes with distance, arcDistance }
    let plain : Modes := { modes with distance := .absolute, arcDistance := .absolute }
    s.planLinear written.target distance feed = s.planLinear move.target .absolute feed ∧
      s.planArc written counted feed = s.planArc move plain feed ∧
      s.dispatch written counted feed now = s.dispatch move plain feed now := by
  intro written counted plain
  have straight : s.planLinear written.target counted.distance feed =
      s.planLinear move.target plain.distance feed := planLinear_written _ _ _ _ _
  have arc : s.planArc written counted feed = s.planArc move plain feed :=
    planArc_written _ _ _ _ _ _ _
  refine ⟨straight, arc, ?_⟩
  rw [dispatch, dispatch, straight, arc]

end GcodeSender
