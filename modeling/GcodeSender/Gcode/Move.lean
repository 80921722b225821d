/-
# `GcodeSender.Gcode.Move` — the words of a move

A line moves the machine if it has an axis word.  The words that describe a
move are the axis words (the target), the R word (a radius) and the I and J
words (a centre).  Of a word that is given twice the last one counts.

A move that cannot start at once is kept as a `QueuedMotion`: its line, and the
modes and the feed that were in force when it was sent.
-/
import GcodeSender.Geometry.Vector
import GcodeSender.Gcode.Command
import GcodeSender.Gcode.Modes
import GcodeSender.Gcode.Word

namespace GcodeSender.Gcode

open Scalar

/-- Does the line move the machine? -/
def hasAxisWords (words : List Word) : Bool := words.any (·.letter.isAxis)

/-- The words that describe a move. -/
structure Move (α : Type) where
  target : Target α := {}
  radius : Option α := none
  centre : CentreWords α := {}
  deriving DecidableEq, Repr

/-- Take up one more word. -/
def Move.add {α : Type} [Scalar α] (m : Move α) (w : Word) : Move α :=
  let value : α := ofNumeral w.value
  match w.letter with
  | .x => { m with target := m.target.set .x value }
  | .y => { m with target := m.target.set .y value }
  | .z => { m with target := m.target.set .z value }
  | .r => { m with radius := some value }
  | .i => { m with centre := { m.centre with i := some value } }
  | .j => { m with centre := { m.centre with j := some value } }
  | .g | .f | .other => m

/-- The move that a line describes. -/
def Move.ofWords {α : Type} [Scalar α] (words : List Word) : Move α := words.foldl Move.add {}

end GcodeSender.Gcode

namespace GcodeSender

open Gcode

/-- A line that moves, with the modes and the feed that were in force when it was sent. -/
structure QueuedMotion (α : Type) where
  command : Bytes
  words : List Word
  modes : Modes
  feed : α
  deriving DecidableEq, Repr

/-- Is the queued line a jog? -/
def QueuedMotion.isJog {α : Type} (q : QueuedMotion α) : Bool := Gcode.isJog q.command

end GcodeSender
