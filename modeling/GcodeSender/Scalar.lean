/-
# `GcodeSender.Scalar` — the arithmetic a motion is computed in

Planning a move, stepping it tick by tick and measuring an arc are written
once, over any type with the operations of `Scalar`.  The program runs on
`Float`; the laws of the plans are laws of exact arithmetic, and an exact
scalar is another instance.

Comparisons are tests (`Bool`), because a machine number need not be
comparable: where either side is not a number, `less` and `same` are both
false.  Every branch below therefore says which way it goes when a test fails,
and `atMost a b` is "less or the same", not "not greater".

Division and the circular functions are total here.  The two places where the
program refuses to divide, or to take the cosine of an infinite angle, test
first and report a `Fault`.
-/
import GcodeSender.Decimal.Numeral

namespace GcodeSender

/-- Numbers that motions can be computed in. -/
class Scalar (α : Type) extends Add α, Sub α, Mul α, Div α, Neg α where
  /-- The number nearest to a numeral. -/
  ofNumeral : Numeral → α
  less : α → α → Bool
  same : α → α → Bool
  isInfinite : α → Bool
  sqrt : α → α
  sin : α → α
  cos : α → α
  acos : α → α
  /-- The angle of the point with the given ordinate and abscissa. -/
  atan2 : α → α → α
  /-- The length of a plane vector. -/
  hypot : α → α → α
  pi : α
  /-- The whole part of a number, zero below one. -/
  wholePart : α → Nat

namespace Scalar

variable {α : Type} [Scalar α]

/-- A natural number. -/
def nat (n : Nat) : α := ofNumeral (.ofNat n)

/-- The number `m / 10 ^ places`. -/
def decimal (m places : Nat) : α := ofNumeral (.decimal false m (-places))

/-- Less or the same. -/
def atMost (a b : α) : Bool := less a b || same a b

/-- `x`, or `bound` where `bound` is greater. -/
def raiseTo (bound x : α) : α := if less x bound then bound else x

/-- `x` between `−1` and `1`; where `x` is no number, `1`. -/
def clampUnit (x : α) : α :=
  let lowered := if less x (nat 1) then x else nat 1
  if less (-(nat 1)) lowered then lowered else -(nat 1)

/-- One full turn. -/
def turn : α := nat 2 * pi

end Scalar

/-! ## The machine's own numbers -/

namespace Float

/-- The length of a plane vector.  Both components are scaled by the same power of two first, so
the squares neither overflow nor vanish; an infinite component makes the length infinite. -/
def planeLength (x y : Float) : Float :=
  let a := x.abs
  let b := y.abs
  if a.isInf || b.isInf then Decimal.Binary64.infinity false
  else
    let large := if a < b then b else a
    if large == 0.0 then (a + b).abs
    else
      let (_, e) := large.frExp
      let u := a.scaleB (-e)
      let v := b.scaleB (-e)
      (u * u + v * v).sqrt.scaleB e

end Float

instance : Scalar Float where
  ofNumeral := Numeral.toFloat
  less a b := decide (a < b)
  same a b := a == b
  isInfinite x := x.isInf
  sqrt := Float.sqrt
  sin := Float.sin
  cos := Float.cos
  acos := Float.acos
  atan2 := Float.atan2
  hypot := Float.planeLength
  pi := 3.141592653589793
  wholePart x := x.toUInt64.toNat

end GcodeSender
