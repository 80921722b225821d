/-
# `GcodeSender.Decimal.Fixed` — a fixed number of places

Positions are shown with a fixed number of places, rounded from the exact
binary value, an exact half going to the even digit.  Very large ones are
shown as one digit, a point, a fixed number of places and an exponent.

    fixed 3        1234567.8915   ↦   1234567.891   (the binary value is below the half)
                   −0.0001        ↦   −0.000        (the sign stays)
    scientific 8   1e12           ↦   1.00000000e+12
-/
import GcodeSender.Decimal.Shortest

namespace GcodeSender.Decimal

/-- Digits with a point before the last `places` of them. -/
def withPlaces (places n : Nat) : List Char :=
  let ds := padLeft (places + 1) (digits n)
  let whole := ds.length - places
  if places = 0 then ds else ds.take whole ++ '.' :: ds.drop whole

/-- A number with `places` digits behind the point. -/
def fixed (places : Nat) (x : Float) : String :=
  match Binary64.ofFloat x with
  | .undefined => machineLayout.undefined
  | .infinite negative => signed negative machineLayout.infinite.toList
  | .finite negative m e =>
    let (p, q) := powerFraction 2 e
    signed negative (withPlaces places (roundDiv (m * p * Nat.pow 10 places) q))

/-- A number as one digit, `places` digits behind the point, and an exponent. -/
def scientific (places : Nat) (x : Float) : String :=
  match Binary64.ofFloat x with
  | .undefined => machineLayout.undefined
  | .infinite negative => signed negative machineLayout.infinite.toList
  | .finite negative 0 _ =>
    signed negative (withPlaces places 0 ++ machineLayout.exponent 0)
  | .finite negative m e =>
    let (p, q) := powerFraction 2 e
    let point := pointOf (m * p) q
    let (s, t) := powerFraction 10 (places - (point - 1))
    let c := roundDiv (m * p * s) (q * t)
    if c < Nat.pow 10 (places + 1) then
      signed negative (withPlaces places c ++ machineLayout.exponent (point - 1))
    else signed negative (withPlaces places (c / 10) ++ machineLayout.exponent point)

end GcodeSender.Decimal
