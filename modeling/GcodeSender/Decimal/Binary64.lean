/-
# `GcodeSender.Decimal.Binary64` — the exact value of a floating-point number

A finite number of the machine is `± m · 2 ^ e` with `m < 2 ^ 53`.  This module
opens a `Float` into that form and closes a quotient of natural numbers to the
nearest `Float`.  Both directions go through the 64-bit word, so nothing here
depends on floating-point operations.

    word      sign (1 bit) | field (11 bits) | fraction (52 bits)
    field 0           m = fraction                 e = −1074
    field 1 … 2046    m = 2 ^ 52 + fraction        e = field − 1075
    field 2047        infinite (fraction 0), or not a number
-/
import GcodeSender.Decimal.Rounding

namespace GcodeSender.Decimal

/-- A number of the machine, opened. -/
inductive Binary64 where
  /-- The value `± m · 2 ^ e`. -/
  | finite (negative : Bool) (m : Nat) (e : Int)
  | infinite (negative : Bool)
  | undefined
  deriving DecidableEq, Repr

/-- A power of an integer exponent as a fraction: numerator and denominator. -/
def powerFraction (base : Nat) (e : Int) : Nat × Nat := (base.pow e.toNat, base.pow (-e).toNat)

namespace Binary64

/-- The lowest bit of the sign: `2 ^ 63`. -/
def signUnit : Nat := 0x8000000000000000

/-- The lowest bit of the exponent field: `2 ^ 52`, which is also the implicit bit of a
significand. -/
def fractionUnit : Nat := 0x10000000000000

/-- The word of plus infinity: the first word past the finite ones. -/
def infinityWord : Nat := 0x7FF0000000000000

/-- A `Float`, opened. -/
def ofFloat (x : Float) : Binary64 :=
  let word : Nat := x.toBits.toNat
  let negative := decide (signUnit ≤ word)
  let field : Nat := word / fractionUnit % 2048
  let fraction : Nat := word % fractionUnit
  if field = 2047 then if fraction = 0 then .infinite negative else .undefined
  else if field = 0 then .finite negative fraction (-1074)
  else .finite negative (fractionUnit + fraction) ((field : Int) - 1075)

/-- The greatest `l` with `2 ^ l ≤ num / den`, for positive `num` and `den`. -/
def floorLog2 (num den : Nat) : Int :=
  let l : Int := (Nat.log2 num : Int) - Nat.log2 den
  let (p, q) := powerFraction 2 l
  if den * p ≤ num * q then l else l - 1

/-- The word of the finite number or infinity nearest to `num / den`, ties going to the even word.
The words of the finite positive numbers run in the order of their values, so a carry out of the
significand lands on the right word, and a carry out of the largest on the word of infinity. -/
def nearestWord (num den : Nat) : Nat :=
  if num = 0 then 0
  else
    let e := max (-1074) (floorLog2 num den - 52)
    let (p, q) := powerFraction 2 e
    min infinityWord ((e + 1074).toNat * fractionUnit + roundDiv (num * q) (den * p))

/-- The `Float` nearest to `± num / den`. -/
def nearest (negative : Bool) (num den : Nat) : Float :=
  .ofBits (.ofNat ((if negative then signUnit else 0) + nearestWord num den))

/-- Plus or minus infinity. -/
def infinity (negative : Bool) : Float :=
  .ofBits (.ofNat ((if negative then signUnit else 0) + infinityWord))

end Binary64

end GcodeSender.Decimal
