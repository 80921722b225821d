/-
# `GcodeSender.Decimal.Shortest` — the fewest digits that read back

The text of a machine number is the shortest decimal that reads back as the
same number and, among those of that length, the nearest to it.

For `m · 2 ^ e` the reals that round to it form an interval around it, its
ends included iff `m` is even.  A decimal of `p` digits lies on a grid of
powers of ten; the only points of the grid worth trying are the two
neighbours of the number, for if any point of the grid is inside the
interval, one of these is.  The grids are tried from one digit up to
seventeen, where a neighbour is always inside.

    value     4m · 2 ^ (e−2)
    lower end (4m − 2) · 2 ^ (e−2),  or (4m − 1) · 2 ^ (e−2) at a power of two
    upper end (4m + 2) · 2 ^ (e−2)

How the digits are laid out — where the point stands, when an exponent is
written — is the record `Layout`.
-/
import GcodeSender.Decimal.Binary64

namespace GcodeSender.Decimal

/-! ## Digits -/

/-- The decimal digits of a natural number. -/
def digits (n : Nat) : List Char := Nat.toDigits 10 n

/-- The least `d` with `num / den < 10 ^ d`, for positive `num` and `den`: where the point stands
in `0.d₁d₂… · 10 ^ d`. -/
def pointOf (num den : Nat) : Int :=
  let d : Int := (digits num).length - (digits den).length
  let (p, q) := powerFraction 10 d
  if num * q < den * p then d else d + 1

/-- The reals that round to a number, as three numerators over one denominator. -/
structure Interval where
  low : Nat
  value : Nat
  high : Nat
  den : Nat
  /-- Do the ends belong to the interval? -/
  closed : Bool

/-- The interval of `m · 2 ^ e`. -/
def Interval.of (m : Nat) (e : Int) : Interval :=
  let (p, q) := powerFraction 2 (e - 2)
  let below := if m = Nat.pow 2 52 ∧ -1074 < e then 1 else 2
  { low := (4 * m - below) * p, value := 4 * m * p, high := (4 * m + 2) * p, den := q,
    closed := m % 2 = 0 }

/-- Is `c · 10 ^ k` inside the interval? -/
def Interval.contains (i : Interval) (c : Nat) (k : Int) : Bool :=
  let (p, q) := powerFraction 10 k
  let x := c * p * i.den
  if i.closed then i.low * q ≤ x && x ≤ i.high * q else i.low * q < x && x < i.high * q

/-- The neighbour of the value on the grid of `10 ^ k` that is inside the interval; of two, the
nearer one, and the even one of two equally near. -/
def Interval.neighbour? (i : Interval) (k : Int) : Option Nat :=
  let (p, q) := powerFraction 10 k
  let below := i.value * q / (p * i.den)
  match i.contains below k, i.contains (below + 1) k with
  | true, false => some below
  | false, true => some (below + 1)
  | false, false => none
  | true, true => some (roundDiv (i.value * q) (p * i.den))

/-- The shortest decimal `c · 10 ^ k` for `m · 2 ^ e`, where `m` is positive. -/
def shortest (m : Nat) (e : Int) : Nat × Int :=
  let i := Interval.of m e
  let d := pointOf i.value i.den
  let grid (p : Nat) : Option (Nat × Int) := (i.neighbour? (d - p)).map (·, d - p)
  ((List.range' 1 17).findSome? grid).getD (m, e)

/-! ## Layout -/

/-- How digits become text. -/
structure Layout where
  /-- The least exponent written without an exponent mark. -/
  least : Int
  /-- The greatest exponent written without an exponent mark. -/
  greatest : Int
  /-- Is a point and a zero put behind a whole number? -/
  wholePoint : Bool
  /-- How many digits an exponent has at least. -/
  exponentDigits : Nat
  infinite : String
  undefined : String

/-- Machine numbers are written out between 10⁻⁴ and 10¹⁶; a whole one keeps `.0`; an exponent
carries its sign and two digits. -/
def machineLayout : Layout := ⟨-4, 15, true, 2, "inf", "nan"⟩

/-- `width` zeros and the digits, cut to the last `width` or all of the digits. -/
def padLeft (width : Nat) (ds : List Char) : List Char :=
  List.replicate (width - ds.length) '0' ++ ds

/-- An exponent with its sign. -/
def Layout.exponent (l : Layout) (e : Int) : List Char :=
  'e' :: (if e < 0 then '-' else '+') :: padLeft l.exponentDigits (digits e.natAbs)

/-- The digits `d₁d₂…` with the point at `point`, in `0.d₁d₂… · 10 ^ point`. -/
def Layout.write (l : Layout) (ds : List Char) (point : Int) : List Char :=
  if l.least ≤ point - 1 ∧ point - 1 ≤ l.greatest then
    if point ≤ 0 then '0' :: '.' :: List.replicate (-point).toNat '0' ++ ds
    else
      let whole := point.toNat
      if whole < ds.length then ds.take whole ++ '.' :: ds.drop whole
      else ds ++ List.replicate (whole - ds.length) '0' ++ if l.wholePoint then ['.', '0'] else []
  else
    let tail := ds.drop 1
    ds.take 1 ++ (if tail.isEmpty then [] else '.' :: tail) ++ l.exponent (point - 1)

/-- A minus sign for negative numbers. -/
def signed (negative : Bool) (s : List Char) : String :=
  String.ofList (if negative then '-' :: s else s)

/-- The text of a number under a layout. -/
def Layout.text (l : Layout) (x : Binary64) : String :=
  match x with
  | .undefined => l.undefined
  | .infinite negative => signed negative l.infinite.toList
  | .finite negative 0 _ => signed negative (l.write ['0'] 1)
  | .finite negative m e =>
    let (c, k) := shortest m e
    let ds := digits c
    let point := k + ds.length
    signed negative (l.write ((ds.reverse.dropWhile (· == '0')).reverse) point)

/-- The text of a machine number: the fewest digits that read back. -/
def text (x : Float) : String := machineLayout.text (.ofFloat x)

end GcodeSender.Decimal
