/-
# `GcodeSender.Decimal.Numeral` — numbers as they are written

A numeral is read exactly: sign, digits and power of ten.  Rounding to a
machine number is a separate step (`Numeral.toFloat`), so that the same line
of G-code means an exact number to an exact machine.

    number    [sign] digits [. [digits]] [exponent]   or   [sign] . digits [exponent]
    exponent  e or E, [sign], digits
    words     inf, infinity, nan, in any case, with a sign
    digits    of any script, a single underscore allowed between two of them

Blanks around the number do not count.  Whole numbers (`readInt?`) are a sign
and digits.
-/
import GcodeSender.Text.Blank
import GcodeSender.Text.Digit
import GcodeSender.Decimal.Shortest

namespace GcodeSender

/-- A number as it was written. -/
inductive Numeral where
  /-- The value `± mantissa · 10 ^ exponent`. -/
  | decimal (negative : Bool) (mantissa : Nat) (exponent : Int)
  | infinite (negative : Bool)
  | undefined
  deriving DecidableEq, Repr, Inhabited

namespace Numeral

open Text

/-- A natural number as a numeral. -/
def ofNat (n : Nat) : Numeral := .decimal false n 0

/-- The nearest machine number.  A value past the range of the machine is infinite and one below
it zero, however long its exponent is. -/
def toFloat : Numeral → Float
  | .undefined => .ofBits 0x7FF8000000000000
  | .infinite negative => Decimal.Binary64.infinity negative
  | .decimal negative mantissa exponent =>
    let size := (Decimal.digits mantissa).length + exponent
    if mantissa = 0 ∨ size < -400 then Decimal.Binary64.nearest negative 0 1
    else if 400 < size then Decimal.Binary64.infinity negative
    else
      let (p, q) := Decimal.powerFraction 10 exponent
      Decimal.Binary64.nearest negative (mantissa * p) q

/-! ## Reading -/

/-- Does a text begin with a digit? -/
def startsWithDigit : List Char → Bool
  | [] => false
  | c :: _ => isDigit c

/-- The digits at the head of a text and the rest; an underscore between two digits is passed
over. -/
def digitRun : List Char → List Char × List Char
  | [] => ([], [])
  | [c] => if isDigit c then ([c], []) else ([], [c])
  | c :: d :: rest =>
    if !isDigit c then ([], c :: d :: rest)
    else if d == '_' && startsWithDigit rest then
      let (ds, behind) := digitRun rest
      (c :: ds, behind)
    else
      let (ds, behind) := digitRun (d :: rest)
      (c :: ds, behind)

/-- A sign at the head of a text (is it a minus?) and the rest. -/
def sign : List Char → Bool × List Char
  | '-' :: rest => (true, rest)
  | '+' :: rest => (false, rest)
  | rest => (false, rest)

/-- A letter of ASCII in lower case. -/
def lowerAscii (c : Char) : Char := c.toLower

/-- The exponent at the head of a text and the rest; no exponent is exponent zero. -/
def exponentPart : List Char → Int × List Char
  | [] => (0, [])
  | c :: rest =>
    if c == 'e' || c == 'E' then
      let (negative, behind) := sign rest
      match digitRun behind with
      | ([], _) => (0, c :: rest)
      | (ds, behind) => (if negative then -(natOfDigits ds : Int) else natOfDigits ds, behind)
    else (0, c :: rest)

/-- The fraction digits at the head of a text and the rest: a point, and digits if there are any. -/
def fractionPart : List Char → List Char × List Char
  | '.' :: rest => digitRun rest
  | rest => ([], rest)

/-- A number without its sign, taking up the whole text. -/
def readMagnitude? (negative : Bool) (s : List Char) : Option Numeral :=
  let lowered := s.map lowerAscii
  if lowered = ['i', 'n', 'f'] || lowered = ['i', 'n', 'f', 'i', 'n', 'i', 't', 'y'] then
    some (.infinite negative)
  else if lowered = ['n', 'a', 'n'] then some .undefined
  else
    let (whole, behind) := digitRun s
    let (fraction, behind) := fractionPart behind
    let (exponent, behind) := exponentPart behind
    if (whole ++ fraction).isEmpty || !behind.isEmpty then none
    else some (.decimal negative (natOfDigits (whole ++ fraction)) (exponent - fraction.length))

/-- The number that a text writes. -/
def read? (s : List Char) : Option Numeral :=
  let (negative, magnitude) := sign (trim s)
  readMagnitude? negative magnitude

/-- The whole number that a text writes, with the count of its digits. -/
def readInt? (s : List Char) : Option (Int × Nat) :=
  let (negative, behind) := sign (trim s)
  match digitRun behind with
  | ([], _) => none
  | (ds, []) =>
    let n : Int := natOfDigits ds
    some (if negative then -n else n, ds.length)
  | _ => none

end Numeral

end GcodeSender
