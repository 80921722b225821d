/-
# `GcodeSender.Gcode.Word` — the words of G-code

A word is a letter and a number.  The machine state follows eight letters; the
others keep their place in the line and nothing more.

    letter              form of the number
    G, M                digits, and at most one digit behind a point       90.1
    L, N, T             digits                                             10
    O                   the rest of the text, number or not
    any other           an optional minus, digits with an optional point   -2.5, 7., .5

Four characters outside ASCII are letters too: the dotless i stands for I and
the long s for S, while the dotted capital I and the Kelvin sign look like
letters and belong to no word.
-/
import GcodeSender.Decimal.Numeral

namespace GcodeSender.Gcode

/-- The letters that the machine state follows. -/
inductive Letter where
  | g
  | x
  | y
  | z
  | f
  | r
  | i
  | j
  | other
  deriving DecidableEq, Repr, Inhabited

/-- The name of a letter. -/
def Letter.name : Letter → String
  | .g => "G"
  | .x => "X"
  | .y => "Y"
  | .z => "Z"
  | .f => "F"
  | .r => "R"
  | .i => "I"
  | .j => "J"
  | .other => "OTHER"

/-- A character in upper case, as far as word letters go. -/
def upper (c : Char) : Char :=
  if c = '\u0131' then 'I' else if c = '\u017F' then 'S' else c.toUpper

/-- The letter that a character in upper case stands for. -/
def Letter.ofUpper : Char → Letter
  | 'G' => .g
  | 'X' => .x
  | 'Y' => .y
  | 'Z' => .z
  | 'F' => .f
  | 'R' => .r
  | 'I' => .i
  | 'J' => .j
  | _ => .other

/-- The letter that a text of one character stands for; longer texts stand for none. -/
def Letter.ofText : List Char → Letter
  | [c] => .ofUpper (upper c)
  | _ => .other

/-- A word: its letter, the character it was written with (in upper case), and its number. -/
structure Word where
  letter : Letter
  raw : Char
  value : Numeral
  deriving DecidableEq, Repr

/-- Does the letter name an axis? -/
def Letter.isAxis : Letter → Bool
  | .x | .y | .z => true
  | _ => false

/-! ## Forms of numbers -/

/-- The forms a number can take behind its letter. -/
inductive Form where
  | decimal
  | code
  /-- Digits, read as a number of the machine. -/
  | digits
  /-- Digits, read as a whole number first. -/
  | whole
  /-- Everything up to the end of the text. -/
  | rest
  deriving DecidableEq, Repr

/-- Does the character begin a word? -/
def isWordLetter (c : Char) : Bool :=
  c.isAlpha || c = '\u0131' || c = '\u0130' || c = '\u017F' || c = '\u212A'

/-- The form of the number behind a letter in upper case; `none` for a character that only looks
like a letter. -/
def formOf? (c : Char) : Option Form :=
  if !c.isUpper then none
  else if c = 'G' || c = 'M' then some .code
  else if c = 'L' || c = 'N' then some .whole
  else if c = 'T' then some .digits
  else if c = 'O' then some .rest
  else some .decimal

end GcodeSender.Gcode
