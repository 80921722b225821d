/-
# `GcodeSender.Text.Literal` — bytes and texts as quoted literals

Messages show a command as a literal, so that control characters and broken
text stay visible on one line.

    bytes    b'…'   the printable ASCII bytes as they are
    text     '…'    the printable characters as they are

In both the mark is `'`, unless the content holds `'` and no `"`; then it is
`"`.  The mark and the backslash are escaped, as are tab, line feed and
carriage return by letter; everything else that cannot be printed is escaped
by its number, with two, four or eight hexadecimal digits.
-/
import GcodeSender.Text.Bytes

namespace GcodeSender.Text.Literal

/-- One lower-case hexadecimal digit. -/
def hexDigit (n : Nat) : Char :=
  if n < 10 then Char.ofNat (0x30 + n) else Char.ofNat (0x61 + n - 10)

/-- The last `width` hexadecimal digits of a number. -/
def hex (width n : Nat) : List Char :=
  match width with
  | 0 => []
  | w + 1 => hex w (n / 16) ++ [hexDigit (n % 16)]

/-- The quotation mark for a content: `'` unless only that would need an escape. -/
def markFor (content : List Char) : Char :=
  if content.contains '\'' && !content.contains '"' then '"' else '\''

/-- Characters that a literal of text shows by number: controls, format characters, separators
other than the space, and what is not a character in use. -/
def isHidden (c : Char) : Bool :=
  let n := c.toNat
  n < 0x20 || (0x7F ≤ n && n ≤ 0xA0) || n == 0xAD || n == 0x61C || n == 0x1680 || n == 0x180E ||
    (0x2000 ≤ n && n ≤ 0x200F) || (0x2028 ≤ n && n ≤ 0x202F) || (0x205F ≤ n && n ≤ 0x206F) ||
    n == 0x3000 || (0xE000 ≤ n && n ≤ 0xF8FF) || n == 0xFEFF || (0xFFF0 ≤ n && n ≤ 0xFFFB) ||
    n == 0xFFFE || n == 0xFFFF || 0xE0000 ≤ n

/-- A character that needs no number: itself, or its escape by letter. -/
def plain (mark c : Char) : List Char :=
  if c == '\\' || c == mark then ['\\', c]
  else if c == '\t' then ['\\', 't']
  else if c == '\n' then ['\\', 'n']
  else if c == '\r' then ['\\', 'r']
  else [c]

/-- Is the character shown by letter or by itself? -/
def isLettered (c : Char) : Bool := c == '\t' || c == '\n' || c == '\r'

/-- One character of a literal of text. -/
def escapeChar (mark c : Char) : List Char :=
  if isHidden c && !isLettered c then
    let n := c.toNat
    if n < 0x100 then '\\' :: 'x' :: hex 2 n
    else if n < 0x10000 then '\\' :: 'u' :: hex 4 n
    else '\\' :: 'U' :: hex 8 n
  else plain mark c

/-- One byte of a literal of bytes. -/
def escapeByte (mark : Char) (b : UInt8) : List Char :=
  let c := Char.ofNat b.toNat
  if (b < 0x20 || 0x7F ≤ b) && !isLettered c then '\\' :: 'x' :: hex 2 b.toNat
  else plain mark c

end GcodeSender.Text.Literal

namespace GcodeSender

open Text.Literal

/-- A text as a quoted literal. -/
def Text.quoted (s : List Char) : String :=
  let mark := markFor s
  String.ofList (mark :: s.flatMap (escapeChar mark) ++ [mark])

/-- Bytes as a quoted literal. -/
def Bytes.literal (s : Bytes) : String :=
  let mark := markFor (s.map fun b => Char.ofNat b.toNat)
  String.ofList ('b' :: mark :: s.flatMap (escapeByte mark) ++ [mark])

end GcodeSender
