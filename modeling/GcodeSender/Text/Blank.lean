/-
# `GcodeSender.Text.Blank` — blank characters and trimming

Two notions of blank meet in this program.  *Text* is blank where Unicode says
white space, and at the four information separators U+001C to U+001F; *bytes*
are blank at the six ASCII blanks only.  A line is trimmed as bytes before it
goes to the machine and as text before it is split into words, so the two
notions must not be mixed up.

    text    isBlank      29 characters       trim
    bytes   isBlankByte  6 bytes             trimBytes

Both trims cut the same way: drop the blanks in front, then those behind
(`trimWith`).
-/

namespace GcodeSender.Text

/-- Unicode white space, and the four information separators. -/
def isBlank (c : Char) : Bool :=
  let n := c.toNat
  (0x09 ≤ n && n ≤ 0x0D) || (0x1C ≤ n && n ≤ 0x20) || n == 0x85 || n == 0xA0 || n == 0x1680 ||
    (0x2000 ≤ n && n ≤ 0x200A) || n == 0x2028 || n == 0x2029 || n == 0x202F || n == 0x205F ||
    n == 0x3000

/-- The ASCII blanks: tab, line feed, vertical tab, form feed, carriage return and space. -/
def isBlankByte (b : UInt8) : Bool :=
  (0x09 ≤ b && b ≤ 0x0D) || b == 0x20

/-- A list without the elements in front and behind that satisfy `p`. -/
def trimWith {α : Type} (p : α → Bool) (s : List α) : List α :=
  ((s.dropWhile p).reverse.dropWhile p).reverse

/-- Text without the blanks in front and behind. -/
def trim (s : List Char) : List Char := trimWith isBlank s

/-- Bytes without the ASCII blanks in front and behind. -/
def trimBytes (s : List UInt8) : List UInt8 := trimWith isBlankByte s

/-- Every blank of ASCII text is a blank of text. -/
theorem isBlank_of_isWhitespace {c : Char} (h : c.isWhitespace = true) : isBlank c = true := by
  simp only [Char.isWhitespace, Bool.or_eq_true, decide_eq_true_eq] at h
  rcases h with ((h | h) | h) | h <;> subst h <;> decide

end GcodeSender.Text
