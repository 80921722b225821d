/-
# `GcodeSender.Text.Utf8` — reading bytes as text

UTF-8 is read piece by piece.  A piece is one well-formed character, or the
longest run that begins one and cannot be finished.  The strict reading fails
at the first broken piece, the lossy reading puts one replacement character
U+FFFD in its place.

    lead        second byte     bytes in all
    00 … 7F     —               1
    C2 … DF     80 … BF         2
    E0          A0 … BF         3
    E1 … EC     80 … BF         3
    ED          80 … 9F         3
    EE, EF      80 … BF         3
    F0          90 … BF         4
    F1 … F3     80 … BF         4
    F4          80 … 8F         4

Every byte past the second lies in 80 … BF.  The narrowed ranges of the second
byte keep out overlong forms, surrogates and numbers past U+10FFFF.
-/
import GcodeSender.Text.Bytes

namespace GcodeSender.Text.Utf8

/-- What a lead byte announces: the bits it contributes, the range of the second byte, and how
many bytes follow. -/
structure Lead where
  bits : Nat
  low : UInt8 := 0x80
  high : UInt8 := 0xBF
  trail : Nat

/-- The announcement of a lead byte, if it can begin a character. -/
def lead? (b : UInt8) : Option Lead :=
  if b < 0x80 then some ⟨b.toNat, 0x80, 0xBF, 0⟩
  else if b < 0xC2 then none
  else if b < 0xE0 then some ⟨b.toNat - 0xC0, 0x80, 0xBF, 1⟩
  else if b == 0xE0 then some ⟨0, 0xA0, 0xBF, 2⟩
  else if b == 0xED then some ⟨0x0D, 0x80, 0x9F, 2⟩
  else if b < 0xF0 then some ⟨b.toNat - 0xE0, 0x80, 0xBF, 2⟩
  else if b == 0xF0 then some ⟨0, 0x90, 0xBF, 3⟩
  else if b < 0xF4 then some ⟨b.toNat - 0xF0, 0x80, 0xBF, 3⟩
  else if b == 0xF4 then some ⟨4, 0x80, 0x8F, 3⟩
  else none

/-- A piece: a character, or `none` for a broken one, and how many bytes it takes past the lead. -/
structure Piece where
  char : Option Char
  extra : Nat

/-- Gather the trailing bytes of a character.  The first of them lies in `low … high`, the others
in 80 … BF; `taken` counts those already gathered. -/
def gather (low high : UInt8) (bits taken : Nat) : Nat → Bytes → Piece
  | 0, _ => ⟨some (Char.ofNat bits), taken⟩
  | _ + 1, [] => ⟨none, taken⟩
  | wanted + 1, b :: rest =>
    if low ≤ b && b ≤ high then
      gather 0x80 0xBF (64 * bits + (b.toNat - 0x80)) (taken + 1) wanted rest
    else ⟨none, taken⟩

/-- The piece that begins at the byte `b`. -/
def pieceAt (b : UInt8) (rest : Bytes) : Piece :=
  match lead? b with
  | none => ⟨none, 0⟩
  | some l => gather l.low l.high l.bits 0 l.trail rest

/-- The pieces of a byte sequence, in order. -/
def pieces : Bytes → List (Option Char)
  | [] => []
  | b :: rest =>
    let piece := pieceAt b rest
    piece.char :: pieces (rest.drop piece.extra)
termination_by s => s.length
decreasing_by simp only [List.length_drop, List.length_cons]; omega

/-- The text of well-formed bytes; `none` if a piece is broken. -/
def decode? (s : Bytes) : Option (List Char) := (pieces s).mapM id

/-- The text of any bytes, with U+FFFD in place of each broken piece. -/
def decodeLossy (s : Bytes) : List Char := (pieces s).map (·.getD '\uFFFD')

end GcodeSender.Text.Utf8

namespace GcodeSender.Bytes

/-- The bytes as text, broken pieces replaced. -/
def lossyText (s : Bytes) : String := String.ofList (Text.Utf8.decodeLossy s)

end GcodeSender.Bytes
