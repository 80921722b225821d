/-
# `GcodeSender.Gcode.Command` — kinds of commands

What goes to the machine is of four kinds, told apart by how it begins.

    realtime   the single byte `?` (report the status) or 0x85 (cancel the jog)
    jog        a line that begins with `$J=`
    system     any other line that begins with `$`
    standard   any other line

Realtime bytes are acted on as they arrive and never occupy the machine's
receive buffer; the other kinds do.  A soft reset byte is not in the list: it
is written like a realtime byte, and counted like a line.

A jog command is built by `Jog.command`: the mode, then the axes in order, then
the feed, each number written as `Amount.text` writes it.
-/
import GcodeSender.Decimal.Shortest
import GcodeSender.Text.Bytes

namespace GcodeSender.Gcode

/-- The byte that asks for a status report. -/
def statusQuery : UInt8 := 0x3F

/-- The byte that cancels a jog. -/
def jogCancel : UInt8 := 0x85

/-- The byte that resets the machine. -/
def softReset : UInt8 := 0x18

/-- What a system line begins with: `$`. -/
def systemMark : Bytes := [0x24]

/-- What a jog line begins with: `$J=`. -/
def jogMark : Bytes := [0x24, 0x4A, 0x3D]

/-- Is the command a single byte that is acted on as it arrives? -/
def isRealtime (command : Bytes) : Bool := command = [statusQuery] || command = [jogCancel]

/-- Is the command a jog? -/
def isJog (command : Bytes) : Bool := command.startsWith jogMark

/-- Is the command a system line, a jog or another? -/
def isSystem (command : Bytes) : Bool := command.startsWith systemMark

/-- Ask for the machine's own position in status reports. -/
def reportMachinePosition : Bytes := Bytes.ofText "$10=1"

/-! ## Jog commands -/

/-- A number in a jog command: a whole number, or a number of the machine. -/
inductive Amount where
  | whole (n : Int)
  | real (x : Float)

/-- A whole number has no point, a number of the machine the fewest digits that read back. -/
def Amount.text : Amount → String
  | .whole n => Decimal.signed (n < 0) (Decimal.digits n.natAbs)
  | .real x => Decimal.text x

/-- The axes and the feed of a jog. -/
structure Jog where
  x : Option Amount := none
  y : Option Amount := none
  z : Option Amount := none
  f : Option Amount := none

/-- One word of a jog command, with the blank before it. -/
def Jog.word (letter : String) : Option Amount → Bytes
  | none => []
  | some a => Bytes.ofText (" " ++ letter ++ a.text)

/-- The jog command for a distance mode such as `G91`. -/
def Jog.command (j : Jog) (mode : Bytes) : Bytes :=
  jogMark ++ mode ++ word "X" j.x ++ word "Y" j.y ++ word "Z" j.z ++ word "F" j.f

end GcodeSender.Gcode
