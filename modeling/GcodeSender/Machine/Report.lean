/-
# `GcodeSender.Machine.Report` — messages from the machine

A message is told apart by how it begins.

    <         a status report
    ALARM:    an alarm
    [         feedback
    Grbl␣     the greeting after a reset
    other     not followed

Only a status report changes the state.  It is well formed if somewhere in it
a `<`, a capital and a small letter are followed by a `>` on the same line.
The position is the first triple of decimals in it, wherever that stands; the
run state is the token before the first bar, cut at its first colon, the angle
brackets at both ends taken off.

    <Run|MPos:1.000,2.000,3.000|FS:0,0>     cycle, at (1, 2, 3)
    <Hold:0|WPos:1.0,2.0,3.0>               hold, at (1, 2, 3)
    <Tool>                                  an unknown token: the run state stays
-/
import GcodeSender.Decimal.Numeral
import GcodeSender.Machine.Basic
import GcodeSender.Text.Utf8

namespace GcodeSender.Report

open Scalar

/-! ## The shape of a status report -/

def isCapital (b : UInt8) : Bool := 0x41 ≤ b && b ≤ 0x5A

def isSmall (b : UInt8) : Bool := 0x61 ≤ b && b ≤ 0x7A

def isFigure (b : UInt8) : Bool := 0x30 ≤ b && b ≤ 0x39

/-- Does a `>` come before the end of the line? -/
def closesOnLine (s : Bytes) : Bool := (s.takeWhile (· != 0x0A)).contains 0x3E

/-- Does a status report begin here? -/
def beginsReport : Bytes → Bool
  | 0x3C :: capital :: small :: rest => isCapital capital && isSmall small && closesOnLine rest
  | _ => false

/-- Does a message look like a status report? -/
def isStatusReport : Bytes → Bool
  | [] => false
  | b :: rest => beginsReport (b :: rest) || isStatusReport rest

/-! ## The position -/

/-- A minus sign at the head, and the rest. -/
def minus : Bytes → Bool × Bytes
  | 0x2D :: rest => (true, rest)
  | s => (false, s)

/-- The natural number that ASCII figures write. -/
def natOfFigures (s : Bytes) : Nat := s.foldl (fun n b => 10 * n + (b.toNat - 0x30)) 0

/-- A decimal at the head — an optional minus, figures, a point, figures — and the rest. -/
def decimalAt? (s : Bytes) : Option (Numeral × Bytes) :=
  let (negative, s) := minus s
  let whole := s.takeWhile isFigure
  match whole, s.dropWhile isFigure with
  | _ :: _, 0x2E :: rest =>
    let fraction := rest.takeWhile isFigure
    if fraction.isEmpty then none
    else
      some (.decimal negative (natOfFigures (whole ++ fraction)) (-fraction.length),
        rest.dropWhile isFigure)
  | _, _ => none

/-- A decimal and a comma at the head, and the rest. -/
def decimalCommaAt? (s : Bytes) : Option (Numeral × Bytes) := do
  match ← decimalAt? s with
  | (value, 0x2C :: rest) => some (value, rest)
  | _ => none

/-- Three decimals at the head, with commas between them. -/
def tripleAt? (s : Bytes) : Option (Position Numeral) := do
  let (x, s) ← decimalCommaAt? s
  let (y, s) ← decimalCommaAt? s
  let (z, _) ← decimalAt? s
  some ⟨x, y, z⟩

/-- The first triple of decimals. -/
def firstTriple? : Bytes → Option (Position Numeral)
  | [] => none
  | b :: rest => (tripleAt? (b :: rest)).orElse fun _ => firstTriple? rest

/-! ## The run state -/

/-- A message without the angle brackets in front and behind. -/
def unbracketed (s : Bytes) : Bytes := Text.trimWith (fun b => b == 0x3C || b == 0x3E) s

/-- The token of the run state: what stands before the first bar and before the first colon. -/
def stateToken (s : Bytes) : Bytes :=
  ((unbracketed s).takeWhile (· != 0x7C)).takeWhile (· != 0x3A)

end GcodeSender.Report

namespace GcodeSender.Machine

open Scalar Report

variable {α : Type} [Scalar α]

/-- Take up the run state that a token reports. -/
def receiveToken (m : Machine α) (token : Bytes) : Machine α :=
  match RunState.ofToken? token with
  | some run => m.setRun run
  | none => m.logText .debug ("Unrecognised state: " ++ token.lossyText)

/-- Take up the position that a report gives, if it gives one. -/
def receivePosition (m : Machine α) (report : Bytes) : Machine α :=
  match firstTriple? report with
  | some p => m.setPosition ⟨some (ofNumeral p.x), some (ofNumeral p.y), some (ofNumeral p.z)⟩
  | none => m

/-- Take up a status report. -/
def receiveReport (m : Machine α) (report : Bytes) : Machine α :=
  if isStatusReport report then (m.receivePosition report).receiveToken (stateToken report)
  else m.logText .debug ("Malformed status report: " ++ report.lossyText)

/-- Take up a message that is no acknowledgement. -/
def receive (m : Machine α) (message : Bytes) : Machine α :=
  if message.startsWith [0x3C] then m.receiveReport message
  else if message.startsWith (Bytes.ofText "ALARM:") then
    m.logText .warning ("Grbl alarm: " ++ message.lossyText)
  else if message.startsWith (Bytes.ofText "[") then
    m.logText .debug ("Grbl feedback: " ++ message.lossyText)
  else if message.startsWith (Bytes.ofText "Grbl ") then
    m.logText .info ("Grbl startup: " ++ message.lossyText)
  else m.logText .debug ("Input not parsed: " ++ message.lossyText)

end GcodeSender.Machine
