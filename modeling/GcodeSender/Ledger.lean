/-
# `GcodeSender.Ledger` — how full the machine's receive buffer is

The machine holds a limited number of characters of commands that it has not
processed.  It answers each line once, in order, and an answered line leaves
the buffer.  The ledger keeps the lengths of the lines that were written and
not yet answered.

    send line        its length joins the pending ones
    send realtime    nothing: such a byte never enters the buffer
    answer           the oldest pending length leaves; if there is none, the
                     ledger and the machine are out of step, which is counted
    clear            everything pending is forgotten

A line fits if the buffer does not become full with it.
-/
import GcodeSender.Gcode.Command

namespace GcodeSender

open Gcode

/-- The size of the machine's receive buffer. -/
def receiveBufferSize : Int := 128

/-- The lengths of the lines that were written and not yet answered. -/
structure Ledger where
  capacity : Int := receiveBufferSize
  pending : List Nat := []
  total : Int := 0
  /-- Answers that came while nothing was pending. -/
  desynchronised : Nat := 0
  deriving DecidableEq, Repr

namespace Ledger

/-- Would the buffer become full with this command? -/
def wouldOverflow (l : Ledger) (command : Bytes) : Bool :=
  !isRealtime command && decide (l.capacity ≤ l.total + command.length)

/-- A command was written. -/
def send (l : Ledger) (command : Bytes) : Ledger :=
  if isRealtime command then l
  else
    { l with pending := l.pending ++ [command.length], total := l.total + command.length }

/-- A line was answered.  Was one pending? -/
def answer (l : Ledger) : Ledger × Bool :=
  match l.pending with
  | [] => ({ l with desynchronised := l.desynchronised + 1 }, false)
  | n :: rest => ({ l with pending := rest, total := l.total - n }, true)

/-- Forget everything pending. -/
def clear (l : Ledger) : Ledger := { l with pending := [], total := 0 }

/-- What is logged about an answer that nothing waited for. -/
def desynchronisedMessage : String :=
  "Acknowledgement received with no commands pending. " ++
    "Buffer tracking is out of sync with Grbl."

end Ledger

end GcodeSender
