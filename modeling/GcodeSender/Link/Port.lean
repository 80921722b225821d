/-
# `GcodeSender.Link.Port` — serial ports as queues

An open port is seen as two queues of byte strings: the chunks that came in
and were not read, and what was written.  Somebody else fills the one and
carries away the other.  Whether the next read or write fails, and how, is
part of the port's state; so is whether closing it takes effect at once.

`Ports` is the host's side: which names are taken, and what opening a port
leads to.  A name is taken from a successful opening until the port has been
given back.
-/
import GcodeSender.Text.Bytes

namespace GcodeSender.Link

/-- How reading from a port fails. -/
inductive ReadFault where
  /-- The system reports a failure, which ends the connection. -/
  | system (message : String)
  /-- Any other failure, which is passed on. -/
  | other (kind message : String)
  deriving DecidableEq, Repr

/-- A serial port. -/
structure Port where
  isOpen : Bool := true
  /-- Does closing take effect at once? -/
  closes : Bool := true
  /-- The chunks that came in and were not read, the oldest first. -/
  incoming : List Bytes := []
  /-- What was written, the oldest first. -/
  written : List Bytes := []
  readFault : Option ReadFault := none
  writeFault : Option String := none
  deriving DecidableEq, Repr

namespace Port

/-- More has come in. -/
def receive (p : Port) (chunks : List Bytes) : Port := { p with incoming := p.incoming ++ chunks }

/-- Close the port. -/
def close (p : Port) : Port := if p.closes then { p with isOpen := false } else p

/-- Read until nothing comes: the chunks up to the first empty one are lost with it. -/
def discard (p : Port) : Port :=
  { p with incoming := (p.incoming.dropWhile (!·.isEmpty)).drop 1 }

end Port

/-- The serial ports of a host. -/
structure Ports where
  /-- The names that are taken, the newest first. -/
  inUse : List String := []
  /-- Why opening a port fails, if it does. -/
  openFault : Option String := none
  /-- Is a port open as soon as it has been opened? -/
  opens : Bool := true
  deriving DecidableEq, Repr

namespace Ports

/-- Take a name. -/
def take (p : Ports) (name : String) : Ports := { p with inUse := name :: p.inUse }

/-- Give a name back. -/
def release (p : Ports) (name : String) : Ports := { p with inUse := p.inUse.filter (· != name) }

end Ports

/-! ## Which ports can be offered -/

/-- A port as the system lists it. -/
structure Listing where
  device : Option String
  vendor : Option Nat
  product : Option Nat
  deriving DecidableEq, Repr

/-- Is everything known that a USB serial port is told by? -/
def Listing.isUsable (l : Listing) : Bool :=
  l.device.isSome && l.vendor.isSome && l.product.isSome

/-- The path of a simulated machine. -/
def simulatedMachine : String := "/tmp/ttyFAKE"

/-- The ports to offer: the usable ones, and the simulated machine if it is there. -/
def offered (listings : List Listing) (simulated : Option String) : List String :=
  (listings.filter (·.isUsable)).filterMap (·.device) ++ simulated.toList

end GcodeSender.Link
