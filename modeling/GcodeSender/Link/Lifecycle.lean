/-
# `GcodeSender.Link.Lifecycle` — from not connected to connected, and back

`Station.update` is called by the event loop and moves a connection one step
towards the status that is asked of it.

    status                        step
    the desired one               none
    CONNECTING                    the port is confirmed open
    DISCONNECTING                 the port is confirmed closed
    FAIL, MISSING_RESOURCE,       given up: NOT_CONNECTED is desired from now
    BLOCKED                       on, and the status is CLEANUP
    any other, CONNECTED desired  the port is opened
    any other                     the port is closed

A port name belongs to at most one controller at a time: it is taken when the
port has been opened, and given back when the port is confirmed closed.

Confirming an open port begins the conversation with the machine afresh: what
the ledger, the held-back line and the partial line hold is forgotten, a soft
reset and the request for machine positions are queued, and what came in
before is thrown away.
-/
import GcodeSender.Link.Exchange

namespace GcodeSender.Link

open Scalar Gcode

variable {α : Type} [Scalar α]

namespace Controller

/-- Forget the conversation before, and queue the beginning of a new one. -/
def beginConversation (c : Controller α) : Controller α :=
  let c := c.adopt c.tracker.clearLedger
  { c with heldBack := none, partialLine := [], immediate := c.immediate ++ [[softReset]] }.send
    reportMachinePosition

/-- Start the thread that serves the port, if a thread is to serve it. -/
def startThread (c : Controller α) : Controller α :=
  if c.threaded then
    { c with thread := true }.note (.thread .created) |>.note (.thread .started)
  else c

/-- Wait for the end of the thread that serves the port, if there is one. -/
def joinThread (c : Controller α) : Controller α :=
  if c.thread then { c with thread := false }.note (.thread .joined) else c

/-- Confirm that the port is open; as long as it is not, nothing happens. -/
def confirmOpen (c : Controller α) : Controller α :=
  match c.port with
  | none => c.setStatus .fail
  | some port =>
    if port.isOpen then
      let c := c.beginConversation.logText .info ("Connected " ++ c.label ++ " " ++ c.portName)
      let c := { c.setStatus .connected with port := some port.discard }
      c.startThread.setReady true
    else c

/-- Close the port.  It is given back when it has been confirmed closed. -/
def disconnect (c : Controller α) : Controller α :=
  let c := c.setDesired .notConnected
  if c.status = .disconnecting || c.status = .notConnected then c
  else
    let c := c.setReady false
    match c.port with
    | none => c.setStatus .notConnected
    | some port =>
      let c := c.logText .info ("Disconnecting " ++ c.label ++ " " ++ c.portName)
      let c := (c.setStatus .disconnecting).joinThread
      { c with port := some port.close }

/-- Give up: the failed connection is to be cleaned up. -/
def giveUp (c : Controller α) : Controller α :=
  let c := c.logText .warning (c.label ++ " connection state: " ++ c.status.name)
  (c.setDesired .notConnected).setStatus .cleanup

/-- Hand the tracker the lines that waited for the event loop. -/
def takeReceived (c : Controller α) : Controller α :=
  { c with received := [] }.adopt (c.received.foldl (fun t line => t.receive line) c.tracker)

/-- Let the tracker make the ticks that are due. -/
def advance (now : α) (c : Controller α) : Step (Controller α) Unit :=
  c.adoptStep (c.tracker.update now)

end Controller

/-- A controller and the ports of its host. -/
structure Station (α : Type) where
  ports : Ports := {}
  controller : Controller α

namespace Station

/-- Change the controller alone. -/
def mapController (f : Controller α → Controller α) (s : Station α) : Station α :=
  { s with controller := f s.controller }

/-- Open the port. -/
def connect (s : Station α) : Station α :=
  let c := s.controller
  match c.status with
  | .connecting | .connected | .missingResource => s
  | _ =>
    if s.ports.inUse.contains c.portName then
      let c := c.logText .warning (c.portName ++ " already in use.")
      { s with controller := c.setStatus .blocked }
    else
      match s.ports.openFault with
      | some message =>
        let c := c.logText .error ("Could not open " ++ c.portName ++ ": " ++ message)
        { s with controller := c.setStatus .missingResource }
      | none =>
        { ports := s.ports.take c.portName
          controller := { c with port := some { isOpen := s.ports.opens } }.setStatus .connecting }

/-- Confirm that the port is closed, and give it back; as long as it is open, nothing happens. -/
def confirmClosed (s : Station α) : Station α :=
  let c := s.controller
  match c.port with
  | none => { s with controller := c.setStatus .fail }
  | some port =>
    if port.isOpen then s
    else
      let c := c.logText .info "Serial disconnected."
      { ports := s.ports.release c.portName
        controller := { c with port := none }.setStatus .notConnected }

/-- One step towards the status that is asked for. -/
def approach (s : Station α) : Station α :=
  let c := s.controller
  if c.status = c.desired then s
  else if c.status = .connecting then s.mapController (·.confirmOpen)
  else if c.status = .disconnecting then s.confirmClosed
  else if c.status.isFailed then s.mapController (·.giveUp)
  else if c.desired = .connected then s.connect
  else s.mapController (·.disconnect)

/-- One step of the event loop: the connection, the lines that came in, the simulated motion. -/
def update (now : α) (s : Station α) : Step (Station α) Unit :=
  let s := s.approach.mapController (·.takeReceived)
  (s.controller.advance now).mapState fun controller => { s with controller }

end Station

end GcodeSender.Link
