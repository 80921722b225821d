/-
# `GcodeSender.Session` — streaming a program to the machine

A session connects, queues every line of a program, and then turns the event
loop until the machine has answered them all.  In between, the port is served
in passes of its own (`Controller.pass`).

    connecting   a turn at a time, until connected, or given up: the attempt
                 was abandoned, or took longer than `patience`
    streaming    a turn at a time, until the connection is lost, or the work
                 is done: nothing queued, nothing unanswered, nothing moving
    closing      a turn at a time, as long as the port is being closed

After each turn of streaming, position and run state are shown if either has
changed since they were shown the last time.
-/
import GcodeSender.Link.Lifecycle

namespace GcodeSender

open Scalar Link

variable {α : Type} [Scalar α]

/-- A session: the connection, and the lines shown to the user. -/
structure Session (α : Type) where
  station : Station α
  shown : List String := []

namespace Session

/-- The controller of a session. -/
def controller (s : Session α) : Controller α := s.station.controller

def status (s : Session α) : Status := s.controller.status

/-- Change the controller. -/
def mapController (f : Controller α → Controller α) (s : Session α) : Session α :=
  { s with station := s.station.mapController f }

/-- Show a line to the user. -/
def say (s : Session α) (line : String) : Session α := { s with shown := s.shown ++ [line] }

/-- Position and run state in one line; `number` writes the numbers. -/
def stateLine (number : α → String) (m : Machine α) : String :=
  "X: " ++ number m.position.x ++ "  Y: " ++ number m.position.y ++ "  Z: " ++
    number m.position.z ++ "  " ++ m.run.name

/-- Show position and run state, if either has changed. -/
def showState (number : α → String) (s : Session α) : Session α :=
  let m := s.controller.tracker.machine
  if m.changed then
    (s.say (stateLine number m)).mapController fun c =>
      { c with tracker := c.tracker.mapMachine Machine.clearChanged }
  else s

/-- One turn of the event loop. -/
def update (now : α) (s : Session α) : Step (Session α) Unit :=
  (s.station.update now).mapState fun station => { s with station }

/-! ## Connecting -/

/-- How long connecting may take, in seconds. -/
def patience : α := nat 5

/-- The pause between two turns, in seconds. -/
def turnInterval : α := decimal 2 2

/-- How far connecting has come. -/
inductive Attempt where
  | waiting
  | connected
  | givenUp
  deriving DecidableEq, Repr

/-- Ask for a connection. -/
def begin (s : Session α) : Session α := s.mapController (·.setDesired .connected)

/-- One turn of connecting, for an attempt begun at `started`. -/
def attempt (started now : α) (s : Session α) : Step (Session α) Attempt :=
  if s.status = .connected then .done s .connected
  else
    (s.update now).andThen fun _ s =>
      let late := less patience (now - started)
      .done s (if s.controller.desired ≠ .connected || late then .givenUp else .waiting)

/-! ## Streaming -/

/-- Queue lines, in their order. -/
def sendAll (lines : List Bytes) (s : Session α) : Session α :=
  s.mapController fun c => lines.foldl (fun c line => c.send line) c

/-- Is everything written and answered, and nothing moving? -/
def isFinished (c : Controller α) : Bool :=
  c.pending == 0 && c.tracker.ledger.pending.isEmpty && !c.tracker.inMotion

/-- One turn of streaming.  Is the work done? -/
def turn (number : α → String) (now : α) (s : Session α) : Step (Session α) Bool :=
  (s.update now).andThen fun _ s =>
    let s := s.showState number
    .done s (isFinished s.controller)

/-! ## Closing -/

/-- Turn the event loop as long as the port is being closed, at most so many times. -/
def settleClosing (now : α) : Nat → Session α → Step (Session α) Unit
  | 0, s => .done s ()
  | n + 1, s =>
    if s.status = .disconnecting then (s.update now).andThen fun _ s => settleClosing now n s
    else .done s ()

/-- Close the port.  One that closes at once is given back in the first turn. -/
def close (now : α) (s : Session α) : Step (Session α) Unit :=
  settleClosing now 2 (s.mapController (·.disconnect))

end Session

end GcodeSender
