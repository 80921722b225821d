/-
# `GcodeSender.Link.Connection` — the state of a connection, announced

A connection has a status, and a status that is asked of it.  Both are
announced whenever they are assigned, under the connection's label, whether
they change or not; the log is told only of a status that changes.

    assignment        log                             update
    setStatus s       "<label> connection status: s"  connection_status
                      where s differs
    setDesired s      nothing                         desired_connection_status

A connection by itself has no transport.  Asked to connect, to disconnect, to
send or to jog, it refuses (`refuse`); `Controller` is the connection that can.
-/
import GcodeSender.Fault
import GcodeSender.Journal

namespace GcodeSender.Link

variable {α : Type}

/-- A connection and the journal of what it announced. -/
structure Connection (α : Type) where
  label : String
  /-- Are commands welcome? -/
  ready : Bool := false
  status : Status := .unknown
  /-- The status that the connection is to reach. -/
  desired : Status := .notConnected
  journal : Journal α := []
  deriving DecidableEq, Repr

namespace Connection

/-- The name of a tag under the connection's label. -/
def key (c : Connection α) (tag : String) : String := labelled c.label tag

/-- Write a notice. -/
def note (c : Connection α) (n : Notice α) : Connection α := { c with journal := c.journal.note n }

/-- Announce a value under the connection's label. -/
def announce (c : Connection α) (topic : Topic) (value : Payload α) : Connection α :=
  c.note (.update { label := some c.label, topic, value })

/-- Log a text. -/
def logText (c : Connection α) (level : Level) (s : String) : Connection α :=
  c.note (.log ⟨level, .text s⟩)

/-- Assign the status. -/
def setStatus (c : Connection α) (s : Status) : Connection α :=
  let logged :=
    if s = c.status then c
    else c.logText .debug (c.label ++ " connection status: " ++ s.name)
  { logged with status := s }.announce .connectionStatus (.status s)

/-- Assign the status to be reached. -/
def setDesired (c : Connection α) (s : Status) : Connection α :=
  { c with desired := s }.announce .desiredStatus (.status s)

/-- Announce everything. -/
def sync (c : Connection α) : Connection α :=
  let c := c.announce .connectionStatus (.status c.status)
  let c := c.announce .desiredStatus (.status c.desired)
  c.announce .label (.text c.label)

/-- A connection that nothing has happened to yet. -/
def fresh (label : String) : Connection α :=
  (({ label } : Connection α).setStatus .unknown |>.setDesired .notConnected).sync

/-- Refuse an operation that needs a transport. -/
def refuse {ρ : Type} (c : Connection α) : Step (Connection α) ρ := .stopped c .noTransport

@[simp] theorem status_setStatus (c : Connection α) (s : Status) :
    (c.setStatus s).status = s := by
  simp [setStatus, announce, note]

@[simp] theorem desired_setDesired (c : Connection α) (s : Status) :
    (c.setDesired s).desired = s := rfl

end Connection

end GcodeSender.Link
