/-
# `GcodeSender.Proofs.Session.Closing` — a session gives its port back, however it ends

A session asks for a connection, streams its lines, and closes the port.  The
streaming may end in any way: the work is done, the connection is lost, a fault
comes from the lines or from the tracker, the user interrupts.  What follows is
the same.

    connecting      a turn at a time                      givenUp, if it is abandoned
    streaming       the thread that streams the lines     leaving, however it ends
    leaving         the port is asked to close
    closing         a turn, as long as the port is        ended, also where the turn
                    being closed                          itself is stopped by a fault
    ended

Between any two steps the thread that serves the port may make a pass, and the
device may send, fall silent, or begin to fail.

    phase           what holds (`Phase.Secure`)
    connecting      a connection that is up has a port
    streaming       the port is there; the connection is up, has failed, or was
                    given up
    closing         the port is closed, and the next turn gives it back; or it
                    was given back
    ended           the port was given back

The turn that gives the port back does so before it hands the tracker what came
in, so that a fault there comes too late to prevent it.

A session that is left alone closes as it is defined to (`Phase.leads_close`),
and that gives the port back (`Session.close_released`).
-/
import GcodeSender.Proofs.Session.Completion

namespace GcodeSender

open Scalar Gcode Link

variable {α : Type} [Scalar α]

/-! ## A session from its beginning to its end -/

/-- How far a session has come. -/
inductive Phase where
  | connecting
  | givenUp
  | streaming (at_ : Streaming)
  | leaving
  | closing
  | ended
  deriving DecidableEq, Repr

namespace Phase

/-- The next step of a session that began to connect at `started`. -/
def step (number : α → String) (lines : List Bytes) (started now : α) (s : Session α) :
    Phase → Step (Session α) Phase
  | .connecting =>
    (s.attempt started now).mapResult fun
      | .waiting => .connecting
      | .connected => .streaming (.sending lines)
      | .givenUp => .givenUp
  | .givenUp => .done s .givenUp
  | .streaming .returned => .done s .leaving
  | .streaming .stopped => .done s .leaving
  | .streaming at_ => (at_.step number now s).mapResult .streaming
  | .leaving => .done (s.mapController (·.disconnect)) .closing
  | .closing =>
    if s.status = .disconnecting then (s.update now).mapResult fun _ => .closing
    else .done s .ended
  | .ended => .done s .ended

/-- Has the connection been up? -/
def hasConnected : Phase → Bool
  | .connecting | .givenUp => false
  | _ => true

/-- Where a fault leads. -/
def onFault : Phase → Phase
  | .connecting => .givenUp
  | .streaming _ => .leaving
  | .closing => .ended
  | phase => phase

end Phase

/-- A session, and how far it has come. -/
structure Engagement (α : Type) where
  session : Session α
  phase : Phase := .connecting

namespace Engagement

/-- What happens next. -/
inductive Act (α : Type) where
  /-- The session makes its next step. -/
  | proceed (now : α)
  /-- The thread that serves the port makes a pass. -/
  | pass (now : α)
  /-- Chunks come in at the port; from now on reading and writing fail like this. -/
  | device (chunks : List Bytes) (readFault : Option ReadFault) (writeFault : Option String)
  /-- From now on, opening a port leads to this. -/
  | host (openFault : Option String) (opens : Bool)
  /-- The port that is being opened is open. -/
  | opened
  /-- The streaming is stopped half-way through whatever it was doing, by the user or by what gives
  it its lines: the tracker, the lines that came in and the status to be reached are as they were
  then. -/
  | interrupt (tracker : Tracker α) (received : List Bytes) (desired : Status)

/-- Does the session make a step? -/
def Act.isProceed : Act α → Bool
  | .proceed _ => true
  | _ => false

/-- A session that is about to connect. -/
def start (s : Session α) : Engagement α := { session := s.begin }

def controller (e : Engagement α) : Controller α := e.session.controller

/-- Change the controller. -/
def mapController (f : Controller α → Controller α) (e : Engagement α) : Engagement α :=
  { e with session := e.session.mapController f }

variable (number : α → String) (lines : List Bytes) (started : α)

/-- The next step of the session. -/
def proceed (now : α) (e : Engagement α) : Engagement α :=
  match e.phase.step number lines started now e.session with
  | ⟨session, .ok phase⟩ => { e with session, phase }
  | ⟨session, .error _⟩ => { session, phase := e.phase.onFault }

/-- What an act comes to. -/
def step (e : Engagement α) : Act α → Engagement α
  | .proceed now => e.proceed number lines started now
  | .pass now => e.mapController fun c => (c.pass now).state
  | .device chunks readFault writeFault =>
    e.mapController fun c =>
      { c with port := c.port.map fun p => { p.receive chunks with readFault, writeFault } }
  | .host openFault opens =>
    let station := e.session.station
    let ports := { station.ports with openFault, opens }
    { e with session := { e.session with station := { station with ports } } }
  | .opened =>
    if e.session.status = .connecting then
      e.mapController fun c => { c with port := c.port.map ({ · with isOpen := true }) }
    else e
  | .interrupt tracker received desired =>
    match e.phase with
    | .streaming _ =>
      { (e.mapController fun c =>
          { c with tracker, received, connection := { c.connection with desired } }) with
        phase := .leaving }
    | _ => e

/-- Acts one after another. -/
def run (e : Engagement α) (acts : List (Act α)) : Engagement α :=
  acts.foldl (step number lines started) e

end Engagement

/-! ## What a pass and a step of streaming leave alone -/

namespace Link

namespace Controller

omit [Scalar α] in
/-- The name of the port, whether it is there and open, and whether it closes at once. -/
def outline (c : Controller α) : String × Option (Bool × Bool) :=
  (c.portName, c.port.map fun p => (p.isOpen, p.closes))

variable {c c' c'' : Controller α}

omit [Scalar α] in
theorem outline_write (data : Bytes) (c : Controller α) : (c.write data).1.outline = c.outline := by
  rcases write_cases c data with ⟨port, hport, -, wrote⟩ | ⟨-, connection, wrote⟩
  · rw [wrote, outline, outline, hport]
    rfl
  · rw [wrote]
    rfl

omit [Scalar α] in
theorem outline_read (c : Controller α) : c.read.state.outline = c.outline := by
  rw [read]
  split
  · rfl
  next port hport =>
    split
    · rfl
    · rfl
    · split
      · rfl
      · rw [outline, outline, hport]
        rfl

omit [Scalar α] in
/-- The port is as it was, and so is the status, or it has failed. -/
structure Upholds (c c' : Controller α) : Prop where
  outline : c'.outline = c.outline
  desired : c'.desired = c.desired
  status : c'.status = c.status ∨ c'.status = .fail

omit [Scalar α] in
theorem Upholds.refl (c : Controller α) : Upholds c c := ⟨rfl, rfl, .inl rfl⟩

omit [Scalar α] in
theorem Upholds.trans (h : Upholds c c') (h' : Upholds c' c'') : Upholds c c'' where
  outline := h'.outline.trans h.outline
  desired := h'.desired.trans h.desired
  status := by
    rcases h'.status with same | failed
    · rw [same]
      exact h.status
    · exact .inr failed

end Controller

open Controller

theorem Serving.step_upholds (now : α) (c : Controller α) (phase : Serving) :
    Upholds c (phase.step now c).state := by
  obtain ⟨status, desired⟩ := Serving.step_link now c phase
  refine ⟨?_, desired, status⟩
  cases phase with
  | waiting | ended => rfl
  | reading => exact outline_read c
  | taking got =>
    rw [step]
    split
    · rfl
    · split <;> rfl
  | handing line =>
    show (c.takeLine line).outline = c.outline
    rw [takeLine]
    split
    · rfl
    · split <;> rfl
  | urging =>
    rw [step]
    split <;> rfl
  | writing byte =>
    have written := outline_write byte c
    rw [step]
    split <;> next wrote => rw [wrote] at written; exact written
  | telling byte => rfl
  | streaming =>
    show (c.writeStreaming now).state.outline = c.outline
    rw [writeStreaming]
    split
    next => rfl
    next line left next =>
      have taken : left.outline = c.outline := by
        rw [(nextLine?_eq next).2.1]
        rfl
      split
      next => split <;> exact taken
      next =>
        have written := (outline_write line left).trans taken
        split <;> next wrote => rw [wrote] at written; exact written
  | asking =>
    show (c.query now).outline = c.outline
    rw [query]
    split <;> rfl

/-- A pass is made of steps, so what each of them leaves alone it leaves alone. -/
theorem Controller.pass_upholds (c : Controller α) (now : α) : Upholds c (c.pass now).state := by
  by_cases connected : c.status = .connected
  · exact (Serving.leads_pass connected).keeps Upholds.refl Upholds.trans
      (Serving.step_upholds now)
  · rw [pass, if_neg connected]
    exact .refl c

end Link

/-- Outside the event loop's step, streaming leaves the port alone. -/
theorem Streaming.step_upholds (number : α → String) (now : α) (s : Session α) {phase : Streaming}
    (other : phase ≠ .approaching) :
    s.controller.Upholds (phase.step number now s).state.controller := by
  obtain ⟨status, desired⟩ := Streaming.step_link number now s phase other
  refine ⟨?_, desired, .inl status⟩
  cases phase with
  | sending lines =>
    cases lines with
    | nil => rfl
    | cons line rest =>
      obtain ⟨immediate, streaming, frame⟩ := Controller.send_frame line s.controller
      show (s.controller.send line).outline = s.controller.outline
      rw [frame]
      rfl
  | approaching => exact absurd rfl other
  | showing =>
    show (s.showState number).controller.outline = s.controller.outline
    rw [Session.showState]
    split <;> rfl
  | looking | tracking | judging | returned | stopped => rfl

/-! ## What holds in each phase -/

namespace Link.Controller

variable {name : String} {c c' : Controller α}

omit [Scalar α] in
/-- A connection is asked for; one that is up has a port, and the port closes when it is told to. -/
structure Opening (name : String) (c : Controller α) : Prop where
  desired : c.desired = .connected
  outline : (c.outline = (name, none) ∧ c.status ≠ .connected) ∨
    ∃ isOpen, c.outline = (name, some (isOpen, true))

omit [Scalar α] in
/-- The port is there, and nothing has been done to close it. -/
structure Held (name : String) (c : Controller α) : Prop where
  outline : ∃ isOpen, c.outline = (name, some (isOpen, true))
  status : c.status = .connected ∨ c.status = .fail ∨ c.status = .cleanup

omit [Scalar α] in
/-- The port was closed, and waits to be given back. -/
structure Shut (name : String) (c : Controller α) : Prop where
  outline : c.outline = (name, some (false, true))
  status : c.status = .disconnecting
  desired : c.desired = .notConnected

omit [Scalar α] in
theorem Opening.upholds (h : Opening name c) (upholds : Upholds c c') : Opening name c' where
  desired := upholds.desired.trans h.desired
  outline := by
    rw [upholds.outline]
    refine h.outline.imp_left fun absent => ⟨absent.1, ?_⟩
    rcases upholds.status with same | failed
    · rw [same]
      exact absent.2
    · rw [failed]
      nofun

omit [Scalar α] in
theorem Held.upholds (h : Held name c) (upholds : Upholds c c') : Held name c' where
  outline := upholds.outline ▸ h.outline
  status := by
    rcases upholds.status with same | failed
    · rw [same]
      exact h.status
    · exact .inr (.inl failed)

omit [Scalar α] in
theorem Opening.held (h : Opening name c) (connected : c.status = .connected) : Held name c where
  outline := by
    rcases h.outline with ⟨-, down⟩ | there
    · exact absurd connected down
    · exact there
  status := .inl connected

omit [Scalar α] in
theorem Held.connecting (h : Held name c) : c.status ≠ .connecting := by
  rcases h.status with status | status | status <;> (rw [status]; nofun)

omit [Scalar α] in
/-- A port that is there and closes when it is told to is closed. -/
theorem Held.disconnect (h : Held name c) : Shut name c.disconnect := by
  obtain ⟨isOpen, outline⟩ := h.outline
  obtain ⟨portName, hport⟩ := Prod.mk.inj outline
  obtain ⟨port, there, shape⟩ := Option.map_eq_some_iff.1 hport
  obtain ⟨-, closes⟩ := Prod.mk.inj shape
  have going : ¬ (c.status = .disconnecting ∨ c.status = .notConnected) := by
    rcases h.status with status | status | status <;> (rw [status]; nofun)
  have ended : ∀ c' : Controller α, c'.joinThread.portName = c'.portName ∧
      c'.joinThread.status = c'.status ∧ c'.joinThread.desired = c'.desired := by
    intro c'
    rw [joinThread]
    split <;> exact ⟨rfl, rfl, rfl⟩
  rw [Controller.disconnect]
  dsimp only
  split
  next down =>
    rw [Bool.or_eq_true, decide_eq_true_eq, decide_eq_true_eq] at down
    exact absurd down going
  next =>
    split
    next absent => cases there.symm.trans absent
    next port' found =>
      obtain rfl : port = port' := Option.some.inj (there.symm.trans found)
      obtain ⟨portName', status, desired⟩ := ended
        (((((c.setDesired .notConnected).setReady false).logText .info
          ("Disconnecting " ++ c.label ++ " " ++ c.portName)).setStatus .disconnecting))
      refine ⟨?_, status.trans (status_setStatus _ _), desired.trans (desired_setStatus _ _)⟩
      rw [Controller.outline]
      refine Prod.ext (portName'.trans portName) ?_
      simp [Port.close, closes]

omit [Scalar α] in
theorem Held.giveUp (h : Held name c) : Held name c.giveUp :=
  ⟨h.outline, .inr (.inr (status_setStatus _ _))⟩

omit [Scalar α] in
theorem outline_confirmOpen (c : Controller α) : c.confirmOpen.outline = c.outline := by
  rw [confirmOpen]
  split
  next => rfl
  next port hport =>
    split
    next =>
      have begun : c.beginConversation.portName = c.portName := by
        rw [beginConversation, send_greeting]
        rfl
      simp only [startThread, outline, hport, ← begun]
      split <;> rfl
    next => rfl

omit [Scalar α] in
/-- The port is as it was, and the connection is not up. -/
theorem Opening.away (h : Opening name c) (outline : c'.outline = c.outline)
    (desired : c'.desired = c.desired) (down : c'.status ≠ .connected) : Opening name c' where
  desired := desired.trans h.desired
  outline := by
    rw [outline]
    exact h.outline.imp_left fun absent => ⟨absent.1, down⟩

omit [Scalar α] in
theorem Opening.setStatus (h : Opening name c) {status : Status} (down : status ≠ .connected) :
    Opening name (c.setStatus status) := by
  refine h.away rfl (desired_setStatus _ _) ?_
  rwa [status_setStatus]

omit [Scalar α] in
theorem Opening.logText (h : Opening name c) (level : Level) (text : String) :
    Opening name (c.logText level text) := ⟨h.desired, h.outline⟩

omit [Scalar α] in
theorem Opening.opened (h : Opening name c) :
    Opening name { c with port := c.port.map ({ · with isOpen := true }) } where
  desired := h.desired
  outline := by
    refine h.outline.imp (fun absent => ⟨?_, absent.2⟩) ?_
    · rw [← absent.1, Controller.outline, Controller.outline,
        Option.map_eq_none_iff.1 (Prod.mk.inj absent.1).2]
      rfl
    · rintro ⟨isOpen, outline⟩
      obtain ⟨portName, hport⟩ := Prod.mk.inj outline
      obtain ⟨port, there, shape⟩ := Option.map_eq_some_iff.1 hport
      refine ⟨true, ?_⟩
      rw [Controller.outline, there, ← (Prod.mk.inj shape).2, ← portName]
      rfl

omit [Scalar α] in
theorem Opening.portName (h : Opening name c) : c.portName = name := by
  rcases h.outline with ⟨outline, -⟩ | ⟨_, outline⟩ <;> exact (Prod.mk.inj outline).1

omit [Scalar α] in
theorem Opening.confirmOpen (h : Opening name c)
    (asked : c.confirmOpen.desired = .connected) : Opening name c.confirmOpen := by
  refine ⟨asked, ?_⟩
  rw [outline_confirmOpen]
  refine h.outline.imp_left fun absent => ⟨absent.1, ?_⟩
  have noPort : c.port = none := Option.map_eq_none_iff.1 (Prod.mk.inj absent.1).2
  rw [Controller.confirmOpen, noPort, status_setStatus]
  decide

end Link.Controller

namespace Link.Station

variable {name : String} {s : Station α}

omit [Scalar α] in
/-- The port was given back. -/
structure Released (name : String) (s : Station α) : Prop where
  portName : s.controller.portName = name
  port : s.controller.port = none
  free : name ∉ s.ports.inUse
  status : s.controller.status = .notConnected

omit [Scalar α] in
/-- A port that was closed is given back. -/
theorem Released.of_shut (h : s.controller.Shut name) : Released name s.approach := by
  obtain ⟨portName, hport⟩ := Prod.mk.inj h.outline
  obtain ⟨port, there, shape⟩ := Option.map_eq_some_iff.1 hport
  obtain ⟨closed, -⟩ := Prod.mk.inj shape
  have confirmed : s.approach = s.confirmClosed := by
    rw [approach]
    simp [h.status, h.desired]
  rw [confirmed, confirmClosed]
  simp only [there, closed, Bool.false_eq_true, if_false]
  refine ⟨portName, rfl, fun mem => ?_, Controller.status_setStatus _ _⟩
  have other : (name != s.controller.portName) = true := (List.mem_filter.1 mem).2
  rw [portName] at other
  simp at other

omit [Scalar α] in
theorem connect_opening (h : s.controller.Opening name) : s.connect.controller.Opening name := by
  rw [connect]
  dsimp only
  split
  · exact h
  · exact h
  · exact h
  · split
    next => exact (h.logText _ _).setStatus (by decide)
    next =>
      split
      next => exact (h.logText _ _).setStatus (by decide)
      next =>
        refine ⟨(Controller.desired_setStatus _ _).trans h.desired, .inr ⟨s.ports.opens, ?_⟩⟩
        exact Prod.ext h.portName rfl

omit [Scalar α] in
theorem confirmClosed_opening (h : s.controller.Opening name) :
    s.confirmClosed.controller.Opening name := by
  rw [confirmClosed]
  dsimp only
  split
  next => exact h.setStatus (by decide)
  next =>
    split
    next => exact h
    next =>
      have desired := Controller.desired_setStatus
        { s.controller.logText .info "Serial disconnected." with port := none } .notConnected
      refine ⟨desired.trans h.desired, .inl ⟨Prod.ext h.portName rfl, ?_⟩⟩
      rw [Controller.status_setStatus]
      decide

omit [Scalar α] in
/-- While a connection is asked for, a turn that does not give it up keeps a port that closes. -/
theorem approach_opening (h : s.controller.Opening name) (down : s.controller.status ≠ .connected)
    (asked : s.approach.controller.desired = .connected) : s.approach.controller.Opening name := by
  rw [approach] at asked ⊢
  split
  next reached => exact absurd (reached.trans h.desired) down
  next reached =>
    rw [if_neg reached] at asked
    split
    next connecting =>
      rw [if_pos connecting] at asked
      exact h.confirmOpen asked
    next notConnecting =>
      rw [if_neg notConnecting] at asked
      split
      next => exact confirmClosed_opening h
      next notDisconnecting =>
        rw [if_neg notDisconnecting] at asked
        split
        next failed =>
          rw [if_pos failed] at asked
          have givenUp : s.controller.giveUp.desired = .notConnected :=
            Controller.desired_setStatus _ _
          cases givenUp.symm.trans asked
        next =>
          rw [if_pos h.desired]
          exact connect_opening h

omit [Scalar α] in
/-- While lines are streamed, a turn leaves the port where it is. -/
theorem approach_held (h : s.controller.Held name) (up : s.controller.status ≠ .cleanup)
    (asked : s.controller.desired = .connected) :
    s.approach.controller.Held name ∧
      (s.approach.controller.status ≠ .cleanup → s.approach.controller.desired = .connected) := by
  rcases h.status with connected | failed | cleanup
  · have stays : s.approach = s := by rw [approach, if_pos (connected.trans asked.symm)]
    rw [stays]
    exact ⟨h, fun _ => asked⟩
  · have gives : s.approach = s.mapController (·.giveUp) := by
      rw [approach]
      simp [failed, asked, Status.isFailed]
    rw [gives]
    exact ⟨h.giveUp, fun up => absurd (Controller.status_setStatus _ _) up⟩
  · exact absurd cleanup up

end Link.Station

/-! ## What a step keeps -/

namespace Phase

/-- What holds in each phase of a session whose port has this name. -/
def Secure (name : String) (s : Session α) : Phase → Prop
  | .connecting => s.controller.Opening name
  | .givenUp => True
  -- A turn closes the port when the connection has been given up; but then no turn is begun.
  | .streaming at_ =>
    s.controller.Held name ∧ (s.status ≠ .cleanup → s.controller.desired = .connected) ∧
      (at_ = .approaching → s.status ≠ .cleanup)
  | .leaving => s.controller.Held name
  | .closing => s.controller.Shut name ∨ s.station.Released name
  | .ended => s.station.Released name

/-- The session is closing, and ends within so many steps of its own. -/
def EndsWithin (n : Nat) (s : Session α) : Phase → Prop
  | .leaving => 3 ≤ n
  | .closing => (if s.status = .disconnecting then 2 else 1) ≤ n
  | .ended => True
  | .connecting | .givenUp | .streaming _ => False

omit [Scalar α] in
theorem ended_of_endsWithin {s : Session α} {phase : Phase} (h : phase.EndsWithin 0 s) :
    phase = .ended := by
  cases phase with
  | ended => rfl
  | leaving => exact absurd h (Nat.not_succ_le_zero 2)
  | closing =>
    have none : (if s.status = .disconnecting then 2 else 1) ≤ 0 := h
    split at none <;> cases none
  | connecting | givenUp | streaming _ => exact absurd h id

end Phase

variable {name : String} {s : Session α}

/-- A turn of connecting that does not give it up. -/
theorem Session.update_opening (h : s.controller.Opening name) (down : s.status ≠ .connected)
    {now : α} (asked : (s.update now).state.controller.desired = .connected) :
    (s.update now).state.controller.Opening name :=
  (Station.approach_opening h down asked).upholds ⟨rfl, rfl, .inl rfl⟩

/-- The turn that confirms the port closed gives it back, also where a fault stops it. -/
theorem Session.update_released (h : s.controller.Shut name) (now : α) :
    (s.update now).state.station.Released name := by
  obtain ⟨portName, port, free, status⟩ := Station.Released.of_shut h
  exact ⟨portName, port, free, status⟩

/-- A step of streaming that is none of the connection. -/
theorem Streaming.step_secure {at_ : Streaming} (h : (Phase.streaming at_).Secure name s)
    (other : at_ ≠ .approaching) (number : α → String) (now : α) :
    (at_.step number now s).state.controller.Held name ∧
      ∀ next, (at_.step number now s).result = .ok next →
        (Phase.streaming next).Secure name (at_.step number now s).state := by
  obtain ⟨held, asked, -⟩ := h
  obtain ⟨status, desired⟩ := Streaming.step_link number now s at_ other
  have stays := held.upholds (Streaming.step_upholds number now s other)
  refine ⟨stays, fun next went => ⟨stays, fun up => ?_, ?_⟩⟩
  · exact desired.trans (asked fun cleanup => up (status.trans cleanup))
  · rintro rfl cleanup
    have connected := Streaming.connected_of_step went
    exact absurd (connected.symm.trans (status.symm.trans cleanup)) nofun

/-! ### The steps of a session -/

namespace Engagement

variable (number : α → String) (lines : List Bytes) (started : α) {e : Engagement α}

/-- What follows from an outcome, whether the session goes on or a fault stops it. -/
theorem proceed_of_step (p : Session α → Phase → Prop) {now : α}
    (goes : ∀ phase, (e.phase.step number lines started now e.session).result = .ok phase →
      p (e.phase.step number lines started now e.session).state phase)
    (stops : p (e.phase.step number lines started now e.session).state e.phase.onFault) :
    p (e.proceed number lines started now).session (e.proceed number lines started now).phase := by
  rw [proceed]
  split
  next stepped =>
    rw [stepped] at goes
    exact goes _ rfl
  next stepped =>
    rw [stepped] at stops
    exact stops

/-- The same of what holds in a phase. -/
theorem proceed_secure_of_step {now : α}
    (goes : ∀ phase, (e.phase.step number lines started now e.session).result = .ok phase →
      phase.Secure name (e.phase.step number lines started now e.session).state)
    (stops : e.phase.onFault.Secure name (e.phase.step number lines started now e.session).state) :
    (e.proceed number lines started now).phase.Secure name
      (e.proceed number lines started now).session :=
  proceed_of_step number lines started (fun s phase => phase.Secure name s) goes stops

theorem proceed_connecting (h : s.controller.Opening name) (now : α) :
    let e := proceed number lines started now ⟨s, .connecting⟩
    e.phase.Secure name e.session := by
  refine proceed_secure_of_step number lines started (fun phase went => ?_) trivial
  simp only [Phase.step, Session.attempt] at went ⊢
  by_cases connected : s.status = .connected
  · rw [if_pos connected] at went ⊢
    cases went
    exact ⟨h.held connected, fun _ => h.desired, nofun⟩
  · have opening : (s.update now).state.controller.desired = .connected →
        (s.update now).state.controller.Opening name := Session.update_opening h connected
    rw [if_neg connected] at went ⊢
    generalize s.update now = turn at opening went ⊢
    obtain ⟨s', result⟩ := turn
    cases result with
    | error _ => cases went
    | ok _ =>
      cases abandoned : decide (s'.controller.desired ≠ .connected) ||
          less Session.patience (now - started) with
      | true =>
        simp only [Step.andThen, Step.mapResult, Step.done, abandoned, if_true, Except.map] at went
        cases went
        trivial
      | false =>
        have asked : s'.controller.desired = .connected := by
          simpa using (Bool.or_eq_false_iff.1 abandoned).1
        simp only [Step.andThen, Step.mapResult, Step.done, abandoned, Bool.false_eq_true,
          if_false, Except.map] at went
        cases went
        exact opening asked

theorem proceed_streaming {at_ : Streaming} (h : (Phase.streaming at_).Secure name s)
    (now : α) :
    let e := proceed number lines started now ⟨s, .streaming at_⟩
    e.phase.Secure name e.session := by
  have held : s.controller.Held name := h.1
  cases at_ with
  | returned | stopped => exact held
  | approaching =>
    obtain ⟨held', asked'⟩ := Station.approach_held held (h.2.2 rfl) (h.2.1 (h.2.2 rfl))
    exact ⟨held', asked', nofun⟩
  | sending _ | looking | tracking | showing | judging =>
    obtain ⟨stays, goes⟩ := Streaming.step_secure h (by rintro ⟨⟩) number now
    refine proceed_secure_of_step number lines started (fun phase went => ?_) stays
    simp only [Phase.step] at went ⊢
    obtain ⟨next, stepped, rfl⟩ := Step.ok_of_mapResult went
    exact goes next stepped

theorem step_shut (h : s.controller.Shut name) (now : α) :
    Phase.closing.step number lines started now s = (s.update now).mapResult fun _ => .closing := by
  rw [Phase.step, if_pos (show s.status = .disconnecting from h.status)]

theorem step_released (h : s.station.Released name) (now : α) :
    Phase.closing.step number lines started now s = .done s .ended := by
  have down : s.status ≠ .disconnecting := by
    rw [show s.status = _ from h.status]
    nofun
  rw [Phase.step, if_neg down]

theorem proceed_closing (h : Phase.closing.Secure name s) (now : α) :
    let e := proceed number lines started now ⟨s, .closing⟩
    e.phase.Secure name e.session := by
  rcases h with shut | released
  · have released := Session.update_released shut now
    have turn := step_shut number lines started shut now
    refine proceed_secure_of_step number lines started (fun phase went => ?_) ?_
    · dsimp only at went ⊢
      rw [turn] at went ⊢
      obtain ⟨_, -, rfl⟩ := Step.ok_of_mapResult went
      exact .inr released
    · dsimp only
      rw [turn]
      exact released
  · rw [proceed, step_released number lines started released now]
    exact released

theorem proceed_secure (h : e.phase.Secure name e.session) (now : α) :
    (e.proceed number lines started now).phase.Secure name
      (e.proceed number lines started now).session := by
  obtain ⟨s, phase⟩ := e
  cases phase with
  | connecting => exact proceed_connecting number lines started h now
  | givenUp => trivial
  | streaming at_ => exact proceed_streaming number lines started h now
  | leaving => exact .inl (Controller.Held.disconnect h)
  | closing => exact proceed_closing number lines started h now
  | ended => exact h

/-! ### Other acts -/

omit [Scalar α] in
/-- What holds in a phase depends on the connection, on what is there of the port, and on the names
that are taken. -/
theorem secure_of_same {phase : Phase} {s' : Session α} (h : phase.Secure name s)
    (outline : s'.controller.outline = s.controller.outline)
    (status : s'.controller.status = s.controller.status)
    (desired : s'.controller.desired = s.controller.desired)
    (names : s'.station.ports.inUse = s.station.ports.inUse) : phase.Secure name s' := by
  have upholds : s.controller.Upholds s'.controller := ⟨outline, desired, .inl status⟩
  have held := fun h : s.controller.Held name => h.upholds upholds
  have released : s.station.Released name → s'.station.Released name := by
    rintro ⟨portName, port, free, gone⟩
    refine ⟨(congrArg Prod.fst outline).trans portName, ?_, names ▸ free, status.trans gone⟩
    have noPort := congrArg Prod.snd outline
    rw [Controller.outline, Controller.outline, show s.controller.port = none from port] at noPort
    exact Option.map_eq_none_iff.1 noPort
  cases phase with
  | connecting => exact Controller.Opening.upholds h upholds
  | givenUp => trivial
  | streaming at_ =>
    obtain ⟨there, asked, up⟩ := h
    refine ⟨held there, fun away => ?_, fun approaching away => ?_⟩
    · exact desired.trans (asked fun cleanup => away (status.trans cleanup))
    · exact up approaching (status.symm.trans away)
  | leaving => exact held h
  | closing =>
    refine h.imp (fun shut => ?_) released
    exact ⟨outline.trans shut.outline, status.trans shut.status, desired.trans shut.desired⟩
  | ended => exact released h

theorem pass_secure (h : e.phase.Secure name e.session) (now : α) :
    e.phase.Secure name (e.session.mapController fun c => (c.pass now).state) := by
  obtain ⟨s, phase⟩ := e
  by_cases connected : s.controller.status = .connected
  · have upholds := s.controller.pass_upholds now
    cases phase with
    | connecting => exact Controller.Opening.upholds h upholds
    | givenUp => trivial
    | streaming at_ =>
      obtain ⟨there, asked, -⟩ := h
      have up : (s.controller.pass now).state.status ≠ .cleanup := by
        rcases upholds.status with same | failed
        · rw [same, connected]
          nofun
        · rw [failed]
          nofun
      refine ⟨there.upholds upholds, fun _ => upholds.desired.trans (asked ?_), fun _ => up⟩
      exact fun cleanup => absurd (connected.symm.trans cleanup) nofun
    | leaving => exact Controller.Held.upholds h upholds
    | closing =>
      rcases h with shut | released
      · exact absurd (shut.status.symm.trans connected) nofun
      · exact absurd (released.status.symm.trans connected) nofun
    | ended => exact absurd (h.status.symm.trans connected) nofun
  · have nothing : (s.controller.pass now).state = s.controller := by
      rw [Controller.pass, if_neg connected]
      rfl
    refine secure_of_same h ?_ ?_ ?_ rfl
    · exact congrArg Controller.outline nothing
    · exact congrArg Controller.status nothing
    · exact congrArg Controller.desired nothing

theorem opened_secure (h : e.phase.Secure name e.session) :
    (e.step number lines started .opened).phase.Secure name
      (e.step number lines started .opened).session := by
  rw [step]
  split
  next opening =>
    obtain ⟨s, phase⟩ := e
    replace opening : s.controller.status = .connecting := opening
    have held : ¬ s.controller.Held name := fun held => held.connecting opening
    have released : ¬ s.station.Released name := fun released =>
      absurd (released.status.symm.trans opening) nofun
    cases phase with
    | connecting => exact Controller.Opening.opened h
    | givenUp => trivial
    | streaming at_ => exact absurd h.1 held
    | leaving => exact absurd h held
    | closing =>
      rcases h with shut | gone
      · exact absurd (shut.status.symm.trans opening) nofun
      · exact absurd gone released
    | ended => exact absurd h released
  next => exact h

/-- Whatever happens next, it keeps what holds. -/
theorem step_secure (h : e.phase.Secure name e.session) (act : Act α) :
    (e.step number lines started act).phase.Secure name
      (e.step number lines started act).session := by
  cases act with
  | proceed now => exact proceed_secure number lines started h now
  | pass now => exact pass_secure h now
  | device chunks readFault writeFault =>
    refine secure_of_same h ?_ rfl rfl rfl
    show (_, Option.map _ (Option.map _ e.controller.port)) = (_, Option.map _ e.controller.port)
    cases e.controller.port <;> rfl
  | host openFault opens => exact secure_of_same h rfl rfl rfl rfl
  | opened => exact opened_secure number lines started h
  | interrupt tracker received desired =>
    obtain ⟨s, phase⟩ := e
    cases phase with
    | streaming at_ => exact ⟨h.1.outline, h.1.status⟩
    | connecting | givenUp | leaving | closing | ended => exact h

theorem run_secure (h : e.phase.Secure name e.session) (acts : List (Act α)) :
    (e.run number lines started acts).phase.Secure name
      (e.run number lines started acts).session := by
  induction acts generalizing e with
  | nil => exact h
  | cons act rest ih => exact ih (step_secure number lines started h act)

/-! ## Every way out -/

/-- A session that has been connected comes to its end only by closing. -/
theorem hasConnected_step (h : e.phase.hasConnected = true) (act : Act α) :
    (e.step number lines started act).phase.hasConnected = true := by
  obtain ⟨s, phase⟩ := e
  cases act with
  | proceed now =>
    refine proceed_of_step number lines started (fun _ phase => phase.hasConnected = true)
      (fun next went => ?_) ?_
    · cases phase with
      | connecting | givenUp => cases h
      | streaming at_ =>
        cases at_ with
        | returned | stopped => cases went; rfl
        | approaching | sending _ | looking | tracking | showing | judging =>
          simp only [Phase.step] at went
          obtain ⟨_, -, rfl⟩ := Step.ok_of_mapResult went
          rfl
      | leaving => cases went; rfl
      | closing =>
        simp only [Phase.step] at went
        split at went
        next =>
          obtain ⟨_, -, rfl⟩ := Step.ok_of_mapResult went
          rfl
        next => cases went; rfl
      | ended => cases went; rfl
    · cases phase <;> first | rfl | cases h
  | pass _ | device _ _ _ | host _ _ => exact h
  | opened =>
    rw [step]
    split <;> exact h
  | interrupt tracker received desired =>
    cases phase <;> first | rfl | exact h

theorem hasConnected_run (h : e.phase.hasConnected = true) (acts : List (Act α)) :
    (e.run number lines started acts).phase.hasConnected = true := by
  induction acts generalizing e with
  | nil => exact h
  | cons act rest ih => exact ih (hasConnected_step number lines started h act)

/-! ### Closing comes to an end -/

theorem proceed_endsWithin {n : Nat} (secure : e.phase.Secure name e.session)
    (h : e.phase.EndsWithin n e.session) (now : α) :
    (e.proceed number lines started now).phase.EndsWithin (n - 1)
      (e.proceed number lines started now).session := by
  obtain ⟨s, phase⟩ := e
  cases phase with
  | connecting | givenUp | streaming _ => exact absurd h id
  | leaving =>
    have left : 3 ≤ n := h
    show (if _ then 2 else 1) ≤ n - 1
    split <;> omega
  | closing =>
    refine proceed_of_step number lines started (fun s phase => phase.EndsWithin (n - 1) s)
      (fun next went => ?_) trivial
    rcases secure with shut | released
    · have begun : s.status = .disconnecting := shut.status
      have left : 2 ≤ n := by rwa [Phase.EndsWithin, if_pos begun] at h
      -- The turn that is made now is the last one, whether or not a fault stops it.
      have back : ¬ (s.update now).state.status = .disconnecting := by
        rw [show (s.update now).state.status = _ from (Session.update_released shut now).status]
        nofun
      dsimp only at went ⊢
      rw [step_shut number lines started shut now] at went ⊢
      obtain ⟨_, -, rfl⟩ := Step.ok_of_mapResult went
      show (if (s.update now).state.status = .disconnecting then 2 else 1) ≤ n - 1
      rw [if_neg back]
      omega
    · dsimp only at went
      rw [step_released number lines started released now] at went
      cases went
      trivial
  | ended => trivial

/-- Only a step of the session's own brings it nearer to its end, and nothing takes it further
away. -/
theorem step_endsWithin {n : Nat} (secure : e.phase.Secure name e.session)
    (h : e.phase.EndsWithin n e.session) (act : Act α) :
    (e.step number lines started act).phase.EndsWithin (n - if act.isProceed then 1 else 0)
      (e.step number lines started act).session := by
  -- What is left depends on the status alone, and no other act begins to close the port.
  have nearer : ∀ s' : Session α, (s'.status = .disconnecting → e.session.status = .disconnecting) →
      e.phase.EndsWithin n s' := by
    intro s' begun
    obtain ⟨s, phase⟩ := e
    cases phase with
    | closing =>
      have left : (if s.status = .disconnecting then 2 else 1) ≤ n := h
      show (if s'.status = .disconnecting then 2 else 1) ≤ n
      refine Nat.le_trans ?_ left
      by_cases closing : s'.status = .disconnecting
      · exact Nat.le_of_eq ((if_pos closing).trans (if_pos (begun closing)).symm)
      · rw [if_neg closing]
        split <;> omega
    | connecting | givenUp | streaming _ | leaving | ended => exact h
  cases act with
  | proceed now => exact proceed_endsWithin number lines started secure h now
  | pass now =>
    refine nearer _ fun closing => ?_
    rcases (e.controller.pass_upholds now).status with same | failed
    · exact same.symm.trans closing
    · exact absurd (failed.symm.trans closing) nofun
  | device _ _ _ | host _ _ => exact nearer _ id
  | opened =>
    by_cases opening : e.session.status = .connecting
    · rw [step, if_pos opening]
      exact nearer _ id
    · rw [step, if_neg opening]
      exact h
  | interrupt tracker received desired =>
    obtain ⟨s, phase⟩ := e
    cases phase with
    | streaming _ => exact absurd h id
    | connecting | givenUp | leaving | closing | ended => exact h

theorem run_endsWithin {n : Nat} (secure : e.phase.Secure name e.session)
    (h : e.phase.EndsWithin n e.session) (acts : List (Act α)) :
    (e.run number lines started acts).phase.EndsWithin (n - acts.countP Act.isProceed)
      (e.run number lines started acts).session := by
  induction acts generalizing e n with
  | nil => exact h
  | cons act rest ih =>
    have later := ih (step_secure number lines started secure act)
      (step_endsWithin number lines started secure h act)
    rwa [Nat.sub_sub, Nat.add_comm, ← List.countP_cons] at later

omit [Scalar α] in
/-- A session that has not been connected before. -/
theorem start_secure {s : Session α} (noPort : s.controller.port = none)
    (down : s.status ≠ .connected) :
    (start s).phase.Secure s.controller.portName (start s).session where
  desired := rfl
  outline := by
    refine .inl ⟨?_, down⟩
    show (s.controller.portName, Option.map _ s.controller.port) = _
    rw [noPort]
    rfl

/-- Every way out of a session gives its port back.  Whatever happens from its beginning on, a
session that has come to its end holds no port, and the name of its port is free.  Once it has been
connected it cannot end otherwise; and once its streaming is over, however that came about, three
steps of its own are enough, whatever happens between them. -/
theorem released_on_every_exit (number : α → String) (lines : List Bytes) (started : α)
    {s : Session α} (noPort : s.controller.port = none) (down : s.status ≠ .connected)
    (acts : List (Act α)) :
    let e := (start s).run number lines started acts
    (e.phase = .ended →
      e.controller.port = none ∧ e.controller.portName = s.controller.portName ∧
        s.controller.portName ∉ e.session.station.ports.inUse) ∧
    (e.phase.hasConnected = true →
      ∀ more, (e.run number lines started more).phase.hasConnected = true) ∧
    (e.phase = .leaving ∨ e.phase = .closing →
      ∀ more, 3 ≤ more.countP Act.isProceed →
        (e.run number lines started more).phase = .ended) := by
  intro e
  have secure : e.phase.Secure s.controller.portName e.session :=
    run_secure number lines started (start_secure noPort down) acts
  refine ⟨fun ended => ?_, hasConnected_run number lines started, fun closing more enough => ?_⟩
  · rw [ended] at secure
    exact ⟨secure.port, secure.portName, secure.free⟩
  · have within : e.phase.EndsWithin 3 e.session := by
      rcases closing with leaving | closing
      · rw [leaving]
        exact Nat.le_refl 3
      · rw [closing]
        show (if _ then 2 else 1) ≤ 3
        split <;> omega
    have later := run_endsWithin number lines started secure within more
    rw [Nat.sub_eq_zero_of_le enough] at later
    exact Phase.ended_of_endsWithin later

/-- Two lines are queued; reading begins to fail while they are written; the user interrupts before
the event loop has noticed. -/
theorem released_on_every_exit_interrupted :
    let s : Session Float := { station := { controller := { Controller.fresh "grbl" true with
      portName := "/dev/ttyUSB0", threaded := true } } }
    let lines := [Bytes.ofText "G1 X3 F3000", Bytes.ofText "G0 X1"]
    let broken : Act Float := .device [] (some (.system "gone")) none
    let acts := List.replicate 6 (.proceed 0) ++
      [.pass 0, .pass 0, .pass 0, broken, .pass 1, .interrupt (.fresh true) [] .connected]
    let more : List (Act Float) := [.proceed 1, .pass 1, .proceed 1, .proceed 1]
    let e := (start s).run (fun _ => "") lines 0 acts
    s.controller.port = none ∧ s.status ≠ .connected ∧
      e.phase = .leaving ∧ e.session.station.ports.inUse = ["/dev/ttyUSB0"] ∧
      (e.run (fun _ => "") lines 0 more).phase = .ended ∧
      (e.run (fun _ => "") lines 0 more).controller.port = none ∧
      "/dev/ttyUSB0" ∉ (e.run (fun _ => "") lines 0 more).session.station.ports.inUse := by
  intro s lines broken acts more e
  have noPort : s.controller.port = none := rfl
  have down : s.status ≠ .connected := by decide +kernel
  have leaving : e.phase = .leaving := by decide +kernel
  have taken : e.session.station.ports.inUse = ["/dev/ttyUSB0"] := by decide +kernel
  obtain ⟨-, -, closes⟩ := released_on_every_exit (fun _ => "") lines 0 noPort down acts
  have ended := closes (.inl leaving) more (by decide)
  obtain ⟨gone, -, -⟩ := released_on_every_exit (fun _ => "") lines 0 noPort down (acts ++ more)
  have after : (start s).run (fun _ => "") lines 0 (acts ++ more) =
      e.run (fun _ => "") lines 0 more := List.foldl_append
  rw [after] at gone
  obtain ⟨port, -, free⟩ := gone ended
  exact ⟨noPort, down, leaving, taken, ended, port, free⟩

end Engagement

/-! ## A session that is left alone -/

/-- It closes as it is defined to. -/
theorem Phase.leads_close (number : α → String) (lines : List Bytes) (started now : α)
    (s : Session α) :
    Leads (Phase.step number lines started now) .leaving s
      ((s.close now).mapResult fun _ => .closing) := by
  have settles : ∀ (n : Nat) (s : Session α), Leads (Phase.step number lines started now) .closing s
      ((s.settleClosing now n).mapResult fun _ => .closing) := by
    intro n
    induction n with
    | zero => exact fun s => .here _ _
    | succ n ih =>
      intro s
      rw [Session.settleClosing]
      by_cases closing : s.status = .disconnecting
      · rw [if_pos closing]
        refine Leads.andThen (fun _ => .closing) (.of_step ?_) fun _ => ih _
        rw [Phase.step, if_pos closing]
      · rw [if_neg closing]
        exact .here _ _
  exact .step rfl (settles 2 _)

/-- Two turns are enough for closing a port that is there, also where a fault stops them. -/
theorem Session.close_released (h : s.controller.Held name) (now : α) :
    (s.close now).state.station.Released name := by
  have shut : (s.mapController (·.disconnect)).controller.Shut name := h.disconnect
  have released := Session.update_released shut now
  have begun : (s.mapController (·.disconnect)).status = .disconnecting := shut.status
  rw [Session.close, Session.settleClosing, if_pos begun]
  generalize (s.mapController (·.disconnect)).update now = turn at released
  obtain ⟨s', result⟩ := turn
  cases result with
  | error _ => exact released
  | ok _ =>
    have down : ¬ s'.status = .disconnecting := by
      rw [show s'.status = _ from released.status]
      nofun
    show (s'.settleClosing now 1).state.station.Released name
    rw [Session.settleClosing, if_neg down]
    exact released

end GcodeSender
