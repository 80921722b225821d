/-
# `GcodeSender.Proofs.Link.Readiness` — while commands are welcome

A controller says that commands are welcome (`ready`) when its port has been
confirmed open, and takes that back when the port is told to close.  Nothing else
changes the flag:

    turn                              flag       status afterwards
    a port is confirmed open          raised     CONNECTED
    a port is told to close           lowered    DISCONNECTING
    a port that fails is used         –          FAIL
    a failed connection is given up   –          CLEANUP
    it is asked for once more         –          BLOCKED, for its own name is taken
    any other                         –          –, or the flag was down before

So a connection that fails leaves the flag up until its port is told to close, and
the flag does not mean that the connection is up.  What it means depends on the
history: the connection is up; or it was, the port that it used failed, and it has
been broken ever since (`Host.Failed`).

    Exchanges c c'     the port was used: nothing but the status has changed, to FAIL
    Flags broke c c'   what a turn does to the flag; `broke`, if it broke a connection
    Flagged c          with the flag up, a port is held, and the connection is up or broken
-/
import GcodeSender.Proofs.Link.Disconnection
import GcodeSender.Proofs.Session.Interleaving
import Mathlib.Data.List.Basic
import Mathlib.Data.List.Induction

namespace GcodeSender

open Scalar Gcode

variable {α : Type} [Scalar α]

namespace Link

/-! ## Ports that fail, and what they leave -/

/-- Does a failure to read end the connection? -/
def ReadFault.endsConnection : ReadFault → Bool
  | .system _ => true
  | .other _ _ => false

/-- Does reading or writing end the connection? -/
def Port.fails (p : Port) : Bool := p.readFault.any (·.endsConnection) || p.writeFault.isSome

/-- The states of a connection that has failed, until its port is told to close. -/
def Status.isBroken : Status → Bool
  | .fail | .cleanup | .blocked => true
  | _ => false

namespace Controller

variable {c c' c'' : Controller α}

omit [Scalar α] in
/-- Are commands welcome? -/
def ready (c : Controller α) : Bool := c.connection.ready

omit [Scalar α] in
/-- Does using the port end the connection?  So it does where there is none. -/
def fails (c : Controller α) : Bool := c.port.all (·.fails)

omit [Scalar α] in
@[simp] theorem ready_setStatus (c : Controller α) (status : Status) :
    (c.setStatus status).ready = c.ready := by
  simp only [ready, setStatus, mapConnection, Connection.setStatus]
  split <;> rfl

/-! ## Using the port -/

omit [Scalar α] in
/-- The port is used.  The flag stays, and so does the status, unless the port fails. -/
structure Exchanges (c c' : Controller α) : Prop where
  ready : c'.ready = c.ready
  fails : c'.fails = c.fails
  status : c'.status = c.status ∨ c'.status = .fail ∧ c.fails = true

namespace Exchanges

omit [Scalar α] in
theorem refl (c : Controller α) : Exchanges c c := ⟨rfl, rfl, .inl rfl⟩

omit [Scalar α] in
theorem trans (h : Exchanges c c') (h' : Exchanges c' c'') : Exchanges c c'' where
  ready := h'.ready.trans h.ready
  fails := h'.fails.trans h.fails
  status := by
    rcases h'.status with same | ⟨failed, fails⟩
    · rw [same]
      exact h.status
    · exact .inr ⟨failed, h.fails ▸ fails⟩

omit [Scalar α] in
/-- Neither the connection nor the port has changed. -/
theorem of_same (connection : c'.connection = c.connection) (port : c'.port = c.port) :
    Exchanges c c' where
  ready := congrArg Connection.ready connection
  fails := congrArg (Option.all Port.fails) port
  status := .inl (congrArg Connection.status connection)

omit [Scalar α] in
theorem logText (c : Controller α) (level : Level) (s : String) :
    Exchanges c (c.logText level s) := ⟨rfl, rfl, .inl rfl⟩

omit [Scalar α] in
theorem adopt (c : Controller α) (t : Tracker α) : Exchanges c (c.adopt t) := ⟨rfl, rfl, .inl rfl⟩

omit [Scalar α] in
/-- The status becomes FAIL where the port fails. -/
theorem setStatus_fail (fails : c.fails = true) : Exchanges c (c.setStatus .fail) :=
  ⟨c.ready_setStatus _, rfl, .inr ⟨status_setStatus _ _, fails⟩⟩

omit [Scalar α] in
theorem fail (fails : c.fails = true) (reason message : String) :
    Exchanges c (c.fail reason message) :=
  (logText c _ _).trans (setStatus_fail fails)

omit [Scalar α] in
/-- One piece of work after another. -/
theorem andThen {ρ ρ' : Type} {a : Step (Controller α) ρ}
    {next : ρ → Controller α → Step (Controller α) ρ'}
    (rest : ∀ r, Exchanges a.state (next r a.state).state) :
    Exchanges a.state (a.andThen next).state := by
  obtain ⟨c, result⟩ := a
  cases result with
  | ok r => exact rest r
  | error fault => exact refl c

omit [Scalar α] in
/-- A connection that has failed stays so. -/
theorem failed (h : Exchanges c c') (failed : c.status = .fail) : c'.status = .fail := by
  rcases h.status with same | ⟨failed', -⟩
  · exact same.trans failed
  · exact failed'

end Exchanges

omit [Scalar α] in
theorem read_exchanges (c : Controller α) : Exchanges c c.read.state := by
  rw [read]
  split
  next absent => exact .setStatus_fail (by rw [fails, absent]; rfl)
  next port there =>
    split
    next fault =>
      have fails : c.fails = true := by
        simp [fails, there, Port.fails, fault, ReadFault.endsConnection]
      exact .fail fails _ _
    next => exact .refl c
    next =>
      split
      next => exact .refl c
      next => exact ⟨rfl, by simp [fails, there, Step.done, Port.fails], .inl rfl⟩

omit [Scalar α] in
theorem write_exchanges (data : Bytes) (c : Controller α) : Exchanges c (c.write data).1 := by
  rw [write]
  split
  next absent => exact .setStatus_fail (by rw [fails, absent]; rfl)
  next port there =>
    split
    next fault => exact .fail (by simp [fails, there, Port.fails, fault]) _ _
    next => exact ⟨rfl, by simp [fails, there, Port.fails], .inl rfl⟩

theorem takeLine_exchanges (line : Bytes) (c : Controller α) : Exchanges c (c.takeLine line) := by
  rw [takeLine]
  split
  · exact .refl c
  · split
    · exact .adopt c _
    · exact .of_same rfl rfl

theorem writeStreaming_exchanges (now : α) (c : Controller α) :
    Exchanges c (c.writeStreaming now).state := by
  rw [writeStreaming]
  split
  next => exact .refl c
  next line left next =>
    have taken : Exchanges c left := by
      rw [(nextLine?_eq next).2.1]
      exact .of_same rfl rfl
    split
    next =>
      split
      next => exact taken.trans (.logText left _ _)
      next => exact taken.trans (.of_same rfl rfl)
    next =>
      have written := taken.trans (write_exchanges line left)
      split
      next wrote =>
        rw [wrote] at written
        exact written
      next wrote =>
        rw [wrote] at written
        exact written.trans (.adopt _ _)

theorem query_exchanges (now : α) (c : Controller α) : Exchanges c (c.query now) := by
  rw [query]
  split
  · exact .of_same rfl rfl
  · exact .refl c

end Controller

open Controller

/-- Each step of the thread that serves the port. -/
theorem Serving.step_exchanges (now : α) (c : Controller α) (phase : Serving) :
    Exchanges c (phase.step now c).state := by
  cases phase with
  | waiting | ended => exact .refl c
  | reading => exact read_exchanges c
  | taking got =>
    rw [step]
    split
    · exact .refl c
    · split <;> exact .of_same rfl rfl
  | handing line => exact takeLine_exchanges line c
  | urging =>
    rw [step]
    split
    · exact .refl c
    · exact .of_same rfl rfl
  | writing byte =>
    have written := write_exchanges byte c
    rw [step]
    split <;> next wrote => rw [wrote] at written; exact written
  | telling byte => exact .adopt c _
  | streaming => exact writeStreaming_exchanges now c
  | asking => exact query_exchanges now c

namespace Controller

variable {c c' c'' : Controller α}

theorem writeImmediate_exchanges (now : α) (c : Controller α) :
    Exchanges c (c.writeImmediate now).state :=
  (Serving.leads_writeImmediate c).keeps Exchanges.refl Exchanges.trans (Serving.step_exchanges now)

theorem readOn_exchanges (got : Bytes) (c : Controller α) : Exchanges c (readOn got c).state :=
  (Serving.leads_readOn got c).keeps Exchanges.refl Exchanges.trans
    (Serving.step_exchanges c.lastQuery)

theorem writeNext_exchanges (now : α) (c : Controller α) : Exchanges c (c.writeNext now).state :=
  (Serving.leads_writeNext c).keeps Exchanges.refl Exchanges.trans (Serving.step_exchanges now)

/-- A pass over a port that is up reads a first chunk, and goes on from there. -/
theorem pass_exchanges_of_read (connected : c.status = .connected) (now : α) :
    Exchanges c.read.state (c.pass now).state := by
  have read : Exchanges c.read.state c.readAll.state := .andThen fun got => readOn_exchanges got _
  have wrote (c' : Controller α) :
      Exchanges c' ((c'.writeNext now).andThen fun _ c => .done (c.query now) ()).state :=
    (writeNext_exchanges now c').trans (.andThen fun _ => query_exchanges now _)
  rw [pass, if_pos connected]
  exact read.trans (.andThen fun _ => wrote _)

theorem pass_exchanges (now : α) (c : Controller α) : Exchanges c (c.pass now).state := by
  by_cases connected : c.status = .connected
  · exact (read_exchanges c).trans (pass_exchanges_of_read connected now)
  · rw [pass, if_neg connected]
    exact .refl c

/-- A pass over a port that cannot be read ends the connection, and leaves commands as welcome as
they were. -/
theorem pass_of_unreadable {port : Port} {message : String} (connected : c.status = .connected)
    (there : c.port = some port) (unreadable : port.readFault = some (.system message)) (now : α) :
    (c.pass now).state.status = .fail ∧ (c.pass now).state.ready = c.ready := by
  have failed : c.read.state.status = .fail := by
    simp only [read, there, unreadable]
    exact status_setStatus _ _
  exact ⟨(pass_exchanges_of_read connected now).failed failed, (pass_exchanges now c).ready⟩

/-! ## What a turn does to the flag -/

omit [Scalar α] in
/-- All that a turn can do to the flag of a controller; `broke` is what it takes for a connection
that is up to be broken. -/
inductive Flags (broke : Prop) (c c' : Controller α) : Prop
  /-- The port is there, the connection is up, and commands are welcome. -/
  | raises : c'.ready = true → c'.port.isSome = true → c'.status = .connected → Flags broke c c'
  /-- Commands are not welcome, and the connection is neither up nor broken. -/
  | lowers : c'.ready = false → c'.status ≠ .connected → c'.status.isBroken = false →
      Flags broke c c'
  /-- The flag and the port are as they were; the status is too, or the connection is broken. -/
  | keeps : c'.ready = c.ready → c'.port.isSome = c.port.isSome →
      (c'.status = c.status ∨ c'.status.isBroken = true ∧ (c.status = .connected → broke)) →
      Flags broke c c'

omit [Scalar α] in
/-- Commands are welcome only where a port is held, and the connection is up or broken. -/
structure Flagged (c : Controller α) : Prop where
  held : c.ready = true → c.port.isSome = true
  standing : c.ready = true → c.status = .connected ∨ c.status.isBroken = true

namespace Flags

variable {broke broke' : Prop}

omit [Scalar α] in
theorem refl (broke : Prop) (c : Controller α) : Flags broke c c := .keeps rfl rfl (.inl rfl)

omit [Scalar α] in
theorem imp (h : Flags broke c c') (weaker : broke → broke') : Flags broke' c c' := by
  cases h with
  | raises ready there up => exact .raises ready there up
  | lowers dark down whole => exact .lowers dark down whole
  | keeps same port status =>
    exact .keeps same port (status.imp_right fun broken => ⟨broken.1, weaker ∘ broken.2⟩)

omit [Scalar α] in
/-- What concerns neither the connection nor the port may follow. -/
theorem of_same (h : Flags broke c c') (ready : c''.ready = c'.ready)
    (status : c''.status = c'.status) (port : c''.port = c'.port) : Flags broke c c'' := by
  cases h with
  | raises lit there up => exact .raises (ready.trans lit) (port ▸ there) (status.trans up)
  | lowers dark down whole =>
    exact .lowers (ready.trans dark) (status ▸ down) (status ▸ whole)
  | keeps same there stays =>
    refine .keeps (ready.trans same) (port ▸ there) ?_
    rwa [status]

omit [Scalar α] in
/-- Where commands are welcome after a turn, the connection is up; or it is broken, and commands
were welcome before. -/
theorem up_or_broken (h : Flags broke c c') (flagged : c.Flagged) (ready : c'.ready = true) :
    c'.status = .connected ∨
      c'.status.isBroken = true ∧ c.ready = true ∧ (c.status = .connected → broke) := by
  cases h with
  | raises _ _ up => exact .inl up
  | lowers dark _ _ => cases dark.symm.trans ready
  | keeps same _ status =>
    have before : c.ready = true := same.symm.trans ready
    rcases status with stays | ⟨broken, broke⟩
    · rw [stays]
      rcases flagged.standing before with up | broken
      · exact .inl up
      · exact .inr ⟨broken, before, fun up => by rw [up] at broken; cases broken⟩
    · exact .inr ⟨broken, before, broke⟩

omit [Scalar α] in
theorem flagged (h : Flags broke c c') (flagged : c.Flagged) : c'.Flagged where
  held ready := by
    cases h with
    | raises _ there _ => exact there
    | lowers dark _ _ => cases dark.symm.trans ready
    | keeps same port _ => exact port.trans (flagged.held (same.symm.trans ready))
  standing ready := (h.up_or_broken flagged ready).imp_right And.left

omit [Scalar α] in
/-- A connection that is broken after a turn keeps its flag. -/
theorem ready_of_isBroken (h : Flags broke c c') (ready : c.ready = true)
    (broken : c'.status.isBroken = true) : c'.ready = true := by
  cases h with
  | raises ready' _ _ => exact ready'
  | lowers _ _ whole => cases whole.symm.trans broken
  | keeps same _ _ => exact same.trans ready

end Flags

omit [Scalar α] in
theorem confirmOpen_flags (connecting : c.status = .connecting) : Flags False c c.confirmOpen := by
  have before : c.status ≠ .connected := fun up => by cases connecting.symm.trans up
  simp only [confirmOpen]
  split
  next =>
    refine .keeps (ready_setStatus _ _) rfl (.inr ⟨?_, before⟩)
    rw [status_setStatus]
    rfl
  next =>
    split
    next =>
      rw [startThread]
      split <;> exact .raises rfl rfl rfl
    next => exact .refl False c

omit [Scalar α] in
theorem disconnect_flags (c : Controller α) : Flags False c c.disconnect := by
  simp only [disconnect]
  split
  next => exact .keeps rfl rfl (.inl rfl)
  next =>
    split
    next =>
      refine .lowers (ready_setStatus _ _) ?_ ?_ <;> rw [status_setStatus] <;> decide
    next =>
      rw [joinThread]
      split <;> exact .lowers (ready_setStatus _ _) (fun up => by cases up) rfl

omit [Scalar α] in
theorem giveUp_flags (failed : c.status.isFailed = true) : Flags False c c.giveUp := by
  refine .keeps (ready_setStatus _ _) rfl (.inr ⟨?_, fun up => ?_⟩)
  · rw [giveUp, status_setStatus]
    rfl
  · rw [up] at failed
    cases failed

end Controller

namespace Station

variable {s : Station α}

omit [Scalar α] in
/-- A connection that has failed still holds its port, so that asking for a new one finds the name
taken. -/
theorem connect_flags (flagged : s.controller.Flagged)
    (owned : s.controller.port.isSome = true → s.controller.portName ∈ s.ports.inUse) :
    Flags False s.controller s.connect.controller := by
  rw [connect]
  dsimp only
  split
  next => exact .refl False s.controller
  next => exact .refl False s.controller
  next => exact .refl False s.controller
  next _ up _ =>
    split
    next => exact .keeps (ready_setStatus _ _) rfl (.inr ⟨rfl, up⟩)
    next free =>
      -- with the flag up a port would be held, and its name taken
      have dark : s.controller.ready = false := by
        refine Bool.eq_false_iff.2 fun ready => free ?_
        simpa using owned (flagged.held ready)
      split
      next => exact .lowers ((ready_setStatus _ _).trans dark) (fun up => by cases up) rfl
      next => exact .lowers ((ready_setStatus _ _).trans dark) (fun up => by cases up) rfl

omit [Scalar α] in
theorem confirmClosed_flags (flagged : s.controller.Flagged)
    (disconnecting : s.controller.status = .disconnecting) :
    Flags False s.controller s.confirmClosed.controller := by
  have before : s.controller.status ≠ .connected := fun up => by
    cases disconnecting.symm.trans up
  rw [confirmClosed]
  dsimp only
  split
  next => exact .keeps (ready_setStatus _ _) rfl (.inr ⟨rfl, before⟩)
  next =>
    split
    next => exact .refl False s.controller
    next =>
      have dark : s.controller.ready = false := by
        refine Bool.eq_false_iff.2 fun ready => ?_
        rcases flagged.standing ready with up | broken
        · exact before up
        · rw [disconnecting] at broken
          cases broken
      exact .lowers ((ready_setStatus _ _).trans dark) (fun up => by cases up) rfl

omit [Scalar α] in
/-- A step towards the status that is asked for. -/
theorem approach_flags (flagged : s.controller.Flagged)
    (owned : s.controller.port.isSome = true → s.controller.portName ∈ s.ports.inUse) :
    Flags False s.controller s.approach.controller := by
  rw [approach]
  split
  next => exact .refl False s.controller
  next =>
    split
    next connecting => exact confirmOpen_flags connecting
    next =>
      split
      next disconnecting => exact confirmClosed_flags flagged disconnecting
      next =>
        split
        next failed => exact giveUp_flags failed
        next =>
          split
          next => exact connect_flags flagged owned
          next => exact disconnect_flags s.controller

/-- A step of the event loop. -/
theorem update_flags (flagged : s.controller.Flagged)
    (owned : s.controller.port.isSome = true → s.controller.portName ∈ s.ports.inUse) (now : α) :
    Flags False s.controller (s.update now).state.controller := by
  obtain ⟨status, -, port⟩ := s.update_connection now
  exact (approach_flags flagged owned).of_same rfl status port

end Station

/-! ## Turns -/

omit [Scalar α] in
/-- Does a turn use the port? -/
def Turn.isExchange : Turn α → Bool
  | .act (.call (.pass _)) | .act (.writeImmediate _) | .act (.writeStreaming _) => true
  | _ => false

omit [Scalar α] in
theorem Controller.connection_send (command : Bytes) (c : Controller α) :
    (c.send command).connection = c.connection := by
  rw [send]
  split
  · rfl
  · dsimp only
    split <;> rfl

/-- What comes from outside, is no move and uses no port leaves flag and status alone. -/
theorem Turn.ready_status_of_quiet (s : Station α) {turn : Turn α} (outward : turn.isOutward = true)
    (still : turn.isMove = false) (quiet : turn.isExchange = false) :
    (turn.apply s).controller.ready = s.controller.ready ∧
      (turn.apply s).controller.status = s.controller.status := by
  have of_connection {c : Controller α} (same : c.connection = s.controller.connection) :
      c.ready = s.controller.ready ∧ c.status = s.controller.status :=
    ⟨congrArg Connection.ready same, congrArg Connection.status same⟩
  cases turn with
  | act action =>
    cases action with
    | call asked =>
      cases asked with
      | send _ | jog _ | jogAbsolute _ => exact of_connection (connection_send _ s.controller)
      | cancelJog => exact ⟨rfl, rfl⟩
      | pass now => cases quiet
      | update now => cases still
    | writeImmediate now | writeStreaming now => cases quiet
    | arrive chunks | failRead fault => exact ⟨rfl, rfl⟩
    | accept piece =>
      have accepted := accept_accepted piece s.controller
      show (s.controller.accept piece).ready = _ ∧ (s.controller.accept piece).status = _
      generalize s.controller.accept piece = c at accepted ⊢
      cases accepted <;> exact ⟨rfl, rfl⟩
  | setDesired status | setJogFeed feed | port isOpen closes writeFault => exact ⟨rfl, rfl⟩
  | setSimulates enabled =>
    show (s.controller.setSimulates enabled).ready = _ ∧
      (s.controller.setSimulates enabled).status = _
    rw [Controller.setSimulates]
    split <;> exact ⟨rfl, rfl⟩
  | connect | disconnect => cases still
  | confirmOpen | confirmClosed | setStatus _ | host _ => cases outward

theorem Turn.exchanges (s : Station α) {turn : Turn α} (exchange : turn.isExchange = true) :
    Exchanges s.controller (turn.apply s).controller := by
  cases turn with
  | act action =>
    cases action with
    | call asked =>
      cases asked with
      | pass now => exact pass_exchanges now s.controller
      | _ => cases exchange
    | writeImmediate now => exact writeImmediate_exchanges now s.controller
    | writeStreaming now => exact writeStreaming_exchanges now s.controller
    | _ => cases exchange
  | _ => cases exchange

/-- Whatever comes from outside, the flag changes by confirming the port open and by telling it to
close; and a connection that is up is broken by a turn that uses its port, where the port fails. -/
theorem Turn.flags {s : Station α} (flagged : s.controller.Flagged)
    (owned : s.controller.port.isSome = true → s.controller.portName ∈ s.ports.inUse)
    {turn : Turn α} (outward : turn.isOutward = true) :
    Flags (turn.isExchange = true ∧ s.controller.fails = true ∧
        (turn.apply s).controller.status = .fail)
      s.controller (turn.apply s).controller := by
  cases move : turn.isMove with
  | false =>
    obtain ⟨serves, -⟩ := turn.serves_of_not_isMove s outward move
    cases exchange : turn.isExchange with
    | false =>
      obtain ⟨ready, status⟩ := turn.ready_status_of_quiet s outward move exchange
      exact .keeps ready serves.port (.inl status)
    | true =>
      have exchanges := turn.exchanges s exchange
      refine .keeps exchanges.ready serves.port (exchanges.status.imp_right ?_)
      rintro ⟨failed, fails⟩
      exact ⟨by rw [failed]; rfl, fun _ => ⟨rfl, fails, failed⟩⟩
  | true =>
    refine Flags.imp ?_ False.elim
    obtain rfl | rfl | ⟨now, rfl⟩ := Turn.eq_of_isMove move
    · exact Station.connect_flags flagged owned
    · exact disconnect_flags s.controller
    · exact Station.update_flags flagged owned now

/-! ## On a host -/

theorem Placement.flagged (p : Placement) : (p.controller : Controller α).Flagged where
  held ready := by cases ready
  standing ready := by cases ready

namespace Host

variable {ι : Type} [DecidableEq ι]

/-- A connection that was up and ready used its port, which failed, and it has been broken ever
since. -/
inductive Failed (h : Host ι α) (i : ι) : List (Event ι α) → Prop
  | breaks {before : List (Event ι α)} {turn : { turn : Turn α // turn.isOutward = true }} :
      ((h.run before).controllers i).status = .connected →
      ((h.run before).controllers i).ready = true →
      turn.val.isExchange = true → ((h.run before).controllers i).fails = true →
      ((h.run (before ++ [.turn i turn])).controllers i).status = .fail →
      Failed h i (before ++ [.turn i turn])
  | lasts {before : List (Event ι α)} {event : Event ι α} : Failed h i before →
      ((h.run (before ++ [event])).controllers i).status.isBroken = true →
      Failed h i (before ++ [event])

theorem run_concat (h : Host ι α) (events : List (Event ι α)) (event : Event ι α) :
    h.run (events ++ [event]) = (h.run events).step event := List.foldl_concat ..

variable {names : ι → String} {h : Host ι α} {i : ι}

/-- What an event does to the flag of a controller. -/
theorem flags_step (exclusive : h.Exclusive names) (flagged : (h.controllers i).Flagged)
    (event : Event ι α) :
    Flags (∃ turn, event = .turn i turn ∧ turn.val.isExchange = true ∧
        (h.controllers i).fails = true ∧ ((h.step event).controllers i).status = .fail)
      (h.controllers i) ((h.step event).controllers i) := by
  cases event with
  | opening fault opens => exact .refl _ (h.controllers i)
  | turn j turn =>
    by_cases here : i = j
    · subst here
      have mine : (h.step (.turn i turn)).controllers i =
          (turn.val.apply (h.station i)).controller := Function.update_self ..
      have owned (held : (h.controllers i).port.isSome = true) :
          (h.controllers i).portName ∈ h.ports.inUse := (exclusive.taken _).2 ⟨i, rfl, held⟩
      have flags := Turn.flags (s := h.station i) flagged owned turn.property
      rw [mine]
      exact flags.imp fun broke => ⟨turn, rfl, broke.1, broke.2.1, mine ▸ broke.2.2⟩
    · have other : (h.step (.turn j turn)).controllers i = h.controllers i :=
        Function.update_of_ne here ..
      rw [other]
      exact .refl _ (h.controllers i)

theorem flagged_run (exclusive : h.Exclusive names) (flagged : (h.controllers i).Flagged)
    (events : List (Event ι α)) : ((h.run events).controllers i).Flagged := by
  induction events generalizing h with
  | nil => exact flagged
  | cons event rest ih =>
    exact ih (exclusive.step event) ((flags_step exclusive flagged event).flagged flagged)

section
variable (exclusive : h.Exclusive names) (flagged : (h.controllers i).Flagged)
include exclusive flagged

/-- What the last event of a history does to the flag. -/
theorem flags_concat (before : List (Event ι α)) (event : Event ι α) :
    Flags (∃ turn, event = .turn i turn ∧ turn.val.isExchange = true ∧
        ((h.run before).controllers i).fails = true ∧
        ((h.run (before ++ [event])).controllers i).status = .fail)
      ((h.run before).controllers i) ((h.run (before ++ [event])).controllers i) := by
  rw [run_concat]
  exact flags_step (exclusive.run before) (flagged_run exclusive flagged before) event

/-- Where commands are welcome, the connection is up, or the history tells of its failure. -/
theorem connected_or_failed (dark : (h.controllers i).ready = false) (events : List (Event ι α))
    (ready : ((h.run events).controllers i).ready = true) :
    ((h.run events).controllers i).status = .connected ∨ h.Failed i events := by
  induction events using List.reverseRecOn with
  | nil => cases dark.symm.trans ready
  | append_singleton before event ih =>
    have flags := flags_concat exclusive flagged before event
    rcases flags.up_or_broken (flagged_run exclusive flagged before) ready with
      up | ⟨broken, before_ready, broke⟩
    · exact .inl up
    -- the flag was up before the last event: it broke the connection, or found it broken
    · rcases ih before_ready with up | failed
      · obtain ⟨turn, rfl, exchange, fails, status⟩ := broke up
        exact .inr (.breaks up before_ready exchange fails status)
      · exact .inr (.lasts failed broken)

/-- A failure leaves commands as welcome as they were, as long as the connection is broken. -/
theorem ready_of_failed {events : List (Event ι α)} (failed : h.Failed i events) :
    ((h.run events).controllers i).ready = true ∧
      ((h.run events).controllers i).status.isBroken = true := by
  induction failed with
  | @breaks before turn up ready _ _ status =>
    have broken : ((h.run (before ++ [.turn i turn])).controllers i).status.isBroken = true := by
      rw [status]
      rfl
    exact ⟨(flags_concat exclusive flagged before _).ready_of_isBroken ready broken, broken⟩
  | @lasts before event _ broken ih =>
    exact ⟨(flags_concat exclusive flagged before event).ready_of_isBroken ih.1 broken, broken⟩

end

end Host

end Link

end GcodeSender
