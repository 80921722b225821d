/-
# `GcodeSender.Proofs.Link.Ownership` — a port belongs to one controller

Controllers that share a host may be configured with the same port.  The host
keeps the names that are taken; a controller takes a name when it opens the port,
and gives it back when the port is confirmed closed.

    step                          the name                      the thread
    connect, the name is free     taken, with the port          –
    connect, the name is taken    –                             –
    confirmOpen                   –                             started
    disconnect                    –                             joined
    confirmClosed                 given back, with the port     –
    anything else                 –                             –

A connection comes to CONNECTING and to DISCONNECTING without a thread, and is
confirmed open or closed from there only.  So a thread is started where there is
none, and a port is given back when its thread has been joined.

`Tended c` is what this says of one controller, `Tends s s'` what a turn does to
it and to the names, and `Exclusive h` the invariant of a host: a name is taken
exactly if a controller holds the port, and no two hold the same.
-/
import GcodeSender.Proofs.Link.Holes
import GcodeSender.Proofs.Link.Service
import Mathlib.Logic.Function.Basic

namespace GcodeSender

open Scalar Gcode

variable {α : Type} [Scalar α]

namespace Link

/-! ## The life of a thread -/

/-- How far the thread of a port has come. -/
inductive ThreadLife where
  | none
  | created
  | running
  deriving DecidableEq, Repr

namespace ThreadLife

/-- What an event makes of a thread: it is created where there is none, then started, and joined
before the next. -/
def next : ThreadLife → ThreadEvent → Option ThreadLife
  | .none, .created => some .created
  | .created, .started => some .running
  | .running, .joined => some .none
  | _, _ => Option.none

/-- Where a row of events leads, if they come in the right order. -/
def after (events : List ThreadEvent) : Option ThreadLife := events.foldlM next .none

theorem after_append {events : List ThreadEvent} {life : ThreadLife} (h : after events = some life)
    (e : ThreadEvent) : after (events ++ [e]) = life.next e := by
  rw [after] at h
  simp [after, List.foldlM_append, h]

/-- A second thread is started only after the first has been joined. -/
theorem joined_between {before between rest : List ThreadEvent} {life : ThreadLife}
    (h : after (before ++ .started :: (between ++ .started :: rest)) = some life) :
    .joined ∈ between := by
  rw [after, List.foldlM_append] at h
  obtain ⟨first, -, h⟩ := Option.bind_eq_some_iff.1 h
  rw [List.foldlM_cons] at h
  obtain ⟨second, hsecond, h⟩ := Option.bind_eq_some_iff.1 h
  obtain rfl : second = .running := by
    cases first <;> cases hsecond
    rfl
  -- nothing but the end of a thread that runs can come next
  cases between with
  | nil => cases h
  | cons e others =>
    rw [List.cons_append, List.foldlM_cons] at h
    obtain ⟨third, hthird, -⟩ := Option.bind_eq_some_iff.1 h
    cases e with
    | joined => exact List.mem_cons_self
    | created | started => cases hthird

end ThreadLife

/-- Is a port being opened or given back? -/
def Status.isChanging : Status → Bool
  | .connecting | .disconnecting => true
  | _ => false

namespace Controller

omit [Scalar α] in
theorem threadEvents_note (c : Controller α) (e : ThreadEvent) :
    (c.note (.thread e)).threadEvents = c.threadEvents ++ [e] :=
  Journal.threadEvents_note_thread c.connection.journal e

variable {c c' : Controller α}

/-! ## A controller that is looked after -/

omit [Scalar α] in
/-- A thread serves a port, and there is none while the port is opened or given back; the threads
there were came one after another. -/
structure Tended (c : Controller α) : Prop where
  served : c.thread = true → c.port.isSome = true
  idle : c.status.isChanging = true → c.thread = false
  silent : c.tracker.machine.threads = []
  life : ThreadLife.after c.threadEvents = some (if c.thread then .running else .none)

namespace Tended

omit [Scalar α] in
theorem serves (h : c.Tended) (serves : Serves c c') : c'.Tended where
  served running := by
    rw [serves.port]
    exact h.served (serves.thread ▸ running)
  idle changing := by
    rw [serves.thread]
    rcases serves.status with same | failed
    · exact h.idle (same ▸ changing)
    · rw [failed] at changing
      cases changing
  silent := (serves.events h.silent).1
  life := by
    rw [(serves.events h.silent).2, serves.thread]
    exact h.life

omit [Scalar α] in
theorem setStatus (h : c.Tended) {status : Status}
    (idle : status.isChanging = true → c.thread = false) : (c.setStatus status).Tended where
  served := h.served
  idle changing := by
    rw [Controller.status_setStatus] at changing
    exact idle changing
  silent := h.silent
  life := by
    rw [threadEvents_setStatus]
    exact h.life

omit [Scalar α] in
/-- The connection has come to a state that is left as it is. -/
theorem settle (h : c.Tended) {status : Status} (settled : status.isChanging = false) :
    (c.setStatus status).Tended :=
  h.setStatus fun changing => absurd (settled.symm.trans changing) Bool.false_ne_true

omit [Scalar α] in
/-- The thread is joined when the status says that it is to end. -/
theorem joined (h : c.Tended) (status : Status) : (c.setStatus status).joinThread.Tended := by
  have life := h.life
  rw [joinThread]
  split
  next running =>
    replace running : c.thread = true := running
    rw [running, if_pos rfl] at life
    refine ⟨fun absent => absurd absent Bool.false_ne_true, fun _ => rfl, h.silent, ?_⟩
    have events : threadEvents
        ({ c.setStatus status with thread := false }.note (.thread .joined)) =
          c.threadEvents ++ [.joined] := by
      rw [threadEvents_note]
      exact congrArg (· ++ [.joined]) (c.threadEvents_setStatus status)
    rw [events, ThreadLife.after_append life]
    rfl
  next stopped => exact h.setStatus fun _ => Bool.eq_false_iff.2 stopped

omit [Scalar α] in
/-- A thread is started where there was none. -/
theorem started (h : c.Tended) (stopped : c.thread = false) (there : c.port.isSome = true)
    (connected : c.status = .connected) : c.startThread.Tended := by
  have life := h.life
  rw [startThread]
  split
  next =>
    rw [stopped, if_neg Bool.false_ne_true] at life
    refine ⟨fun _ => there, fun changing => ?_, h.silent, ?_⟩
    · replace changing : c.status.isChanging = true := changing
      rw [connected] at changing
      cases changing
    · have events : threadEvents
          (({ c with thread := true }.note (.thread .created)).note (.thread .started)) =
            c.threadEvents ++ [.created] ++ [.started] := by
        rw [threadEvents_note, threadEvents_note]
        rfl
      have created : ThreadLife.after (c.threadEvents ++ [.created]) = some .created :=
        ThreadLife.after_append life _
      rw [events, ThreadLife.after_append created]
      rfl
  next => exact h

end Tended

omit [Scalar α] in
theorem beginConversation_serves (c : Controller α) : Serves c c.beginConversation := by
  have cleared : Serves c (c.adopt c.tracker.clearLedger) := .adopt rfl
  rw [beginConversation, send_greeting]
  exact cleared.trans (.of_same rfl rfl rfl rfl rfl)

omit [Scalar α] in
/-- Where no thread serves it, a port is opened and given back. -/
theorem Tended.withPort (h : c.Tended) (stopped : c.thread = false) (port : Option Port) :
    Tended { c with port } := by
  refine ⟨fun running => ?_, h.idle, h.silent, h.life⟩
  cases stopped.symm.trans running

omit [Scalar α] in
theorem Tended.giveUp (h : c.Tended) : c.giveUp.Tended := by
  have announced : Serves c ((c.logText .warning
      (c.label ++ " connection state: " ++ c.status.name)).setDesired .notConnected) :=
    (Serves.logText c _ _).trans (setDesired_serves _ _)
  exact (h.serves announced).settle rfl

omit [Scalar α] in
/-- A port that is confirmed open gets its thread, if one is to serve it. -/
theorem Tended.confirmOpen (h : c.Tended) (connecting : c.status = .connecting) :
    c.confirmOpen.Tended := by
  have stopped : c.thread = false := h.idle (by rw [connecting]; rfl)
  simp only [Controller.confirmOpen]
  split
  next => exact h.serves (.setStatus_fail c)
  next port hport =>
    split
    next =>
      have begun : Serves c
          (c.beginConversation.logText .info ("Connected " ++ c.label ++ " " ++ c.portName)) :=
        (beginConversation_serves c).trans (.logText _ _ _)
      generalize c.beginConversation.logText .info
        ("Connected " ++ c.label ++ " " ++ c.portName) = c' at begun ⊢
      have connected : (c'.setStatus .connected).Tended := (h.serves begun).settle rfl
      have there : c'.port.isSome = true := by rw [begun.port, hport]; rfl
      have opened : Serves (c'.setStatus .connected)
          { c'.setStatus .connected with port := some port.discard } :=
        .of_same rfl there.symm rfl rfl rfl
      have running := (connected.serves opened).started (begun.thread.trans stopped) rfl
        (Controller.status_setStatus c' .connected)
      exact running.serves (setReady_serves _ true)
    next => exact h

omit [Scalar α] in
theorem confirmOpen_keeps (c : Controller α) :
    c.confirmOpen.portName = c.portName ∧ c.confirmOpen.port.isSome = c.port.isSome := by
  have begun := (beginConversation_serves c).portName
  simp only [Controller.confirmOpen]
  split
  next => exact ⟨rfl, rfl⟩
  next port hport =>
    split
    next =>
      rw [startThread, hport]
      split <;> exact ⟨begun, rfl⟩
    next => exact ⟨rfl, rfl⟩

omit [Scalar α] in
theorem joinThread_keeps (c : Controller α) :
    c.joinThread.portName = c.portName ∧ c.joinThread.port = c.port := by
  rw [joinThread]
  split <;> exact ⟨rfl, rfl⟩

omit [Scalar α] in
theorem disconnect_keeps (c : Controller α) :
    c.disconnect.portName = c.portName ∧ c.disconnect.port.isSome = c.port.isSome := by
  simp only [Controller.disconnect]
  split
  next => exact ⟨rfl, rfl⟩
  next =>
    split
    next => exact ⟨rfl, rfl⟩
    next port hport =>
      replace hport : c.port = some port := hport
      rw [hport]
      exact ⟨(joinThread_keeps _).1, rfl⟩

omit [Scalar α] in
/-- The thread is joined before the port is asked to close. -/
theorem Tended.disconnect (h : c.Tended) : c.disconnect.Tended := by
  have wanted := h.serves (setDesired_serves c .notConnected)
  simp only [Controller.disconnect]
  split
  next => exact wanted
  next =>
    have unready := wanted.serves (setReady_serves _ false)
    split
    next => exact unready.settle rfl
    next port hport =>
      have logged := unready.serves
        (.logText _ .info ("Disconnecting " ++ c.label ++ " " ++ c.portName))
      have ended := logged.joined .disconnecting
      refine ended.serves (.of_same rfl ?_ rfl rfl rfl)
      rw [(joinThread_keeps _).2]
      exact (congrArg Option.isSome hport).symm

end Controller

open Controller

/-! ## What a turn does to the names -/

namespace Station

omit [Scalar α] in
/-- All that a turn can do to the names that are taken, and to the port. -/
inductive Trades (s s' : Station α) : Prop
  | keeps : s'.ports.inUse = s.ports.inUse →
      s'.controller.port.isSome = s.controller.port.isSome → Trades s s'
  | takes : s.controller.portName ∉ s.ports.inUse →
      s'.ports.inUse = s.controller.portName :: s.ports.inUse →
      s'.controller.port.isSome = true → Trades s s'
  | gives : s.controller.port.isSome = true →
      s'.ports.inUse = s.ports.inUse.filter (· != s.controller.portName) →
      s'.controller.port.isSome = false → Trades s s'

omit [Scalar α] in
/-- The controller is configured as it was and looked after. -/
structure Tends (s s' : Station α) : Prop where
  portName : s'.controller.portName = s.controller.portName
  tended : s'.controller.Tended
  trades : Trades s s'

variable {s s' : Station α}

omit [Scalar α] in
/-- What serves a port trades no name. -/
theorem Tends.serves (h : Tends s s') {c : Controller α} (serves : Serves s'.controller c) :
    Tends s { s' with controller := c } where
  portName := serves.portName.trans h.portName
  tended := h.tended.serves serves
  trades := by
    cases h.trades with
    | keeps names port => exact .keeps names (serves.port.trans port)
    | takes free names port => exact .takes free names (serves.port.trans port)
    | gives held names port => exact .gives held names (serves.port.trans port)

omit [Scalar α] in
/-- The controller alone has changed, and its port is where it was. -/
theorem Tends.of_tended {c : Controller α} (portName : c.portName = s.controller.portName)
    (port : c.port.isSome = s.controller.port.isSome) (tended : c.Tended) :
    Tends s { s with controller := c } := ⟨portName, tended, .keeps rfl port⟩

omit [Scalar α] in
theorem Tends.of_serves (h : s.controller.Tended) {c : Controller α}
    (serves : Serves s.controller c) : Tends s { s with controller := c } :=
  .of_tended serves.portName serves.port (h.serves serves)

omit [Scalar α] in
/-- A port is opened under a name that is free, and so by a controller that has none open. -/
theorem connect_tends (h : s.controller.Tended)
    (owned : s.controller.port.isSome = true → s.controller.portName ∈ s.ports.inUse) :
    Tends s s.connect := by
  have refused : ∀ (level : Level) (message : String) {status : Status},
      status.isChanging = false →
      Tends s { s with controller := (s.controller.logText level message).setStatus status } := by
    intro level message status settled
    exact .of_tended rfl rfl ((h.serves (.logText s.controller level message)).settle settled)
  have stays : Tends s s := .of_tended rfl rfl h
  rw [connect]
  dsimp only
  split
  · exact stays
  · exact stays
  · exact stays
  · split
    next => exact refused _ _ rfl
    next free =>
      replace free : s.controller.portName ∉ s.ports.inUse := by simpa using free
      split
      next => exact refused _ _ rfl
      next =>
        -- a thread would serve a port, and the name would be taken
        have stopped : s.controller.thread = false := by
          refine Bool.eq_false_iff.2 fun running => ?_
          exact free (owned (h.served running))
        refine ⟨rfl, ?_, .takes free rfl rfl⟩
        exact (h.withPort stopped _).setStatus fun _ => stopped

omit [Scalar α] in
theorem confirmClosed_tends (h : s.controller.Tended)
    (disconnecting : s.controller.status = .disconnecting) : Tends s s.confirmClosed := by
  have stopped : s.controller.thread = false := h.idle (by rw [disconnecting]; rfl)
  rw [confirmClosed]
  dsimp only
  split
  next => exact .of_serves h (.setStatus_fail s.controller)
  next port hport =>
    split
    next => exact .of_tended rfl rfl h
    next =>
      have logged := h.serves (.logText s.controller .info "Serial disconnected.")
      refine ⟨rfl, ?_, .gives (by rw [hport]; rfl) rfl rfl⟩
      exact (logged.withPort stopped none).setStatus fun _ => stopped

omit [Scalar α] in
theorem disconnect_tends (h : s.controller.Tended) :
    Tends s (s.mapController (·.disconnect)) :=
  .of_tended (disconnect_keeps s.controller).1 (disconnect_keeps s.controller).2 h.disconnect

omit [Scalar α] in
/-- A step towards the status that is asked for. -/
theorem approach_tends (h : s.controller.Tended)
    (owned : s.controller.port.isSome = true → s.controller.portName ∈ s.ports.inUse) :
    Tends s s.approach := by
  rw [approach]
  split
  next => exact .of_tended rfl rfl h
  next =>
    split
    next connecting =>
      obtain ⟨portName, port⟩ := confirmOpen_keeps s.controller
      exact .of_tended portName port (h.confirmOpen connecting)
    next =>
      split
      next disconnecting => exact confirmClosed_tends h disconnecting
      next =>
        split
        next => exact .of_tended rfl rfl h.giveUp
        next =>
          split
          next => exact connect_tends h owned
          next => exact disconnect_tends h

/-- A step of the event loop. -/
theorem update_tends (h : s.controller.Tended)
    (owned : s.controller.port.isSome = true → s.controller.portName ∈ s.ports.inUse) (now : α) :
    Tends s (s.update now).state :=
  (approach_tends h owned).serves (played_serves now s.approach.controller)

end Station

/-! ## Turns -/

omit [Scalar α] in
/-- Does a turn come from outside the connection?  The connection itself assigns the status and
confirms its port. -/
def Turn.isOutward : Turn α → Bool
  | .confirmOpen | .confirmClosed | .setStatus _ | .host _ => false
  | _ => true

omit [Scalar α] in
/-- Does a turn move the connection from one status to the next? -/
def Turn.isMove : Turn α → Bool
  | .connect | .disconnect | .act (.call (.update _)) => true
  | _ => false

/-- What comes from outside and is no move serves the port, and changes the controller alone. -/
theorem Turn.serves_of_not_isMove (s : Station α) {turn : Turn α} (outward : turn.isOutward = true)
    (still : turn.isMove = false) :
    Serves s.controller (turn.apply s).controller ∧ (turn.apply s).ports = s.ports := by
  cases turn with
  | act action =>
    cases action with
    | call asked =>
      cases asked with
      | send command => exact ⟨send_serves command s.controller, rfl⟩
      | jog j => exact ⟨send_serves (jogCommand "G91" s.controller.jogFeed j) s.controller, rfl⟩
      | jogAbsolute j =>
        exact ⟨send_serves (jogCommand "G90" s.controller.jogFeed j) s.controller, rfl⟩
      | cancelJog => exact ⟨cancelJog_serves s.controller, rfl⟩
      | pass now => exact ⟨pass_serves now s.controller, rfl⟩
      | update now => cases still
    | writeImmediate now => exact ⟨writeImmediate_serves now s.controller, rfl⟩
    | writeStreaming now => exact ⟨writeStreaming_serves now s.controller, rfl⟩
    | arrive chunks => exact ⟨.of_same rfl Option.isSome_map rfl rfl rfl, rfl⟩
    | accept piece => exact ⟨accept_serves piece s.controller, rfl⟩
    | failRead fault => exact ⟨.of_same rfl Option.isSome_map rfl rfl rfl, rfl⟩
  | setDesired status => exact ⟨setDesired_serves s.controller status, rfl⟩
  | setSimulates enabled => exact ⟨setSimulates_serves enabled s.controller, rfl⟩
  | setJogFeed feed => exact ⟨.of_same rfl rfl rfl rfl rfl, rfl⟩
  | port isOpen closes writeFault => exact ⟨.of_same rfl Option.isSome_map rfl rfl rfl, rfl⟩
  | connect | disconnect => cases still
  | confirmOpen | confirmClosed | setStatus _ | host _ => cases outward

omit [Scalar α] in
/-- The moves that come from outside. -/
theorem Turn.eq_of_isMove {turn : Turn α} (move : turn.isMove = true) :
    turn = .connect ∨ turn = .disconnect ∨ ∃ now, turn = .act (.call (.update now)) := by
  cases turn with
  | connect => exact .inl rfl
  | disconnect => exact .inr (.inl rfl)
  | act action =>
    cases action with
    | call asked =>
      cases asked with
      | update now => exact .inr (.inr ⟨now, rfl⟩)
      | _ => cases move
    | _ => cases move
  | _ => cases move

/-- Whatever comes from outside, the controller is looked after. -/
theorem Turn.tends {s : Station α} (h : s.controller.Tended)
    (owned : s.controller.port.isSome = true → s.controller.portName ∈ s.ports.inUse)
    {turn : Turn α} (outward : turn.isOutward = true) : s.Tends (turn.apply s) := by
  cases move : turn.isMove with
  | false =>
    obtain ⟨serves, ports⟩ := turn.serves_of_not_isMove s outward move
    exact ⟨serves.portName, h.serves serves, .keeps (by rw [ports]) serves.port⟩
  | true =>
    obtain rfl | rfl | ⟨now, rfl⟩ := Turn.eq_of_isMove move
    · exact Station.connect_tends h owned
    · exact Station.disconnect_tends h
    · exact Station.update_tends h owned now

/-! ## A host -/

/-- How a controller is configured. -/
structure Placement where
  label : String
  simulate : Bool := false
  portName : String
  baud : String := "115200"
  /-- Is a thread to serve the port? -/
  threaded : Bool := true
  deriving DecidableEq, Repr

/-- A controller that has been configured, and to which nothing has happened. -/
def Placement.controller (p : Placement) : Controller α :=
  { Controller.fresh p.label p.simulate with
    portName := p.portName
    baud := p.baud
    threaded := p.threaded }

theorem Placement.tended (p : Placement) : (p.controller : Controller α).Tended where
  served := nofun
  idle _ := rfl
  silent := rfl
  life := rfl

/-- The ports of a host, and the controllers that share them. -/
structure Host (ι α : Type) where
  ports : Ports := {}
  controllers : ι → Controller α

namespace Host

variable {ι : Type} [DecidableEq ι]

omit [DecidableEq ι] in
/-- Controllers that have been configured, and ports of which none is in use. -/
def start (placements : ι → Placement) : Host ι α where
  controllers i := (placements i).controller

/-- What can happen on a host. -/
inductive Event (ι α : Type) where
  | turn (i : ι) (turn : { turn : Turn α // turn.isOutward = true })
  /-- Opening a port begins to fail, or no longer does; or a port begins to be slow to open. -/
  | opening (fault : Option String) (opens : Bool)

omit [Scalar α] [DecidableEq ι] in
/-- A controller as it sees its surroundings. -/
def station (h : Host ι α) (i : ι) : Station α := ⟨h.ports, h.controllers i⟩

omit [Scalar α] in
/-- A controller has had its turn. -/
def put (h : Host ι α) (i : ι) (s : Station α) : Host ι α where
  ports := s.ports
  controllers := Function.update h.controllers i s.controller

/-- What an event comes to. -/
def step (h : Host ι α) : Event ι α → Host ι α
  | .turn i turn => h.put i (turn.val.apply (h.station i))
  | .opening openFault opens => { h with ports := { h.ports with openFault, opens } }

/-- Events one after another. -/
def run (h : Host ι α) (events : List (Event ι α)) : Host ι α := events.foldl step h

omit [Scalar α] [DecidableEq ι] in
/-- A controller is configured with a port and has it. -/
def Holds (h : Host ι α) (name : String) (i : ι) : Prop :=
  (h.controllers i).portName = name ∧ (h.controllers i).port.isSome = true

omit [Scalar α] [DecidableEq ι] in
/-- Each controller is looked after and configured as it was; a name is taken exactly if a
controller holds the port, and no two hold the same. -/
structure Exclusive (names : ι → String) (h : Host ι α) : Prop where
  named : ∀ i, (h.controllers i).portName = names i
  tended : ∀ i, (h.controllers i).Tended
  taken : ∀ name, name ∈ h.ports.inUse ↔ ∃ i, h.Holds name i
  single : ∀ name i j, h.Holds name i → h.Holds name j → i = j

variable {names : ι → String} {h : Host ι α} {i : ι} {s : Station α}

omit [Scalar α] in
/-- A turn of one controller keeps the ports exclusive. -/
theorem Exclusive.put (exclusive : h.Exclusive names) (tends : (h.station i).Tends s) :
    (h.put i s).Exclusive names := by
  have other : ∀ name j, j ≠ i → ((h.put i s).Holds name j ↔ h.Holds name j) := by
    intro name j apart
    simp [Holds, Host.put, Function.update_of_ne apart]
  have same : s.controller.portName = (h.controllers i).portName := tends.portName
  have mine : ∀ name, (h.put i s).Holds name i ↔
      (h.controllers i).portName = name ∧ s.controller.port.isSome = true := by
    intro name
    simp [Holds, Host.put, same]
  have each : ∀ j, ((h.put i s).controllers j).portName = names j ∧
      ((h.put i s).controllers j).Tended := by
    intro j
    by_cases here : j = i
    · subst here
      simpa [Host.put, same] using ⟨exclusive.named j, tends.tended⟩
    · simpa [Host.put, Function.update_of_ne here] using ⟨exclusive.named j, exclusive.tended j⟩
  have named := fun j => (each j).1
  have tended := fun j => (each j).2
  cases tends.trades with
  | keeps names port =>
    have same : ∀ name j, (h.put i s).Holds name j ↔ h.Holds name j := by
      intro name j
      by_cases here : j = i
      · subst here
        rw [mine, port]
        rfl
      · exact other name j here
    refine ⟨named, tended, fun name => ?_, fun name j k => ?_⟩
    · show name ∈ s.ports.inUse ↔ _
      rw [names]
      simp only [same]
      exact exclusive.taken name
    · simp only [same]
      exact exclusive.single name j k
  | takes free names port =>
    replace free : (h.controllers i).portName ∉ h.ports.inUse := free
    have grown : ∀ name j, (h.put i s).Holds name j ↔
        h.Holds name j ∨ ((h.controllers i).portName = name ∧ j = i) := by
      intro name j
      by_cases here : j = i
      · subst here
        rw [mine]
        constructor
        · rintro ⟨rfl, -⟩
          exact .inr ⟨rfl, rfl⟩
        · rintro (⟨rfl, -⟩ | ⟨rfl, -⟩) <;> exact ⟨rfl, port⟩
      · rw [other name j here]
        simp [here]
    refine ⟨named, tended, fun name => ?_, fun name j k => ?_⟩
    · show name ∈ s.ports.inUse ↔ _
      rw [names, List.mem_cons]
      simp only [grown]
      constructor
      · rintro (rfl | old)
        · exact ⟨i, .inr ⟨rfl, rfl⟩⟩
        · obtain ⟨j, holds⟩ := (exclusive.taken name).1 old
          exact ⟨j, .inl holds⟩
      · rintro ⟨j, holds | ⟨rfl, -⟩⟩
        · exact .inr ((exclusive.taken name).2 ⟨j, holds⟩)
        · exact .inl rfl
    · simp only [grown]
      rintro (first | ⟨rfl, rfl⟩) (second | ⟨new, rfl⟩)
      · exact exclusive.single name j k first second
      · exact absurd ((exclusive.taken _).2 ⟨j, new ▸ first⟩) free
      · exact absurd ((exclusive.taken _).2 ⟨k, second⟩) free
      · rfl
  | gives held names port =>
    have own : h.Holds (h.controllers i).portName i := ⟨rfl, held⟩
    have left : ∀ name j, (h.put i s).Holds name j ↔ h.Holds name j ∧ j ≠ i := by
      intro name j
      by_cases here : j = i
      · subst here
        rw [mine, port]
        simp
      · rw [other name j here]
        simp [here]
    refine ⟨named, tended, fun name => ?_, fun name j k => ?_⟩
    · show name ∈ s.ports.inUse ↔ _
      rw [names, List.mem_filter, bne_iff_ne]
      simp only [left]
      constructor
      · rintro ⟨old, apart⟩
        obtain ⟨j, holds⟩ := (exclusive.taken name).1 old
        refine ⟨j, holds, ?_⟩
        rintro rfl
        exact apart holds.1.symm
      · rintro ⟨j, holds, apart⟩
        refine ⟨(exclusive.taken name).2 ⟨j, holds⟩, ?_⟩
        rintro rfl
        exact apart (exclusive.single _ j i holds own)
    · simp only [left]
      rintro ⟨first, -⟩ ⟨second, -⟩
      exact exclusive.single name j k first second

/-- Whatever happens, the ports stay exclusive. -/
theorem Exclusive.step (exclusive : h.Exclusive names) (event : Event ι α) :
    (h.step event).Exclusive names := by
  cases event with
  | turn i turn =>
    have owned : (h.station i).controller.port.isSome = true →
        (h.station i).controller.portName ∈ (h.station i).ports.inUse := by
      intro held
      exact (exclusive.taken _).2 ⟨i, rfl, held⟩
    exact exclusive.put (turn.val.tends (exclusive.tended i) owned turn.property)
  | opening fault opens =>
    exact ⟨exclusive.named, exclusive.tended, exclusive.taken, exclusive.single⟩

theorem Exclusive.run (exclusive : h.Exclusive names) (events : List (Event ι α)) :
    (h.run events).Exclusive names := by
  induction events generalizing h with
  | nil => exact exclusive
  | cons event rest ih => exact ih (exclusive.step event)

omit [DecidableEq ι] in
theorem exclusive_start (placements : ι → Placement) :
    (start placements : Host ι α).Exclusive fun i => (placements i).portName where
  named _ := rfl
  tended i := (placements i).tended
  taken name := by simp [start, Holds, Placement.controller, Controller.fresh]
  single name i j held := by simp [start, Holds, Placement.controller, Controller.fresh] at held

end Host

end Link

end GcodeSender
