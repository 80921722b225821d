/-
# `GcodeSender.Proofs.Link.Disconnection` — a connection that is not wanted comes down

A connection that is to be given up goes down by steps of the event loop.  How
many it takes from a status is `Status.toGo`:

    status                             next                     to go
    NOT_CONNECTED                      –                        0
    DISCONNECTING, the port closed     NOT_CONNECTED            1
    UNKNOWN, CONNECTED, CLEANUP        DISCONNECTING, or
                                       NOT_CONNECTED            2
    CONNECTING, the port open          CONNECTED                3
    FAIL, MISSING_RESOURCE, BLOCKED    CLEANUP                  3

Each step takes one off (`Leaving.approach`), so three bring every connection
down that is not `Stranded`: CONNECTING waits for the port to be open, also where
nobody wants the connection any more, and with a port that stays closed it waits
for ever.

    Fitting c     a port is there where the status speaks of one, none when it is down
    Closes c      told to close, the port closes; told before, it is closed
    Leaving c     not wanted, not stranded, fitting, with a port that closes
    Down c        no port is held and no thread serves one

What a step does to the names of the ports is `Ownership`'s.
-/
import GcodeSender.Proofs.Link.Ownership

namespace GcodeSender

open Scalar Gcode

variable {α : Type} [Scalar α]

namespace Link

namespace Status

/-- How many steps of the event loop a connection that is not wanted takes to come down. -/
def toGo : Status → Nat
  | .notConnected => 0
  | .disconnecting => 1
  | .unknown | .connected | .cleanup => 2
  | .connecting | .missingResource | .fail | .blocked => 3

theorem toGo_le (s : Status) : s.toGo ≤ 3 := by cases s <;> decide

theorem eq_notConnected_of_toGo {s : Status} (h : s.toGo = 0) : s = .notConnected := by
  cases s with
  | notConnected => rfl
  | _ => cases h

/-- Does a status speak of a port that is there? -/
def hasPort : Status → Bool
  | .connecting | .connected | .disconnecting => true
  | _ => false

end Status

namespace Controller

variable {c c' : Controller α}

/-! ## What the status says of the port -/

omit [Scalar α] in
/-- A port is there where the status speaks of one, and none where the connection is down. -/
structure Fitting (c : Controller α) : Prop where
  there : c.status.hasPort = true → c.port.isSome = true
  down : c.status = .notConnected → c.port.isSome = false

omit [Scalar α] in
/-- The connection has come to a state that speaks of no port, and is not down. -/
theorem Fitting.of_neither (bare : c.status.hasPort = false) (up : c.status ≠ .notConnected) :
    c.Fitting where
  there speaks := absurd (bare.symm.trans speaks) Bool.false_ne_true
  down is := absurd is up

omit [Scalar α] in
theorem Fitting.serves (h : c.Fitting) (serves : Serves c c') : c'.Fitting := by
  rcases serves.status with same | failed
  · constructor <;> intro status <;> rw [serves.port] <;> rw [same] at status
    · exact h.there status
    · exact h.down status
  · exact .of_neither (by rw [failed]; rfl) (by rw [failed]; nofun)

omit [Scalar α] in
/-- A port is confirmed open where there is one. -/
theorem confirmOpen_fitting (h : c.Fitting) (connecting : c.status = .connecting) :
    c.confirmOpen.Fitting := by
  have there : c.port.isSome = true := h.there (by rw [connecting]; rfl)
  obtain ⟨port, hport⟩ := Option.isSome_iff_exists.1 there
  have kept : c.confirmOpen.port.isSome = true := by rw [(confirmOpen_keeps c).2, there]
  refine ⟨fun _ => kept, fun down => ?_⟩
  rw [confirmOpen, hport] at down
  dsimp only at down
  split at down
  · rw [startThread] at down
    split at down <;> cases down
  · cases connecting.symm.trans down

omit [Scalar α] in
theorem disconnect_fitting (h : c.Fitting) : c.disconnect.Fitting := by
  simp only [disconnect]
  split
  next => exact h.serves (setDesired_serves c _)
  next =>
    split
    next absent =>
      refine ⟨fun speaks => ?_, fun _ => congrArg Option.isSome absent⟩
      rw [status_setStatus] at speaks
      cases speaks
    next =>
      rw [joinThread]
      split <;> exact ⟨fun _ => rfl, fun down => (by cases down)⟩

end Controller

open Controller

namespace Station

variable {s : Station α}

omit [Scalar α] in
theorem connect_fitting (h : s.controller.Fitting) : s.connect.controller.Fitting := by
  rw [connect]
  dsimp only
  split
  · exact h
  · exact h
  · exact h
  · split
    next => exact .of_neither rfl fun down => (by cases down)
    next =>
      split
      next => exact .of_neither rfl fun down => (by cases down)
      next => exact ⟨fun _ => rfl, fun down => (by cases down)⟩

omit [Scalar α] in
theorem confirmClosed_fitting (h : s.controller.Fitting) : s.confirmClosed.controller.Fitting := by
  rw [confirmClosed]
  dsimp only
  split
  next => exact h.serves (.setStatus_fail s.controller)
  next =>
    split
    next => exact h
    next => exact ⟨fun speaks => (by cases speaks), fun _ => rfl⟩

omit [Scalar α] in
theorem approach_fitting (h : s.controller.Fitting) : s.approach.controller.Fitting := by
  rw [approach]
  split
  next => exact h
  next =>
    split
    next connecting => exact confirmOpen_fitting h connecting
    next =>
      split
      next => exact confirmClosed_fitting h
      next =>
        split
        next => exact .of_neither rfl fun down => (by cases down)
        next =>
          split
          next => exact connect_fitting h
          next => exact disconnect_fitting h

end Station

/-- Whatever comes from outside, the port is as the status says. -/
theorem Turn.fitting {s : Station α} (h : s.controller.Fitting) {turn : Turn α}
    (outward : turn.isOutward = true) : (turn.apply s).controller.Fitting := by
  cases move : turn.isMove with
  | false => exact h.serves (turn.serves_of_not_isMove s outward move).1
  | true =>
    obtain rfl | rfl | ⟨now, rfl⟩ := Turn.eq_of_isMove move
    · exact Station.connect_fitting h
    · exact disconnect_fitting h
    · exact (Station.approach_fitting h).serves (played_serves now s.approach.controller)

/-! ## The way down -/

namespace Controller

variable {c c' : Controller α}

omit [Scalar α] in
/-- Told to close, the port closes; and where it has been told, it is closed. -/
def Closes (c : Controller α) : Prop :=
  ∀ port, c.port = some port →
    port.closes = true ∧ (c.status = .disconnecting → port.isOpen = false)

omit [Scalar α] in
/-- The connection waits for a port to be open, and the port is closed. -/
def Stranded (c : Controller α) : Prop :=
  c.status = .connecting ∧ ∃ port, c.port = some port ∧ port.isOpen = false

omit [Scalar α] in
/-- The connection is not wanted, and nothing keeps it from coming down. -/
structure Leaving (c : Controller α) : Prop where
  unwanted : c.desired = .notConnected
  fitting : c.Fitting
  closes : c.Closes
  free : ¬ c.Stranded

omit [Scalar α] in
/-- Nothing is held: no port, and no thread that serves one. -/
structure Down (c : Controller α) : Prop where
  status : c.status = .notConnected
  port : c.port = none
  thread : c.thread = false

omit [Scalar α] in
/-- A port that is open is confirmed open, and what came in before is thrown away. -/
theorem confirmOpen_of_open {port : Port} (there : c.port = some port)
    (isOpen : port.isOpen = true) :
    c.confirmOpen.status = .connected ∧ c.confirmOpen.desired = c.desired ∧
      c.confirmOpen.port = some port.discard := by
  have begun : c.beginConversation.desired = c.desired := by
    rw [beginConversation, send_greeting]
    rfl
  have desired (message : String) :
      ((c.beginConversation.logText .info message).setStatus .connected).desired = c.desired :=
    (desired_setStatus _ _).trans begun
  rw [confirmOpen, there]
  dsimp only
  rw [if_pos isOpen, startThread]
  split <;> exact ⟨rfl, desired _, rfl⟩

omit [Scalar α] in
/-- Where there is no port, disconnecting is over at once; else the port is told to close. -/
theorem disconnect_of_up (up : c.status ≠ .disconnecting ∧ c.status ≠ .notConnected) :
    c.disconnect.desired = .notConnected ∧
      (c.disconnect.status = .notConnected ∧ c.disconnect.port = none ∨
        c.disconnect.status = .disconnecting ∧ c.disconnect.port = c.port.map (·.close)) := by
  have moves : ¬ ((c.setDesired .notConnected).status = .disconnecting ∨
      (c.setDesired .notConnected).status = .notConnected) := not_or.2 up
  simp only [disconnect, Bool.or_eq_true, decide_eq_true_eq, if_neg moves]
  split
  next absent => exact ⟨desired_setStatus _ _, .inl ⟨status_setStatus _ _, absent⟩⟩
  next port there =>
    replace there : c.port = some port := there
    rw [joinThread, there]
    split <;> exact ⟨desired_setStatus _ _, .inr ⟨rfl, rfl⟩⟩

omit [Scalar α] in
theorem Leaving.of_same (h : c.Leaving) (status : c'.status = c.status)
    (desired : c'.desired = c.desired) (port : c'.port = c.port) : c'.Leaving where
  unwanted := desired.trans h.unwanted
  fitting := by
    constructor <;> rw [status, port]
    · exact h.fitting.there
    · exact h.fitting.down
  closes := by
    rw [Closes, status, port]
    exact h.closes
  free := by
    rw [Stranded, status, port]
    exact h.free

omit [Scalar α] in
theorem Leaving.of_absent (unwanted : c.desired = .notConnected) (fitting : c.Fitting)
    (absent : c.port = none) : c.Leaving where
  unwanted := unwanted
  fitting := fitting
  closes := by simp [Closes, absent]
  free := by simp [Stranded, absent]

omit [Scalar α] in
theorem Leaving.of_there {port : Port} (unwanted : c.desired = .notConnected) (fitting : c.Fitting)
    (there : c.port = some port) (closes : port.closes = true)
    (asked : c.status = .disconnecting → port.isOpen = false) (waits : c.status ≠ .connecting) :
    c.Leaving where
  unwanted := unwanted
  fitting := fitting
  closes other same := by
    obtain rfl : port = other := Option.some.inj (there.symm.trans same)
    exact ⟨closes, asked⟩
  free stranded := waits stranded.1

omit [Scalar α] in
theorem Leaving.disconnect (h : c.Leaving)
    (up : c.status ≠ .disconnecting ∧ c.status ≠ .notConnected) :
    c.disconnect.Leaving ∧ c.disconnect.status.toGo ≤ 1 := by
  have fitting := disconnect_fitting h.fitting
  obtain ⟨unwanted, ⟨status, absent⟩ | ⟨status, told⟩⟩ := disconnect_of_up up
  · exact ⟨.of_absent unwanted fitting absent, by rw [status]; decide⟩
  · refine ⟨?_, by rw [status]; decide⟩
    cases there : c.port with
    | none =>
      rw [there] at told
      exact .of_absent unwanted fitting told
    | some port =>
      have closes : port.closes = true := (h.closes port there).1
      rw [there] at told
      refine .of_there unwanted fitting told ?_ (fun _ => ?_) (by rw [status]; nofun)
      · simp [Port.close, closes]
      · simp [Port.close, closes]

end Controller

namespace Station

variable {s : Station α}

omit [Scalar α] in
/-- What a step does to a connection that is not wanted. -/
theorem approach_of_unwanted (unwanted : s.controller.desired = .notConnected) :
    s.approach =
      match s.controller.status with
      | .notConnected => s
      | .connecting => s.mapController (·.confirmOpen)
      | .disconnecting => s.confirmClosed
      | .fail | .missingResource | .blocked => s.mapController (·.giveUp)
      | .unknown | .connected | .cleanup => s.mapController (·.disconnect) := by
  simp only [approach, unwanted]
  cases s.controller.status <;> rfl

omit [Scalar α] in
/-- A connection that was being opened is confirmed open before it is closed. -/
theorem approach_of_connecting (h : s.controller.Leaving)
    (connecting : s.controller.status = .connecting) :
    s.approach.controller.Leaving ∧ s.approach.controller.status = .connected := by
  have step := approach_of_unwanted h.unwanted
  rw [connecting] at step
  obtain ⟨port, there⟩ := Option.isSome_iff_exists.1 (h.fitting.there (by rw [connecting]; rfl))
  have isOpen : port.isOpen = true := by
    by_contra closed
    exact h.free ⟨connecting, port, there, Bool.eq_false_iff.2 closed⟩
  obtain ⟨connected, desired, kept⟩ := confirmOpen_of_open there isOpen
  rw [step]
  refine ⟨.of_there (desired.trans h.unwanted) (confirmOpen_fitting h.fitting connecting) kept
    (h.closes port there).1 (fun asked => ?_) (fun waits => ?_), connected⟩
  · cases connected.symm.trans asked
  · cases connected.symm.trans waits

omit [Scalar α] in
/-- A port that was told to close is given back. -/
theorem approach_of_disconnecting (h : s.controller.Leaving)
    (disconnecting : s.controller.status = .disconnecting) :
    s.approach.controller.Leaving ∧ s.approach.controller.status = .notConnected := by
  have step := approach_of_unwanted h.unwanted
  rw [disconnecting] at step
  obtain ⟨port, there⟩ := Option.isSome_iff_exists.1 (h.fitting.there (by rw [disconnecting]; rfl))
  have closed : port.isOpen = false := (h.closes port there).2 disconnecting
  have fitting := confirmClosed_fitting h.fitting
  rw [step]
  rw [confirmClosed, there] at fitting ⊢
  dsimp only at fitting ⊢
  rw [if_neg (Bool.eq_false_iff.1 closed)] at fitting ⊢
  exact ⟨.of_absent ((desired_setStatus _ _).trans h.unwanted) fitting rfl, rfl⟩

omit [Scalar α] in
/-- A connection that has failed is to be cleaned up. -/
theorem approach_of_failed (h : s.controller.Leaving)
    (failed : s.controller.status.isFailed = true) :
    s.approach.controller.Leaving ∧ s.approach.controller.status = .cleanup := by
  have step : s.approach = s.mapController (·.giveUp) := by
    rw [approach_of_unwanted h.unwanted]
    revert failed
    cases s.controller.status <;> simp [Status.isFailed]
  have unwanted : s.controller.giveUp.desired = .notConnected := desired_setStatus _ _
  have fitting : s.controller.giveUp.Fitting := .of_neither rfl nofun
  rw [step]
  refine ⟨?_, rfl⟩
  cases there : s.controller.port with
  | none => exact .of_absent unwanted fitting there
  | some port => exact .of_there unwanted fitting there (h.closes port there).1 nofun nofun

omit [Scalar α] in
/-- From anywhere else the port is told to close, or there is none. -/
theorem approach_of_settled (h : s.controller.Leaving)
    (settled : s.controller.status.toGo = 2) :
    s.approach.controller.Leaving ∧ s.approach.controller.status.toGo ≤ 1 := by
  have step : s.approach = s.mapController (·.disconnect) := by
    rw [approach_of_unwanted h.unwanted]
    revert settled
    cases s.controller.status <;> simp [Status.toGo]
  have up : s.controller.status ≠ .disconnecting ∧ s.controller.status ≠ .notConnected := by
    constructor <;> intro status <;> rw [status] at settled <;> cases settled
  rw [step]
  exact h.disconnect up

omit [Scalar α] in
/-- A step takes one off the way that is left. -/
theorem approach_leaving (h : s.controller.Leaving) :
    s.approach.controller.Leaving ∧
      s.approach.controller.status.toGo ≤ s.controller.status.toGo - 1 := by
  cases status : s.controller.status with
  | notConnected =>
    have stays := approach_of_unwanted h.unwanted
    rw [status] at stays
    rw [stays, status]
    exact ⟨h, Nat.le_refl _⟩
  | connecting =>
    obtain ⟨leaving, connected⟩ := approach_of_connecting h status
    exact ⟨leaving, by rw [connected]; decide⟩
  | disconnecting =>
    obtain ⟨leaving, down⟩ := approach_of_disconnecting h status
    exact ⟨leaving, by rw [down]; decide⟩
  | fail | missingResource | blocked =>
    obtain ⟨leaving, cleanup⟩ := approach_of_failed h (by rw [status]; rfl)
    exact ⟨leaving, by rw [cleanup]; decide⟩
  | unknown | connected | cleanup => exact approach_of_settled h (by rw [status]; rfl)

/-- What a step hands to the tracker is no matter of the connection. -/
theorem update_connection (s : Station α) (now : α) :
    (s.update now).state.controller.status = s.approach.controller.status ∧
      (s.update now).state.controller.desired = s.approach.controller.desired ∧
      (s.update now).state.controller.port = s.approach.controller.port := ⟨rfl, rfl, rfl⟩

theorem update_leaving (h : s.controller.Leaving) (now : α) :
    (s.update now).state.controller.Leaving ∧
      (s.update now).state.controller.status.toGo ≤ s.controller.status.toGo - 1 := by
  obtain ⟨leaving, toGo⟩ := approach_leaving h
  obtain ⟨status, desired, port⟩ := update_connection s now
  exact ⟨leaving.of_same status desired port, by rwa [status]⟩

/-- A connection that waits for a port that stays closed goes on waiting. -/
theorem update_stranded (h : s.controller.Stranded)
    (unwanted : s.controller.desired = .notConnected) (now : α) :
    (s.update now).state.controller.Stranded ∧
      (s.update now).state.controller.desired = .notConnected := by
  obtain ⟨connecting, port, there, closed⟩ := h
  have waits : s.controller.confirmOpen = s.controller := by
    rw [confirmOpen, there]
    exact if_neg (Bool.eq_false_iff.1 closed)
  have stays : s.approach = s := by
    rw [approach_of_unwanted unwanted, connecting]
    show { s with controller := s.controller.confirmOpen } = s
    rw [waits]
  obtain ⟨status, desired, kept⟩ := update_connection s now
  rw [stays] at status desired kept
  exact ⟨⟨status.trans connecting, port, kept.trans there, closed⟩, desired.trans unwanted⟩

end Station

/-! ## On a host -/

theorem Placement.fitting (p : Placement) : (p.controller : Controller α).Fitting where
  there speaks := by cases speaks
  down _ := rfl

namespace Host

variable {ι : Type} [DecidableEq ι]

/-- A step of the event loop for one controller. -/
def asking (i : ι) (now : α) : Event ι α := .turn i ⟨.act (.call (.update now)), rfl⟩

/-- Steps of the event loop for one controller, and nothing else. -/
def updates (i : ι) (clocks : List α) : List (Event ι α) := clocks.map (asking i)

variable {h : Host ι α} {i : ι}

theorem fitting_step (fitting : ∀ i, (h.controllers i).Fitting) (event : Event ι α) (i : ι) :
    ((h.step event).controllers i).Fitting := by
  cases event with
  | opening fault opens => exact fitting i
  | turn j turn =>
    by_cases here : i = j
    · subst here
      have mine : (h.step (.turn i turn)).controllers i = (turn.val.apply (h.station i)).controller :=
        Function.update_self ..
      rw [mine]
      exact turn.val.fitting (fitting i) turn.property
    · have other : (h.step (.turn j turn)).controllers i = h.controllers i :=
        Function.update_of_ne here ..
      rw [other]
      exact fitting i

theorem fitting_run (fitting : ∀ i, (h.controllers i).Fitting) (events : List (Event ι α)) :
    ∀ i, ((h.run events).controllers i).Fitting := by
  induction events generalizing h with
  | nil => exact fitting
  | cons event rest ih => exact ih (fitting_step fitting event)

theorem station_asking (now : α) :
    (h.step (asking i now)).station i = ((h.station i).update now).state := by
  rw [station, show (h.step (asking i now)).controllers i = _ from Function.update_self ..]
  rfl

/-- A connection on its way down is down when its steps have been made. -/
theorem leaving_updates (leaving : (h.controllers i).Leaving) (clocks : List α) :
    ((h.run (updates i clocks)).controllers i).Leaving ∧
      ((h.run (updates i clocks)).controllers i).status.toGo ≤
        (h.controllers i).status.toGo - clocks.length := by
  induction clocks generalizing h with
  | nil => exact ⟨leaving, Nat.le_refl _⟩
  | cons now rest ih =>
    obtain ⟨kept, toGo⟩ := Station.update_leaving (s := h.station i) leaving now
    rw [← station_asking] at kept toGo
    obtain ⟨still, left⟩ := ih (h := h.step (asking i now)) kept
    have first : ((h.step (asking i now)).controllers i).status.toGo ≤
        (h.controllers i).status.toGo - 1 := toGo
    refine ⟨still, Nat.le_trans left ?_⟩
    rw [List.length_cons]
    omega

theorem stranded_updates (stranded : (h.controllers i).Stranded)
    (unwanted : (h.controllers i).desired = .notConnected) (clocks : List α) :
    ((h.run (updates i clocks)).controllers i).Stranded := by
  induction clocks generalizing h with
  | nil => exact stranded
  | cons now rest ih =>
    obtain ⟨kept, desired⟩ := Station.update_stranded (s := h.station i) stranded unwanted now
    rw [← station_asking] at kept desired
    exact ih (h := h.step (asking i now)) kept desired

end Host

end Link

end GcodeSender
