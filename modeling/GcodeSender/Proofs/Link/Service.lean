/-
# `GcodeSender.Proofs.Link.Service` — what serving a port leaves alone

Opening and closing a port, and starting and joining the thread that serves it,
are steps of the connection.  Everything else that is done with a controller —
sending, reading, writing, handing over what came in, simulating — happens
between them.

    Serves c c'    the name, the port and the thread are as they were; the status
                   too, or the port has failed; nothing was noted of a thread

It holds whatever the port is like: where nothing can be read or written, the
status becomes FAIL and no more.  The relation composes; `accept_serves`,
`readAll_serves`, `writeImmediate_serves`, `writeStreaming_serves` and
`pass_serves` follow the exchange, `played_serves` the event loop.
-/
import GcodeSender.Proofs.Link.Deeds
import GcodeSender.Proofs.Tracker.Threads

namespace GcodeSender

open Scalar Gcode

variable {α : Type} [Scalar α]

namespace Link

namespace Controller

omit [Scalar α] in
/-- What happened to the threads that served the port. -/
def threadEvents (c : Controller α) : List ThreadEvent := c.connection.journal.threadEvents

omit [Scalar α] in
/-- The port is neither opened nor given back, and its thread neither started nor joined. -/
structure Serves (c c' : Controller α) : Prop where
  portName : c'.portName = c.portName
  port : c'.port.isSome = c.port.isSome
  thread : c'.thread = c.thread
  status : c'.status = c.status ∨ c'.status = .fail
  events : c.tracker.machine.threads = [] →
    c'.tracker.machine.threads = [] ∧ c'.threadEvents = c.threadEvents

/-! ## Thread events of a connection -/

omit [Scalar α] in
@[simp] theorem threadEvents_logText (c : Controller α) (level : Level) (s : String) :
    (c.logText level s).threadEvents = c.threadEvents :=
  Journal.threadEvents_note_log c.connection.journal _

omit [Scalar α] in
@[simp] theorem threadEvents_setStatus (c : Controller α) (status : Status) :
    (c.setStatus status).threadEvents = c.threadEvents := by
  simp only [threadEvents, setStatus, mapConnection, Connection.setStatus, Connection.announce,
    Connection.note, Journal.threadEvents_note_update]
  split
  · rfl
  · exact c.threadEvents_logText _ _

omit [Scalar α] in
@[simp] theorem threadEvents_setDesired (c : Controller α) (status : Status) :
    (c.setDesired status).threadEvents = c.threadEvents :=
  Journal.threadEvents_note_update c.connection.journal _

omit [Scalar α] in
@[simp] theorem threadEvents_setReady (c : Controller α) (ready : Bool) :
    (c.setReady ready).threadEvents = c.threadEvents := rfl

/-! ## The relation -/

variable {c c' c'' : Controller α}

namespace Serves

omit [Scalar α] in
theorem refl (c : Controller α) : Serves c c :=
  ⟨rfl, rfl, rfl, .inl rfl, fun silent => ⟨silent, rfl⟩⟩

omit [Scalar α] in
theorem trans (h : Serves c c') (h' : Serves c' c'') : Serves c c'' where
  portName := h'.portName.trans h.portName
  port := h'.port.trans h.port
  thread := h'.thread.trans h.thread
  status := by
    rcases h'.status with same | failed
    · rw [same]
      exact h.status
    · exact .inr failed
  events silent := by
    obtain ⟨silent', same⟩ := h.events silent
    obtain ⟨silent'', same'⟩ := h'.events silent'
    exact ⟨silent'', same'.trans same⟩

omit [Scalar α] in
/-- Nothing that concerns the connection has changed. -/
theorem of_same (portName : c'.portName = c.portName) (port : c'.port.isSome = c.port.isSome)
    (thread : c'.thread = c.thread) (connection : c'.connection = c.connection)
    (tracker : c'.tracker = c.tracker) : Serves c c' where
  portName := portName
  port := port
  thread := thread
  status := .inl (congrArg Connection.status connection)
  events silent := ⟨tracker ▸ silent, by rw [threadEvents, connection]; rfl⟩

omit [Scalar α] in
theorem logText (c : Controller α) (level : Level) (s : String) : Serves c (c.logText level s) :=
  ⟨rfl, rfl, rfl, .inl rfl, fun silent => ⟨silent, c.threadEvents_logText level s⟩⟩

omit [Scalar α] in
theorem setStatus_fail (c : Controller α) : Serves c (c.setStatus .fail) where
  portName := rfl
  port := rfl
  thread := rfl
  status := .inr (Connection.status_setStatus _ _)
  events silent := ⟨silent, c.threadEvents_setStatus .fail⟩

omit [Scalar α] in
theorem fail (c : Controller α) (reason message : String) : Serves c (c.fail reason message) :=
  (logText c _ _).trans (setStatus_fail _)

omit [Scalar α] in
/-- What a tracker notes is announced, and says nothing of a thread. -/
theorem adopt {t : Tracker α} (same : t.machine.threads = c.tracker.machine.threads) :
    Serves c (c.adopt t) := by
  refine ⟨rfl, rfl, rfl, .inl rfl, fun silent => ⟨rfl, ?_⟩⟩
  show Journal.threadEvents
    (t.machine.journal.map (Journal.putUnder c.label) ++ c.connection.journal) = _
  rw [Journal.threadEvents_append, Journal.threadEvents_putUnder]
  show c.threadEvents ++ t.machine.threads = c.threadEvents
  rw [same, silent, List.append_nil]

end Serves

/-! ## Reading -/

theorem accept_serves (piece : Bytes) (c : Controller α) : Serves c (c.accept piece) := by
  have accepted := accept_accepted piece c
  generalize c.accept piece = c' at accepted ⊢
  cases accepted with
  | unfinished _ => exact .of_same rfl rfl rfl rfl rfl
  | blank _ _ => exact .of_same rfl rfl rfl rfl rfl
  | other _ _ => exact .of_same rfl rfl rfl rfl rfl
  | @answer line rest _ _ =>
    have taken : Serves c { c with partialLine := rest } := .of_same rfl rfl rfl rfl rfl
    exact taken.trans (.adopt (Tracker.threads_receive line.trim c.tracker))

omit [Scalar α] in
theorem read_serves (c : Controller α) : Serves c c.read.state := by
  simp only [read]
  split
  next => exact .setStatus_fail c
  next port hport =>
    split
    next => exact .fail c _ _
    next => exact .refl c
    next =>
      split
      next => exact .refl c
      next => exact .of_same rfl (by simp [Step.done, hport]) rfl rfl rfl

theorem readOn_serves (got : Bytes) (c : Controller α) : Serves c (readOn got c).state := by
  induction got, c using readOn.induct with
  | case1 got c done =>
    rw [readOn, if_pos done]
    exact .refl c
  | case2 got c goes c' next hread ih =>
    have read := read_serves (c.accept got)
    rw [hread] at read
    rw [readOn_of_read goes hread]
    exact ((accept_serves got c).trans read).trans ih
  | case3 got c goes c' fault hread =>
    rw [readOn_of_error goes hread]
    exact accept_serves got c

theorem readAll_serves (c : Controller α) : Serves c c.readAll.state := by
  have read := read_serves c
  simp only [readAll, Step.andThen]
  generalize c.read = reading at read ⊢
  obtain ⟨c', result⟩ := reading
  cases result with
  | ok got => exact read.trans (readOn_serves got c')
  | error fault => exact read

/-! ## Writing -/

omit [Scalar α] in
theorem write_serves (data : Bytes) (c : Controller α) : Serves c (c.write data).1 := by
  simp only [write]
  split
  next => exact .setStatus_fail c
  next port hport =>
    split
    next => exact .fail c _ _
    next => exact .of_same rfl (by simp [hport]) rfl rfl rfl

theorem register_serves (now : α) (data : Bytes) (c : Controller α) :
    Serves c (c.adoptStep (c.tracker.register now data)).state :=
  .adopt (Tracker.threads_register now data c.tracker)

theorem writeImmediate_serves (now : α) (c : Controller α) :
    Serves c (c.writeImmediate now).state := by
  simp only [writeImmediate]
  split
  next => exact .refl c
  next task rest _ =>
    have taken : Serves c { c with immediate := rest } := .of_same rfl rfl rfl rfl rfl
    have written := taken.trans (write_serves task { c with immediate := rest })
    generalize write { c with immediate := rest } task = writing at written ⊢
    obtain ⟨c', succeeded⟩ := writing
    cases succeeded with
    | false => exact written
    | true =>
      dsimp only
      split
      next => exact written.trans (register_serves now task c')
      next => exact written

theorem writeStreaming_serves (now : α) (c : Controller α) :
    Serves c (c.writeStreaming now).state := by
  simp only [writeStreaming]
  split
  next => exact .refl c
  next line left next =>
    obtain ⟨-, frame, -⟩ := nextLine?_eq next
    have taken : Serves c left := by
      rw [frame]
      exact .of_same rfl rfl rfl rfl rfl
    split
    next =>
      split
      next => exact taken.trans (.logText left _ _)
      next => exact taken.trans (.of_same rfl rfl rfl rfl rfl)
    next =>
      have written := taken.trans (write_serves line left)
      generalize left.write line = writing at written ⊢
      obtain ⟨c', succeeded⟩ := writing
      cases succeeded with
      | false => exact written
      | true => exact written.trans (register_serves now line c')

theorem writeNext_serves (now : α) (c : Controller α) : Serves c (c.writeNext now).state := by
  have urgent := writeImmediate_serves now c
  simp only [writeNext, Step.andThen]
  generalize c.writeImmediate now = writing at urgent ⊢
  obtain ⟨c', result⟩ := writing
  cases result with
  | error fault => exact urgent
  | ok wrote =>
    cases wrote with
    | true => exact urgent
    | false => exact urgent.trans (writeStreaming_serves now c')

/-! ## The pass and the event loop -/

theorem query_serves (now : α) (c : Controller α) : Serves c (c.query now) := by
  rw [query]
  split
  · exact .of_same rfl rfl rfl rfl rfl
  · exact .refl c

/-- A pass serves the port, whatever it is like. -/
theorem pass_serves (now : α) (c : Controller α) : Serves c (c.pass now).state := by
  rw [pass]
  split
  next =>
    have read := readAll_serves c
    simp only [Step.andThen]
    generalize c.readAll = reading at read ⊢
    obtain ⟨c', result⟩ := reading
    cases result with
    | error fault => exact read
    | ok _ =>
      have wrote := read.trans (writeNext_serves now c')
      dsimp only
      generalize c'.writeNext now = writing at wrote ⊢
      obtain ⟨c'', result⟩ := writing
      cases result with
      | error fault => exact wrote
      | ok _ => exact wrote.trans (query_serves now c'')
  next => exact .refl c

omit [Scalar α] in
theorem setDesired_serves (c : Controller α) (status : Status) : Serves c (c.setDesired status) :=
  ⟨rfl, rfl, rfl, .inl rfl, fun silent => ⟨silent, c.threadEvents_setDesired status⟩⟩

omit [Scalar α] in
theorem setReady_serves (c : Controller α) (ready : Bool) : Serves c (c.setReady ready) :=
  ⟨rfl, rfl, rfl, .inl rfl, fun silent => ⟨silent, c.threadEvents_setReady ready⟩⟩

omit [Scalar α] in
theorem send_serves (command : Bytes) (c : Controller α) : Serves c (c.send command) := by
  rw [send]
  split
  · exact .of_same rfl rfl rfl rfl rfl
  · dsimp only
    split
    · exact .refl c
    · exact .of_same rfl rfl rfl rfl rfl

omit [Scalar α] in
theorem cancelJog_serves (c : Controller α) : Serves c c.cancelJog := by
  have logged := Serves.logText c .debug "Cancel jog"
  exact logged.trans (.of_same rfl rfl rfl rfl rfl)

theorem takeReceived_serves (c : Controller α) : Serves c c.takeReceived := by
  have taken : Serves c { c with received := [] } := .of_same rfl rfl rfl rfl rfl
  exact taken.trans (.adopt (Tracker.threads_receiveAll c.received c.tracker))

/-- What a step of the event loop does when the connection has been seen to. -/
theorem played_serves (now : α) (c : Controller α) : Serves c (c.takeReceived.advance now).state :=
  (takeReceived_serves c).trans (.adopt (Tracker.threads_update now c.takeReceived.tracker))

omit [Scalar α] in
theorem setSimulates_serves (enabled : Bool) (c : Controller α) :
    Serves c (c.setSimulates enabled) := by
  rw [setSimulates]
  split
  · exact .refl c
  · exact .adopt (Tracker.threads_toggle c.tracker)

end Controller

end Link

end GcodeSender
