/-
# `GcodeSender.Proofs.Link.Streaming` — no line is lost, doubled or overtaken

A line that is sent waits in `streaming`, perhaps in the one place for a line
held back, and is written.  Only a line that does not fit even an empty buffer
takes another way: it is dropped.

    sent  =  taken  then  backlog
    written lines  =  the taken ones shorter than the buffer

`Streamed` says this of a controller, for all that was sent and written since
some point, together with what makes it hold: a balanced ledger, in which
nothing pending means nothing counted, so that what is dropped is too long.

`Told` says that the tracker was told of everything that was written, once each
and in that order, and otherwise only of messages and of the time.

The owner of a controller, its port and the event loop act in any order
(`Action`); what was written is carried away after every action (`Traffic`).
-/
import GcodeSender.Proofs.Link.Deeds

namespace GcodeSender

open Scalar Gcode

variable {α : Type} [Scalar α]

/-! ## What a tracker was told -/

namespace Tracker

/-- The tracker was told of the commands, once each and in this order.  In between it may have
received messages, made ticks and had its notices taken away. -/
inductive Told (t : Tracker α) : List Bytes → Tracker α → Prop
  | refl : Told t [] t
  | register {commands : List Bytes} {t' : Tracker α} (now : α) (command : Bytes) :
      Told t commands t' → Told t (commands ++ [command]) (t'.register now command).state
  | receive {commands : List Bytes} {t' : Tracker α} (message : Bytes) :
      Told t commands t' → Told t commands (t'.receive message)
  | update {commands : List Bytes} {t' : Tracker α} (now : α) :
      Told t commands t' → Told t commands (t'.update now).state
  | hush {commands : List Bytes} {t' : Tracker α} : Told t commands t' → Told t commands t'.hushed

/-- The tracker has followed what was written: it was told, and what it holds pending are the
lengths of the lines written last. -/
structure Follows (t : Tracker α) (written : List Bytes) (t' : Tracker α) : Prop where
  told : t.Told written t'
  capacity : t'.ledger.capacity = receiveBufferSize
  balanced : t'.ledger.Balanced
  pending : t'.ledger.pending <:+ (written.filter (!isRealtime ·)).map List.length

namespace Follows

variable {t t' : Tracker α} {written : List Bytes}

theorem register (h : Follows t written t') (now : α) (command : Bytes) :
    Follows t (written ++ [command]) (t'.register now command).state where
  told := h.told.register now command
  capacity := by
    rw [(register_account now command t').1, Ledger.capacity_send]
    exact h.capacity
  balanced := by
    rw [(register_account now command t').1]
    exact h.balanced.send command
  pending := by
    rw [(register_account now command t').1]
    cases kind : isRealtime command with
    | true =>
      rw [Ledger.send_realtime kind]
      simpa [kind] using h.pending
    | false =>
      obtain ⟨answered, hanswered⟩ := h.pending
      rw [Ledger.send_line kind]
      exact ⟨answered, by simp [kind, ← hanswered]⟩

theorem receive (h : Follows t written t') (message : Bytes) :
    Follows t written (t'.receive message) := by
  have told := h.told.receive message
  rcases ledger_receive message t' with answered | same
  · refine ⟨told, ?_, ?_, ?_⟩
    · rw [answered, Ledger.capacity_answer]
      exact h.capacity
    · rw [answered]
      exact h.balanced.answer
    · rw [answered]
      exact (Ledger.pending_answer_suffix _).trans h.pending
  · refine ⟨told, ?_, ?_, ?_⟩ <;> rw [same]
    · exact h.capacity
    · exact h.balanced
    · exact h.pending

theorem receiveAll (h : Follows t written t') (messages : List Bytes) :
    Follows t written (messages.foldl (fun t message => t.receive message) t') := by
  induction messages generalizing t' with
  | nil => exact h
  | cons message rest ih => exact ih (h.receive message)

theorem update (h : Follows t written t') (now : α) : Follows t written (t'.update now).state := by
  have same := (update_account now t').1
  refine ⟨h.told.update now, ?_, ?_, ?_⟩ <;> rw [same]
  · exact h.capacity
  · exact h.balanced
  · exact h.pending

theorem hush (h : Follows t written t') : Follows t written t'.hushed :=
  ⟨h.told.hush, h.capacity, h.balanced, h.pending⟩

end Follows

end Tracker

namespace Link

open Controller

/-- Does a line fit an empty buffer? -/
def isShort (line : Bytes) : Bool := decide ((line.length : Int) < receiveBufferSize)

/-- What was sent has been taken off the queues or waits, and of what was taken the short lines,
and only those, were written. -/
def Conserved (sent written : List Bytes) (c : Controller α) : Prop :=
  ∃ taken, sent = taken ++ c.backlog ∧ written.filter (!isRealtime ·) = taken.filter isShort

/-- What was sent and written since a tracker was `t`. -/
structure Streamed (t : Tracker α) (sent written : List Bytes) (c : Controller α) : Prop where
  sound : Sound c
  tracker : t.Follows written c.tracker
  conserved : Conserved sent written c

/-! ## Every deed keeps it -/

section
variable {t : Tracker α} {sent written : List Bytes} {c : Controller α}

theorem Streamed.of_same (h : Streamed t sent written c) {c' : Controller α} (sound : Sound c')
    (tracker : c'.tracker = c.tracker) (backlog : c'.backlog = c.backlog) :
    Streamed t sent written c' where
  sound := sound
  tracker := tracker ▸ h.tracker
  conserved := by rw [Conserved, backlog]; exact h.conserved

theorem Streamed.accept (h : Streamed t sent written c) (piece : Bytes) :
    Streamed t sent written (c.accept piece) := by
  have accepted := accept_accepted piece c
  have sound := accepted.sound h.sound
  generalize c.accept piece = c' at accepted sound ⊢
  cases accepted with
  | unfinished _ => exact h.of_same sound rfl rfl
  | blank _ _ => exact h.of_same sound rfl rfl
  | other _ _ => exact h.of_same sound rfl rfl
  | @answer line rest _ _ => exact ⟨sound, (h.tracker.receive line.trim).hush, h.conserved⟩

/-- Where nothing is queued or written, nothing joins. -/
theorem Streamed.silent (h : Streamed t sent written c) :
    Streamed t (sent ++ []) (written ++ []) c := by
  rw [List.append_nil, List.append_nil]
  exact h

/-- A deed moves lines from the backlog to what was written, or drops one that is too long. -/
theorem Streamed.does (h : Streamed t sent written c) {c' : Controller α}
    {queued writtenNow : List Bytes} (deed : Does c queued writtenNow c') :
    Streamed t (sent ++ queued) (written ++ writtenNow) c' := by
  have sound := deed.sound h.sound
  obtain ⟨taken, hsent, hwritten⟩ := h.conserved
  cases deed with
  | aside connection lastQuery thread keeps =>
    exact (h.of_same sound rfl rfl).silent
  | @queue command line text =>
    rw [List.append_nil]
    refine ⟨sound, h.tracker, taken, ?_, hwritten⟩
    rw [hsent, backlog_queue, List.append_assoc]
  | urge realtime =>
    exact (h.of_same sound rfl rfl).silent
  | @hear chunk rest port hport incoming =>
    have read : Streamed t sent written { c with port := some { port with incoming := rest } } :=
      h.of_same (h.sound.withPort hport _ rfl) rfl rfl
    exact (read.accept chunk).silent
  | settle =>
    exact (h.accept []).silent
  | @writeByte now byte rest port immediate hport =>
    have realtime := h.sound.urgent byte (by simp [immediate])
    rw [List.append_nil]
    refine ⟨sound, (h.tracker.register now byte).hush, taken, hsent, ?_⟩
    rw [List.filter_append, hwritten]
    simp [realtime]
  | @writeLine now line left port next fits hport =>
    obtain ⟨backlog, frame, -⟩ := nextLine?_eq next
    have isLine := (h.sound.next next).1
    have short : isShort line = true := by
      have fit := (h.tracker.balanced.fits isLine fits).1
      rw [h.tracker.capacity] at fit
      simpa [isShort] using fit
    rw [List.append_nil]
    refine ⟨sound, (h.tracker.register now line).hush, taken ++ [line], ?_, ?_⟩
    · rw [hsent, backlog, List.append_assoc]
      rfl
    · rw [List.filter_append, List.filter_append, hwritten]
      simp [isLine, short]
  | @hold line left next overflows pending =>
    obtain ⟨-, frame, -⟩ := nextLine?_eq next
    exact (h.of_same sound (by rw [frame]) (backlog_hold next)).silent
  | @drop line left next overflows empty =>
    obtain ⟨backlog, frame, -⟩ := nextLine?_eq next
    have tracker : c'.tracker = c.tracker := by rw [frame]
    have long : isShort line = false := by
      have long := h.tracker.balanced.long_of_overflow empty overflows
      rw [h.tracker.capacity] at long
      simpa [isShort] using long
    refine Streamed.silent ⟨sound, tracker ▸ h.tracker, taken ++ [line], ?_, ?_⟩
    · rw [hsent, backlog, List.append_assoc]
      rfl
    · rw [List.filter_append, hwritten]
      simp [long]
  | takeUp =>
    exact Streamed.silent ⟨sound, (h.tracker.receiveAll c.received).hush, h.conserved⟩
  | play now =>
    exact Streamed.silent ⟨sound, (h.tracker.update now).hush, h.conserved⟩
  | close hport =>
    exact (h.of_same sound rfl rfl).silent
  | lose away nothing =>
    exact (h.of_same sound rfl rfl).silent

theorem Streamed.runs (h : Streamed t sent written c) {c' : Controller α}
    {queued writtenNow : List Bytes} (runs : Runs c queued writtenNow c') :
    Streamed t (sent ++ queued) (written ++ writtenNow) c' := by
  induction runs with
  | refl => simpa using h
  | step _ last ih =>
    rw [← List.append_assoc, ← List.append_assoc]
    exact ih.does last

end

/-! ## In any order -/

/-- What can happen around a controller once its connection is up. -/
inductive Action (α : Type) where
  | call (call : Call α)
  | writeImmediate (now : α)
  | writeStreaming (now : α)
  /-- Chunks come in at the port. -/
  | arrive (chunks : List Bytes)
  /-- A piece is taken up as if it had been read. -/
  | accept (piece : Bytes)
  /-- Reading begins to fail, or no longer does. -/
  | failRead (fault : Option ReadFault)

namespace Action

omit [Scalar α] in
/-- The lines that an action queues. -/
def lines (feed : Amount) : Action α → List Bytes
  | .call asked => asked.lines feed
  | _ => []

/-- What an action comes to. -/
def apply : Action α → Station α → Station α
  | .call asked, s => asked.apply s
  | .writeImmediate now, s => s.mapController fun c => (c.writeImmediate now).state
  | .writeStreaming now, s => s.mapController fun c => (c.writeStreaming now).state
  | .arrive chunks, s => s.mapController fun c => { c with port := c.port.map (·.receive chunks) }
  | .accept piece, s => s.mapController (·.accept piece)
  | .failRead fault, s =>
    s.mapController fun c => { c with port := c.port.map ({ · with readFault := fault }) }

omit [Scalar α] in
/-- A write that is asked for finds a port that takes it.  A pass writes only while it is connected,
and then there is one. -/
def Succeeds (s : Station α) : Action α → Prop
  | .writeImmediate _ | .writeStreaming _ =>
    ∃ port, s.controller.port = some port ∧ port.writeFault = none
  | _ => True

end Action

/-- A controller in its surroundings, and what it has written. -/
structure Traffic (α : Type) where
  station : Station α
  written : List Bytes := []

namespace Traffic

omit [Scalar α] in
/-- Nothing has been written yet. -/
def start (s : Station α) : Traffic α := { station := s.mapController (·.carryAway) }

/-- An action, after which what was written is carried away. -/
def step (t : Traffic α) (action : Action α) : Traffic α :=
  let station := action.apply t.station
  { station := station.mapController (·.carryAway)
    written := t.written ++ station.controller.outgoing }

/-- Actions one after another. -/
def run (t : Traffic α) (actions : List (Action α)) : Traffic α := actions.foldl step t

/-- Every write that is asked for succeeds. -/
def WritesSucceed : Traffic α → List (Action α) → Prop
  | _, [] => True
  | t, action :: rest => action.Succeeds t.station ∧ WritesSucceed (t.step action) rest

end Traffic

omit [Scalar α] in
/-- Connected, with nothing to be written and nothing pending. -/
structure Idle (s : Station α) : Prop where
  connected : s.controller.status = .connected
  port : ∃ port, s.controller.port = some port ∧ port.writeFault = none
  immediate : s.controller.immediate = []
  streaming : s.controller.streaming = []
  heldBack : s.controller.heldBack = none
  capacity : s.controller.tracker.ledger.capacity = receiveBufferSize
  pending : s.controller.tracker.ledger.pending = []
  total : s.controller.tracker.ledger.total = 0

section
variable {t₀ : Tracker α} {sent : List Bytes}

theorem Streamed.mapPort {written : List Bytes} {c : Controller α} (h : Streamed t₀ sent written c)
    (f : Port → Port) (same : ∀ port, (f port).writeFault = port.writeFault) :
    Streamed t₀ sent written { c with port := c.port.map f } :=
  h.of_same (h.sound.mapPort f same) rfl rfl

/-- What an action comes to, before what was written is carried away. -/
theorem Action.apply_streamed {s : Station α} {written : List Bytes}
    (h : Streamed t₀ sent written s.controller) (carried : s.controller.outgoing = [])
    {action : Action α} (succeeds : action.Succeeds s) :
    Streamed t₀ (sent ++ action.lines s.controller.jogFeed)
        (written ++ (action.apply s).controller.outgoing) (action.apply s).controller ∧
      (action.apply s).controller.jogFeed = s.controller.jogFeed := by
  have ran : ∀ {c' : Controller α} {queued writtenNow : List Bytes},
      Runs s.controller queued writtenNow c' →
        Streamed t₀ (sent ++ queued) (written ++ c'.outgoing) c' ∧
          c'.jogFeed = s.controller.jogFeed := by
    intro c' queued writtenNow runs
    rw [runs.outgoing, carried]
    exact ⟨h.runs runs, runs.jogFeed⟩
  cases action with
  | call asked =>
    obtain ⟨_, runs⟩ := asked.runs h.sound carried
    exact ran runs
  | writeImmediate now =>
    obtain ⟨port, hport, -⟩ := succeeds
    obtain ⟨_, runs, -⟩ := writeImmediate_runs h.sound (by rw [hport]; rfl) now
    exact ran runs
  | writeStreaming now =>
    obtain ⟨port, hport, -⟩ := succeeds
    obtain ⟨_, runs⟩ := writeStreaming_runs h.sound (by rw [hport]; rfl) now
    exact ran runs
  | arrive chunks =>
    have outgoing := outgoing_mapPort s.controller (·.receive chunks) fun _ => rfl
    simp only [Action.apply, Station.mapController, Action.lines, List.append_nil, outgoing,
      carried]
    exact ⟨h.mapPort _ fun _ => rfl, trivial⟩
  | accept piece =>
    have accepted := accept_accepted piece s.controller
    simp only [Action.apply, Station.mapController, Action.lines, List.append_nil,
      accepted.outgoing, carried]
    exact ⟨h.accept piece, accepted.jogFeed⟩
  | failRead fault =>
    have outgoing := outgoing_mapPort s.controller ({ · with readFault := fault }) fun _ => rfl
    simp only [Action.apply, Station.mapController, Action.lines, List.append_nil, outgoing,
      carried]
    exact ⟨h.mapPort _ fun _ => rfl, trivial⟩

theorem Traffic.step_streamed {t : Traffic α} {feed : Amount}
    (h : Streamed t₀ sent t.written t.station.controller)
    (carried : t.station.controller.outgoing = []) (hfeed : t.station.controller.jogFeed = feed)
    {action : Action α} (succeeds : action.Succeeds t.station) :
    Streamed t₀ (sent ++ action.lines feed) (t.step action).written
        (t.step action).station.controller ∧
      (t.step action).station.controller.outgoing = [] ∧
      (t.step action).station.controller.jogFeed = feed := by
  subst hfeed
  obtain ⟨streamed, jogFeed⟩ := Action.apply_streamed h carried succeeds
  exact ⟨streamed.mapPort _ fun _ => rfl, outgoing_carryAway _, jogFeed⟩

/-- Whatever is done in whatever order. -/
theorem Traffic.run_streamed {t : Traffic α} {feed : Amount}
    (h : Streamed t₀ sent t.written t.station.controller)
    (carried : t.station.controller.outgoing = []) (hfeed : t.station.controller.jogFeed = feed)
    {actions : List (Action α)} (succeed : t.WritesSucceed actions) :
    Streamed t₀ (sent ++ actions.flatMap (Action.lines feed)) (t.run actions).written
      (t.run actions).station.controller := by
  induction actions generalizing t sent with
  | nil => simpa [Traffic.run] using h
  | cons action rest ih =>
    obtain ⟨here, later⟩ := succeed
    obtain ⟨streamed, carried, hfeed⟩ := step_streamed h carried hfeed here
    have rest := ih streamed carried hfeed later
    rw [List.append_assoc] at rest
    exact rest

theorem Idle.streamed {s : Station α} (idle : Idle s) :
    Streamed s.controller.tracker [] [] (Traffic.start s).station.controller := by
  obtain ⟨port, hport, unjammed⟩ := idle.port
  have backlog : s.controller.backlog = [] := by
    simp [Controller.backlog, idle.heldBack, idle.streaming]
  have sound : Sound s.controller := by
    refine ⟨.inl ⟨idle.connected, by rw [hport]; rfl⟩, fun p hp => ?_, ?_, ?_⟩
    · cases hport.symm.trans hp
      exact unjammed
    · simp [idle.immediate]
    · simp [backlog]
  have streamed : Streamed s.controller.tracker [] [] s.controller := by
    refine ⟨sound, ⟨.refl, idle.capacity, ?_, ?_⟩, [], backlog.symm, by simp⟩
    · simp [Ledger.Balanced, idle.pending, idle.total]
    · simp [idle.pending]
  exact streamed.mapPort _ fun _ => rfl

/-- Streaming loses, doubles and reorders nothing: of the lines sent, those shorter than the buffer
are the ones written and the ones that still wait, in the order of sending; only the others are
dropped; and the tracker was told of everything written, once each and in the same order. -/
theorem streaming_conserves {s : Station α} (idle : Idle s) {actions : List (Action α)}
    (succeed : (Traffic.start s).WritesSucceed actions) :
    let sent := actions.flatMap (Action.lines s.controller.jogFeed)
    let t := (Traffic.start s).run actions
    let c := t.station.controller
    sent.filter isShort = t.written.filter (!isRealtime ·) ++ c.backlog.filter isShort ∧
      (∃ taken, sent = taken ++ c.backlog ∧
        t.written.filter (!isRealtime ·) = taken.filter isShort) ∧
      s.controller.tracker.Told t.written c.tracker ∧
      c.tracker.ledger.pending <:+ (t.written.filter (!isRealtime ·)).map List.length ∧
      c.heldBack.toList.length ≤ 1 := by
  intro sent t c
  have feed : (Traffic.start s).station.controller.jogFeed = s.controller.jogFeed := rfl
  have carried : (Traffic.start s).station.controller.outgoing = [] := outgoing_carryAway _
  have streamed : Streamed s.controller.tracker sent t.written c :=
    Traffic.run_streamed idle.streamed carried feed succeed
  obtain ⟨taken, hsent, hwritten⟩ := streamed.conserved
  refine ⟨?_, ⟨taken, hsent, hwritten⟩, streamed.tracker.told, streamed.tracker.pending, ?_⟩
  · rw [hsent, List.filter_append, hwritten]
  · cases c.heldBack <;> simp

/-- Three lines, of which one is too long, and a realtime query on the way. -/
theorem streaming_conserves_long_line :
    let actions : List (Action Float) :=
      [.call (.send (Bytes.ofText "G1 X1")), .call (.send (List.replicate 140 0x61)),
        .call (.jog { x := some (.whole 5) }), .writeStreaming 0, .writeStreaming 0,
        .accept (Bytes.ofText "ok\r\n"), .writeStreaming 0, .call (.pass 1), .call (.update 1)]
    let sent := actions.flatMap (Action.lines connectedStation.controller.jogFeed)
    let t := (Traffic.start connectedStation).run actions
    let c := t.station.controller
    Idle connectedStation ∧ (Traffic.start connectedStation).WritesSucceed actions ∧
      sent.length = 3 ∧
      sent.filter isShort = t.written.filter (!isRealtime ·) ++ c.backlog.filter isShort := by
  intro actions sent t c
  have idle : Idle connectedStation := ⟨rfl, ⟨{}, rfl, rfl⟩, rfl, rfl, rfl, rfl, rfl, rfl⟩
  have succeed : (Traffic.start connectedStation).WritesSucceed actions :=
    ⟨trivial, trivial, trivial, ⟨{}, by decide +kernel, rfl⟩, ⟨{}, by decide +kernel, rfl⟩, trivial,
      ⟨{}, by decide +kernel, rfl⟩, trivial, trivial, trivial⟩
  exact ⟨idle, succeed, by decide +kernel, (streaming_conserves idle succeed).1⟩

end

end Link

end GcodeSender
