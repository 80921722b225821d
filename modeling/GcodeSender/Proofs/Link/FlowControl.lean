/-
# `GcodeSender.Proofs.Link.FlowControl` — counting characters keeps the buffer from running over

A controller and a machine are coupled by two byte streams.  Each line that was
written is in one of four places:

    done       its answer has been taken up
    answered   its answer is on the way back
    received   it waits in the machine
    underway   it is on the way there, or being typed

    ledger             the lengths of answered, received and underway, in this order
    machine            received, and of underway what it has typed
    stream to it       the rest of underway, with realtime bytes in between
    stream back        lines of which no more are answers than there are answered

`Coupled` is this invariant.  Every deed of the controller and every step of
the machine keeps it, wherever the streams are cut into chunks.  So what the
machine holds is at most what the ledger counts, the ledger counts less than
the buffer's size, and no answer ever finds it empty.
-/
import GcodeSender.Proofs.Link.Device

namespace GcodeSender.Link

open Scalar Gcode Controller Bytes

variable {α : Type} [Scalar α]

/-! ## Controller and machine -/

/-- What can happen to a controller and the machine at the other end. -/
inductive Happening (α : Type) where
  | call (call : Call α)
  /-- The machine takes a byte. -/
  | take
  /-- The machine answers a line. -/
  | answer (line : Bytes)
  /-- The machine says something unasked. -/
  | emit (line : Bytes)
  /-- Some of what the machine said comes in as a chunk. -/
  | deliver (count : Nat)

omit [Scalar α] in
/-- Commands are single lines, answers are answers, and anything else that is said is a report. -/
def Happening.Regular : Happening α → Prop
  | .call (.send command) => Unbroken command.trim
  | .answer line => Tracker.isAnswer line = true ∧ lineFeed ∉ line
  | .emit line => isReport line = true ∧ lineFeed ∉ line
  | _ => True

instance (happening : Happening α) : Decidable happening.Regular :=
  match happening with
  | .call (.send command) => inferInstanceAs (Decidable (Unbroken command.trim))
  | .answer line => inferInstanceAs (Decidable (Tracker.isAnswer line = true ∧ lineFeed ∉ line))
  | .emit line => inferInstanceAs (Decidable (isReport line = true ∧ lineFeed ∉ line))
  | .call (.jog _) | .call (.jogAbsolute _) | .call .cancelJog | .call (.pass _)
  | .call (.update _) | .take | .deliver _ => .isTrue trivial

/-- A controller and the machine at the other end. -/
structure Bench (α : Type) where
  station : Station α
  device : Device
  /-- The lines written so far. -/
  lines : List Bytes := []

namespace Bench

omit [Scalar α] in
/-- Nothing has been written yet; the machine is idle, and may have said something. -/
def start (s : Station α) (outbox : Bytes) : Bench α :=
  { station := s.mapController (·.carryAway), device := { outbox } }

/-- What happens next. -/
def step (b : Bench α) : Happening α → Bench α
  | .call asked =>
    let station := asked.apply b.station
    let written := station.controller.outgoing
    { station := station.mapController (·.carryAway)
      device := b.device.send written
      lines := b.lines ++ written.filter (!isRealtime ·) }
  | .take => { b with device := b.device.take }
  | .answer line => { b with device := b.device.answer line }
  | .emit line => { b with device := b.device.emit line }
  | .deliver count =>
    let chunk := b.device.outbox.take count
    { b with
      station := b.station.mapController fun c =>
        { c with port := c.port.map (·.receive [chunk]) }
      device := { b.device with outbox := b.device.outbox.drop count } }

/-- One thing after another. -/
def run (b : Bench α) (history : List (Happening α)) : Bench α := history.foldl step b

end Bench

/-! ## The invariant -/

/-- The stream from the machine: what was read and not taken up, `piece` at its end, and what is
still ahead make up whole replies, of which no more are answers than there are lines answered. -/
def Streams (c : Controller α) (piece outbox : Bytes) (answered : List Bytes) : Prop :=
  ∃ replies ahead, c.partialLine ++ piece ++ ahead = onWire lineEnd replies ∧
    (∀ reply ∈ replies, IsReply reply) ∧
    (replies.filter Tracker.isAnswer).length ≤ answered.length ∧
    ∀ port, c.port = some port → ahead = port.incoming.flatten ++ outbox

/-- Where the lines written are. -/
structure Places where
  done : List Bytes
  answered : List Bytes
  received : List Bytes
  underway : List Bytes

/-- The lines whose answer has not been taken up. -/
def Places.pending (p : Places) : List Bytes := p.answered ++ p.received ++ p.underway

/-- The tracker of a controller, by where the lines are. -/
structure Counts (t₀ : Tracker α) (p : Places) (t : Tracker α) : Prop where
  capacity : t.ledger.capacity = receiveBufferSize
  balanced : t.ledger.Balanced
  room : t.ledger.total < receiveBufferSize
  pending : t.ledger.pending = p.pending.map List.length
  desynchronised : t.ledger.desynchronised = t₀.ledger.desynchronised
  answers : t.answers = t₀.answers + p.done.length

/-- The machine, by where the lines are. -/
structure Holds (p : Places) (d : Device) : Prop where
  waiting : d.waiting = p.received.map buffered
  typed : Unbroken d.typed
  inbox : d.typed ++ buffered d.inbox = (p.underway.map buffered).flatten
  lines : ∀ line ∈ p.underway, IsLine line

/-- Controller and machine, since the tracker was `t₀`; `piece` was read and is not taken up. -/
structure Coupled (t₀ : Tracker α) (lines : List Bytes) (p : Places) (piece : Bytes)
    (c : Controller α) (d : Device) : Prop where
  lines : lines = p.done ++ p.pending
  sound : Sound c
  backlog : ∀ line ∈ c.backlog, IsLine line
  received : ∀ line ∈ c.received, Tracker.isAnswer line.trim = false
  counts : Counts t₀ p c.tracker
  holds : Holds p d
  streams : Streams c piece d.outbox p.answered

/-! ## What the tracker counts -/

namespace Counts

variable {t₀ t : Tracker α} {p : Places}

omit [Scalar α] in
theorem of_same (h : Counts t₀ p t) {t' : Tracker α} (ledger : t'.ledger = t.ledger)
    (answers : t'.answers = t.answers) : Counts t₀ p t' := by
  obtain ⟨capacity, balanced, room, pending, desynchronised, answered⟩ := h
  rw [← ledger] at capacity balanced room pending desynchronised
  exact ⟨capacity, balanced, room, pending, desynchronised, answers.trans answered⟩

omit [Scalar α] in
theorem hush (h : Counts t₀ p t) : Counts t₀ p t.hushed := h.of_same rfl rfl

theorem receive_other (h : Counts t₀ p t) {message : Bytes}
    (other : Tracker.isAnswer message.trim = false) : Counts t₀ p (t.receive message) :=
  h.of_same (Tracker.receive_other other t).1 (Tracker.receive_other other t).2

theorem receiveAll (h : Counts t₀ p t) {messages : List Bytes}
    (others : ∀ message ∈ messages, Tracker.isAnswer message.trim = false) :
    Counts t₀ p (messages.foldl (fun t message => t.receive message) t) := by
  induction messages generalizing t with
  | nil => exact h
  | cons message rest ih =>
    exact ih (h.receive_other (others message List.mem_cons_self))
      fun m mem => others m (List.mem_cons_of_mem _ mem)

/-- An answer takes out the line that was answered first. -/
theorem receive_answer (h : Counts t₀ p t) {message : Bytes}
    (answers : Tracker.isAnswer message.trim = true) {line : Bytes} {rest : List Bytes}
    (first : p.answered = line :: rest) :
    Counts t₀ { p with done := p.done ++ [line], answered := rest } (t.receive message) := by
  obtain ⟨ledger, answered⟩ := Tracker.receive_answer answers t
  have pending : t.ledger.pending =
      line.length :: (rest ++ p.received ++ p.underway).map List.length := by
    rw [h.pending, Places.pending, first]
    rfl
  have popped := Ledger.answer_of_pending pending
  have room := h.room
  refine ⟨?_, ?_, ?_, ?_, ?_, ?_⟩
  · rw [ledger, Ledger.capacity_answer]
    exact h.capacity
  · rw [ledger]
    exact h.balanced.answer
  · rw [ledger, popped]
    show t.ledger.total - line.length < receiveBufferSize
    omega
  · rw [ledger, popped]
    rfl
  · rw [ledger, popped]
    exact h.desynchronised
  · rw [answered, h.answers, List.length_append, List.length_singleton]
    omega

/-- A line that fits joins those underway. -/
theorem register_line (h : Counts t₀ p t) (now : α) {line : Bytes}
    (isLine : isRealtime line = false) (fits : t.wouldOverflow line = false) :
    Counts t₀ { p with underway := p.underway ++ [line] } (t.register now line).state := by
  obtain ⟨ledger, answers⟩ := Tracker.register_account now line t
  have room := (h.balanced.fits isLine fits).2
  refine ⟨?_, ?_, ?_, ?_, ?_, answers.trans h.answers⟩ <;> rw [ledger]
  · rw [Ledger.capacity_send]
    exact h.capacity
  · exact h.balanced.send line
  · rwa [← h.capacity]
  · rw [Ledger.send_line isLine]
    simp [h.pending, Places.pending]
  · rw [Ledger.desynchronised_send]
    exact h.desynchronised

theorem register_realtime (h : Counts t₀ p t) (now : α) {byte : Bytes}
    (realtime : isRealtime byte = true) : Counts t₀ p (t.register now byte).state := by
  obtain ⟨ledger, answers⟩ := Tracker.register_account now byte t
  exact h.of_same (ledger.trans (Ledger.send_realtime realtime)) answers

end Counts

/-! ## Taking up what was read -/

omit [Scalar α] in
/-- Where a line is complete, it is the first of the replies, and the others are still to come. -/
theorem Streams.cut {c : Controller α} {piece outbox : Bytes} {answered : List Bytes}
    (h : Streams c piece outbox answered) {line rest : Bytes}
    (hcut : cutAt? lineEnd (c.partialLine ++ piece) = some (line, rest)) :
    ∃ replies ahead, rest ++ ahead = onWire lineEnd replies ∧
      (∀ reply ∈ line :: replies, IsReply reply) ∧
      ((line :: replies).filter Tracker.isAnswer).length ≤ answered.length ∧
      ∀ port, c.port = some port → ahead = port.incoming.flatten ++ outbox := by
  obtain ⟨replies, ahead, whole, replying, few, fromPort⟩ := h
  have first := cutAt?_append hcut ahead
  rw [whole] at first
  cases replies with
  | nil => cases first
  | cons reply replies =>
    have cut := cutAt?_onWire (replying reply List.mem_cons_self).1 replies
    obtain ⟨rfl, others⟩ := Prod.mk.inj (Option.some.inj (first.symm.trans cut))
    exact ⟨replies, ahead, others, replying, few, fromPort⟩

omit [Scalar α] in
/-- A line that is no answer answers nothing. -/
theorem Streams.passOver {c : Controller α} {piece outbox : Bytes} {answered : List Bytes}
    (h : Streams c piece outbox answered) {line rest : Bytes}
    (hcut : cutAt? lineEnd (c.partialLine ++ piece) = some (line, rest))
    (other : Tracker.isAnswer line.trim = false) :
    Streams { c with partialLine := rest } [] outbox answered := by
  obtain ⟨replies, ahead, whole, replying, few, fromPort⟩ := h.cut hcut
  have noAnswer : ¬ Tracker.isAnswer line = true := by
    rw [← (replying line List.mem_cons_self).2, other]
    exact Bool.false_ne_true
  rw [List.filter_cons_of_neg noAnswer] at few
  refine ⟨replies, ahead, ?_, fun r mem => replying r (List.mem_cons_of_mem _ mem), few, fromPort⟩
  rwa [List.append_nil]

omit [Scalar α] in
/-- An answer is that of the line that was answered first. -/
theorem Streams.takeAnswer {c : Controller α} {piece outbox : Bytes} {answered : List Bytes}
    (h : Streams c piece outbox answered) {line rest : Bytes}
    (hcut : cutAt? lineEnd (c.partialLine ++ piece) = some (line, rest))
    (answers : Tracker.isAnswer line.trim = true) :
    ∃ first others, answered = first :: others ∧
      Streams { c with partialLine := rest } [] outbox others := by
  obtain ⟨replies, ahead, whole, replying, few, fromPort⟩ := h.cut hcut
  have isAnswer : Tracker.isAnswer line = true := by
    rw [← (replying line List.mem_cons_self).2, answers]
  rw [List.filter_cons_of_pos isAnswer, List.length_cons] at few
  cases answered with
  | nil => cases few
  | cons first others =>
    refine ⟨first, others, rfl, replies, ahead, ?_,
      fun r mem => replying r (List.mem_cons_of_mem _ mem), Nat.le_of_succ_le_succ few, fromPort⟩
    rwa [List.append_nil]

/-- Taking up what was read answers at most the line that was answered first. -/
theorem Coupled.accept {t₀ : Tracker α} {lines : List Bytes} {p : Places} {piece : Bytes}
    {c : Controller α} {d : Device} (h : Coupled t₀ lines p piece c d) :
    ∃ p', Coupled t₀ lines p' [] (c.accept piece) d := by
  have accepted := accept_accepted piece c
  have sound := accepted.sound h.sound
  generalize c.accept piece = c' at accepted sound ⊢
  cases accepted with
  | unfinished _ =>
    obtain ⟨replies, ahead, whole, rest⟩ := h.streams
    refine ⟨p, h.lines, sound, h.backlog, h.received, h.counts, h.holds, replies, ahead, ?_, rest⟩
    rwa [List.append_nil]
  | @blank line rest hcut blank =>
    have other : Tracker.isAnswer line.trim = false := by
      rw [blank]
      decide +kernel
    have streams := h.streams.passOver hcut other
    exact ⟨p, h.lines, sound, h.backlog, h.received, h.counts, h.holds, streams⟩
  | @other line rest hcut other =>
    refine ⟨p, h.lines, sound, h.backlog, fun l mem => ?_, h.counts, h.holds,
      h.streams.passOver hcut other⟩
    rcases List.mem_append.1 mem with old | new
    · exact h.received l old
    · rw [List.mem_singleton.1 new, trim_trim]
      exact other
  | @answer line rest hcut answers =>
    obtain ⟨first, others, hanswered, streams⟩ := h.streams.takeAnswer hcut answers
    have trimmed : Tracker.isAnswer line.trim.trim = true := by rw [trim_trim, answers]
    have counts := h.counts.receive_answer trimmed hanswered
    obtain ⟨waiting, typed, inbox, written⟩ := h.holds
    refine ⟨{ p with done := p.done ++ [first], answered := others }, ?_, sound, h.backlog,
      h.received, counts.hush, ⟨waiting, typed, inbox, written⟩, streams⟩
    rw [h.lines, Places.pending, Places.pending, hanswered]
    simp

/-! ## Every deed keeps the invariant -/

@[simp] theorem Device.send_nil (d : Device) : d.send [] = d := by
  simp [Device.send]

theorem Device.send_append (d : Device) (written more : List Bytes) :
    d.send (written ++ more) = (d.send written).send more := by
  simp [Device.send]

section
variable {t₀ : Tracker α} {lines : List Bytes} {p : Places} {c : Controller α} {d : Device}

omit [Scalar α] in
/-- Of the port, it only matters what is ahead of the reader. -/
theorem Streams.of_same {piece outbox : Bytes} {answered : List Bytes}
    (h : Streams c piece outbox answered) {c' : Controller α}
    (partialLine : c'.partialLine = c.partialLine)
    (incoming : ∀ port', c'.port = some port' →
      ∃ port, c.port = some port ∧ port'.incoming = port.incoming) :
    Streams c' piece outbox answered := by
  obtain ⟨replies, ahead, whole, replying, few, fromPort⟩ := h
  refine ⟨replies, ahead, partialLine ▸ whole, replying, few, fun port' hport' => ?_⟩
  obtain ⟨port, hport, same⟩ := incoming port' hport'
  rw [same]
  exact fromPort port hport

/-- A byte of a line that is written is on its way; a realtime byte is picked off. -/
theorem Holds.send_realtime (h : Holds p d) {byte : Bytes} (realtime : isRealtime byte = true) :
    Holds p (d.send [byte]) where
  waiting := h.waiting
  typed := h.typed
  inbox := by
    simp only [Device.send, List.flatten_cons, List.flatten_nil, List.append_nil, buffered_append,
      buffered_realtime realtime]
    exact h.inbox
  lines := h.lines

theorem Holds.send_line (h : Holds p d) {line : Bytes} (isLine : IsLine line) :
    Holds { p with underway := p.underway ++ [line] } (d.send [line]) where
  waiting := h.waiting
  typed := h.typed
  inbox := by
    simp only [Device.send, List.flatten_cons, List.flatten_nil, List.append_nil, buffered_append,
      ← List.append_assoc, h.inbox]
    simp
  lines := by
    intro l mem
    rcases List.mem_append.1 mem with old | new
    · exact h.lines l old
    · rw [List.mem_singleton.1 new]
      exact isLine

omit [Scalar α] in
/-- What is read is no longer ahead. -/
theorem Coupled.read (h : Coupled t₀ lines p [] c d) {chunk : Bytes} {rest : List Bytes}
    {port : Port} (hport : c.port = some port) (incoming : port.incoming = chunk :: rest) :
    Coupled t₀ lines p chunk { c with port := some { port with incoming := rest } } d := by
  obtain ⟨replies, ahead, whole, replying, few, fromPort⟩ := h.streams
  refine ⟨h.lines, h.sound.withPort hport _ rfl, h.backlog, h.received, h.counts, h.holds, replies,
    rest.flatten ++ d.outbox, ?_, replying, few, fun p hp => by cases hp; rfl⟩
  rw [← whole, fromPort port hport, incoming]
  simp

omit [Scalar α] in
/-- Where nothing is written, no line joins and nothing is sent. -/
theorem Coupled.silent (h : Coupled t₀ lines p [] c d) :
    ∃ p', Coupled t₀ (lines ++ ([] : List Bytes).filter (!isRealtime ·)) p' [] c (d.send []) := by
  rw [List.filter_nil, List.append_nil, Device.send_nil]
  exact ⟨p, h⟩

theorem Coupled.does (h : Coupled t₀ lines p [] c d) {c' : Controller α}
    {queued written : List Bytes} (deed : Does c queued written c')
    (queuing : ∀ line ∈ queued, IsLine line) :
    ∃ p', Coupled t₀ (lines ++ written.filter (!isRealtime ·)) p' [] c' (d.send written) := by
  have sound := deed.sound h.sound
  cases deed with
  | aside connection lastQuery thread keeps =>
    exact Coupled.silent ⟨h.lines, sound, h.backlog, h.received, h.counts, h.holds, h.streams⟩
  | @queue command line text =>
    refine Coupled.silent
      ⟨h.lines, sound, fun l mem => ?_, h.received, h.counts, h.holds, h.streams⟩
    rw [backlog_queue] at mem
    rcases List.mem_append.1 mem with old | new
    · exact h.backlog l old
    · exact queuing l new
  | urge realtime =>
    exact Coupled.silent ⟨h.lines, sound, h.backlog, h.received, h.counts, h.holds, h.streams⟩
  | @hear chunk rest port hport incoming =>
    obtain ⟨_, after⟩ := (h.read hport incoming).accept
    exact after.silent
  | settle =>
    obtain ⟨_, after⟩ := h.accept
    exact after.silent
  | @writeByte now byte rest port immediate hport =>
    have realtime := h.sound.urgent byte (by simp [immediate])
    rw [List.filter_cons_of_neg (by simp [realtime]), List.filter_nil, List.append_nil]
    refine ⟨p, h.lines, sound, h.backlog, h.received, ?_, h.holds.send_realtime realtime, ?_⟩
    · exact (h.counts.register_realtime now realtime).hush
    · exact h.streams.of_same rfl fun port' hport' => by cases hport'; exact ⟨port, hport, rfl⟩
  | @writeLine now line left port next fits hport =>
    obtain ⟨taken, frame, -⟩ := nextLine?_eq next
    have notRealtime := (h.sound.next next).1
    have isLine : IsLine line := h.backlog line (by rw [taken]; exact List.mem_cons_self)
    rw [List.filter_cons_of_pos (by simp [notRealtime]), List.filter_nil]
    refine ⟨{ p with underway := p.underway ++ [line] }, ?_, sound, fun l mem => ?_, ?_, ?_,
      h.holds.send_line isLine, ?_⟩
    · rw [h.lines, Places.pending, Places.pending]
      simp
    · exact h.backlog l (taken ▸ List.mem_cons_of_mem _ mem)
    · rw [frame]
      exact h.received
    · exact (h.counts.register_line now notRealtime fits).hush
    · refine h.streams.of_same ?_ fun port' hport' => by cases hport'; exact ⟨port, hport, rfl⟩
      rw [frame]
      rfl
  | @hold line left next overflows pending =>
    obtain ⟨-, frame, -⟩ := nextLine?_eq next
    refine Coupled.silent ⟨h.lines, sound, ?_, ?_, ?_, h.holds, ?_⟩
    · rw [backlog_hold next]
      exact h.backlog
    all_goals rw [frame]
    · exact h.received
    · exact h.counts
    · exact h.streams
  | @drop line left next overflows empty =>
    obtain ⟨taken, frame, -⟩ := nextLine?_eq next
    refine Coupled.silent ⟨h.lines, sound, fun l mem => ?_, ?_, ?_, h.holds, ?_⟩
    · exact h.backlog l (taken ▸ List.mem_cons_of_mem _ mem)
    all_goals rw [frame]
    · exact h.received
    · exact h.counts
    · exact h.streams
  | takeUp =>
    have counts := (h.counts.receiveAll h.received).hush
    exact Coupled.silent ⟨h.lines, sound, h.backlog,
      fun l mem => absurd mem List.not_mem_nil, counts, h.holds, h.streams⟩
  | play now =>
    obtain ⟨ledger, answers⟩ := Tracker.update_account now c.tracker
    have counts := (h.counts.of_same ledger answers).hush
    exact Coupled.silent ⟨h.lines, sound, h.backlog, h.received, counts, h.holds, h.streams⟩
  | @close port hport =>
    refine Coupled.silent ⟨h.lines, sound, h.backlog, h.received, h.counts, h.holds, ?_⟩
    refine h.streams.of_same rfl fun port' hport' => ⟨port, hport, ?_⟩
    cases hport'
    simp
  | lose away nothing =>
    refine Coupled.silent ⟨h.lines, sound, h.backlog, h.received, h.counts, h.holds, ?_⟩
    exact h.streams.of_same rfl fun port' hport' => by cases hport'

theorem Coupled.runs (h : Coupled t₀ lines p [] c d) {c' : Controller α}
    {queued written : List Bytes} (runs : Runs c queued written c')
    (queuing : ∀ line ∈ queued, IsLine line) :
    ∃ p', Coupled t₀ (lines ++ written.filter (!isRealtime ·)) p' [] c' (d.send written) := by
  induction runs with
  | refl => exact ⟨p, by simpa using h⟩
  | step _ last ih =>
    obtain ⟨p', before⟩ := ih fun l mem => queuing l (List.mem_append_left _ mem)
    obtain ⟨p'', after⟩ := before.does last fun l mem => queuing l (List.mem_append_right _ mem)
    refine ⟨p'', ?_⟩
    rw [List.filter_append, ← List.append_assoc, Device.send_append]
    exact after

/-! ## So does every step of the machine -/

omit [Scalar α] in
theorem Counts.of_places {t : Tracker α} (h : Counts t₀ p t) {p' : Places} (done : p'.done = p.done)
    (pending : p'.pending = p.pending) : Counts t₀ p' t where
  capacity := h.capacity
  balanced := h.balanced
  room := h.room
  pending := by rw [pending, h.pending]
  desynchronised := h.desynchronised
  answers := by rw [done, h.answers]

/-- A byte that is taken moves nothing, or the first line underway to those received. -/
theorem Holds.take (h : Holds p d) :
    ∃ p', Holds p' d.take ∧
      p'.done = p.done ∧ p'.answered = p.answered ∧ p'.pending = p.pending := by
  obtain ⟨waiting, typed, inbox, written⟩ := h
  simp only [Device.take]
  split
  next => exact ⟨p, ⟨waiting, typed, inbox, written⟩, rfl, rfl, rfl⟩
  next b rest hinbox =>
    rw [hinbox, buffered] at inbox
    split
    next realtime =>
      rw [List.filter_cons_of_neg (by simp [realtime])] at inbox
      exact ⟨p, ⟨waiting, typed, inbox, written⟩, rfl, rfl, rfl⟩
    next text =>
      rw [List.filter_cons_of_pos (by simp [text])] at inbox
      split
      next breaks =>
        -- only the newline of the first line underway breaks a line
        cases hunderway : p.underway with
        | nil =>
          rw [hunderway] at inbox
          cases (List.append_eq_nil_iff.1 inbox).2
        | cons line others =>
          rw [hunderway] at inbox written
          obtain ⟨text, unbroken, hline⟩ := (written line List.mem_cons_self).buffered
          rw [List.map_cons, List.flatten_cons, hline] at inbox
          obtain ⟨rfl, rfl, tails⟩ := eq_of_break typed unbroken breaks inbox
          refine ⟨{ p with received := p.received ++ [line], underway := others }, ⟨?_, .nil, tails,
            fun l mem => written l (List.mem_cons_of_mem _ mem)⟩, rfl, rfl, ?_⟩
          · rw [List.map_append, List.map_singleton, hline, waiting]
            rfl
          · simp [Places.pending, hunderway]
      next unbroken =>
        refine ⟨p, ⟨waiting, ?_, ?_, written⟩, rfl, rfl, rfl⟩
        · exact typed.append (List.forall_mem_singleton.2 (Bool.eq_false_iff.2 unbroken))
        · rw [← inbox, List.append_assoc]
          rfl

omit [Scalar α] in
/-- One more line is said. -/
theorem Streams.emit {piece outbox : Bytes} {answered answered' : List Bytes}
    (h : Streams c piece outbox answered) {line : Bytes} (reply : IsReply line)
    (enough : answered.length + ([line].filter Tracker.isAnswer).length ≤ answered'.length) :
    Streams c piece (outbox ++ line ++ lineEnd) answered' := by
  obtain ⟨replies, ahead, whole, replying, few, fromPort⟩ := h
  refine ⟨replies ++ [line], ahead ++ line ++ lineEnd, ?_, fun r mem => ?_, ?_,
    fun port hport => ?_⟩
  · rw [onWire_append, ← whole]
    simp
  · rcases List.mem_append.1 mem with old | new
    · exact replying r old
    · rw [List.mem_singleton.1 new]
      exact reply
  · rw [List.filter_append, List.length_append]
    omega
  · rw [fromPort port hport]
    simp

omit [Scalar α] in
/-- What comes in is no longer on the way. -/
theorem Streams.deliver {piece outbox : Bytes} {answered : List Bytes}
    (h : Streams c piece outbox answered) (count : Nat) :
    Streams { c with port := c.port.map (·.receive [outbox.take count]) } piece (outbox.drop count)
      answered := by
  obtain ⟨replies, ahead, whole, replying, few, fromPort⟩ := h
  refine ⟨replies, ahead, whole, replying, few, fun port' hport' => ?_⟩
  obtain ⟨port, hport, rfl⟩ := Option.map_eq_some_iff.1 hport'
  rw [fromPort port hport]
  simp [Port.receive]

omit [Scalar α] in
theorem Coupled.take (h : Coupled t₀ lines p [] c d) : ∃ p', Coupled t₀ lines p' [] c d.take := by
  obtain ⟨p', holds, done, answered, pending⟩ := h.holds.take
  have outbox : d.take.outbox = d.outbox := by
    simp only [Device.take]
    split
    next => rfl
    next =>
      split
      next => rfl
      next => split <;> rfl
  refine ⟨p', ?_, h.sound, h.backlog, h.received, h.counts.of_places done pending, holds, ?_⟩
  · rw [h.lines, done, pending]
  · rw [outbox, answered]
    exact h.streams

omit [Scalar α] in
theorem Coupled.answer (h : Coupled t₀ lines p [] c d) {line : Bytes}
    (answers : Tracker.isAnswer line = true) (whole : lineFeed ∉ line) :
    ∃ p', Coupled t₀ lines p' [] c (d.answer line) := by
  obtain ⟨waiting, typed, inbox, written⟩ := h.holds
  simp only [Device.answer]
  split
  next => exact ⟨p, h⟩
  next first rest hwaiting =>
    rw [hwaiting] at waiting
    obtain ⟨oldest, others, hreceived, -, hrest⟩ := List.map_eq_cons_iff.1 waiting.symm
    have moved : Places.pending { p with answered := p.answered ++ [oldest], received := others } =
        p.pending := by
      simp [Places.pending, hreceived]
    refine ⟨{ p with answered := p.answered ++ [oldest], received := others }, ?_, h.sound,
      h.backlog, h.received, h.counts.of_places rfl moved, ⟨hrest.symm, typed, inbox, written⟩, ?_⟩
    · rw [moved]
      exact h.lines
    · exact h.streams.emit (isReply_answer answers whole) (by simp [answers])

omit [Scalar α] in
theorem Coupled.emit (h : Coupled t₀ lines p [] c d) {line : Bytes} (report : isReport line = true)
    (whole : lineFeed ∉ line) : Coupled t₀ lines p [] c (d.emit line) := by
  obtain ⟨noAnswer, reply⟩ := isReply_report report whole
  obtain ⟨waiting, typed, inbox, written⟩ := h.holds
  refine ⟨h.lines, h.sound, h.backlog, h.received, h.counts, ⟨waiting, typed, inbox, written⟩, ?_⟩
  exact h.streams.emit reply (by simp [noAnswer])

omit [Scalar α] in
theorem Coupled.carryAway (h : Coupled t₀ lines p [] c d) :
    Coupled t₀ lines p [] c.carryAway d := by
  refine ⟨h.lines, h.sound.mapPort _ fun _ => rfl, h.backlog, h.received, h.counts, h.holds, ?_⟩
  refine h.streams.of_same rfl fun port' hport' => ?_
  obtain ⟨port, hport, rfl⟩ := Option.map_eq_some_iff.1 hport'
  exact ⟨port, hport, rfl⟩

omit [Scalar α] in
theorem Coupled.deliver (h : Coupled t₀ lines p [] c d) (count : Nat) :
    Coupled t₀ lines p [] { c with port := c.port.map (·.receive [d.outbox.take count]) }
      { d with outbox := d.outbox.drop count } := by
  obtain ⟨waiting, typed, inbox, written⟩ := h.holds
  exact ⟨h.lines, h.sound.mapPort _ fun _ => rfl, h.backlog, h.received, h.counts,
    ⟨waiting, typed, inbox, written⟩, h.streams.deliver count⟩

/-! ## The whole bench -/

omit [Scalar α] in
/-- A regular call queues lines. -/
theorem Call.isLine_of_regular {call : Call α} (regular : (Happening.call call).Regular)
    (feed : Amount) : ∀ line ∈ call.lines feed, IsLine line := by
  have ofText : ∀ {command : Bytes}, Unbroken command.trim →
      ∀ line ∈ lineOf? command, IsLine line := by
    intro command unbroken line mem
    simp only [lineOf?] at mem
    split at mem
    · cases mem
    · cases mem
      exact ⟨command.trim, unbroken, rfl⟩
  intro line mem
  rw [Call.lines, Option.mem_toList, Option.bind_eq_some_iff] at mem
  obtain ⟨command, sent, queued⟩ := mem
  refine ofText ?_ line queued
  cases call with
  | send text =>
    cases sent
    exact regular
  | jog j =>
    cases sent
    exact (unbroken_jog _ (by decide +kernel)).trim
  | jogAbsolute j =>
    cases sent
    exact (unbroken_jog _ (by decide +kernel)).trim
  | cancelJog => cases sent
  | pass now => cases sent
  | update now => cases sent

/-- What was written has been carried away, and controller and machine are coupled. -/
def Bench.Steady (t₀ : Tracker α) (b : Bench α) : Prop :=
  b.station.controller.outgoing = [] ∧
    ∃ p, Coupled t₀ b.lines p [] b.station.controller b.device

/-- Whatever happens next, they stay coupled. -/
theorem Bench.Steady.step {b : Bench α} (h : b.Steady t₀) {happening : Happening α}
    (regular : happening.Regular) : (b.step happening).Steady t₀ := by
  obtain ⟨carried, p, coupled⟩ := h
  cases happening with
  | call asked =>
    obtain ⟨written, runs⟩ := asked.runs coupled.sound carried
    obtain ⟨p', after⟩ := coupled.runs runs (Call.isLine_of_regular regular _)
    have outgoing : (asked.apply b.station).controller.outgoing = written := by
      rw [runs.outgoing, carried, List.nil_append]
    refine ⟨outgoing_carryAway _, p', ?_⟩
    simp only [Bench.step, Station.mapController, outgoing]
    exact after.carryAway
  | take =>
    obtain ⟨p', after⟩ := coupled.take
    exact ⟨carried, p', after⟩
  | answer line =>
    obtain ⟨p', after⟩ := coupled.answer regular.1 regular.2
    exact ⟨carried, p', after⟩
  | emit line => exact ⟨carried, p, coupled.emit regular.1 regular.2⟩
  | deliver count =>
    have same := outgoing_mapPort b.station.controller
      (·.receive [b.device.outbox.take count]) fun _ => rfl
    exact ⟨same.trans carried, p, coupled.deliver count⟩

/-- So they do over a whole history. -/
theorem Bench.Steady.run {b : Bench α} (h : b.Steady t₀) {history : List (Happening α)}
    (regular : ∀ happening ∈ history, happening.Regular) : (b.run history).Steady t₀ := by
  induction history generalizing b with
  | nil => exact h
  | cons happening rest ih =>
    have first := h.step (regular happening List.mem_cons_self)
    exact ih first fun later mem => regular later (List.mem_cons_of_mem _ mem)

omit [Scalar α] in
/-- What the machine holds is counted. -/
theorem Coupled.held_le (h : Coupled t₀ lines p [] c d) :
    (d.held : Int) ≤ c.tracker.ledger.total := by
  have total : c.tracker.ledger.total = (c.tracker.ledger.pending.sum : Nat) := h.counts.balanced
  have fewer : ∀ lines : List Bytes,
      ((lines.map buffered).map List.length).sum ≤ (lines.map List.length).sum := by
    intro lines
    induction lines with
    | nil => exact Nat.le_refl 0
    | cons line rest ih =>
      simp only [List.map_cons, List.sum_cons]
      exact Nat.add_le_add (length_buffered line) ih
  have waiting := fewer p.received
  have underway := fewer p.underway
  have typed : d.typed.length ≤ ((p.underway.map buffered).map List.length).sum := by
    rw [← List.length_flatten, ← h.holds.inbox, List.length_append]
    exact Nat.le_add_right _ _
  rw [total, h.counts.pending, Device.held, h.holds.waiting]
  simp only [Places.pending, List.map_append, List.sum_append]
  omega

end

omit [Scalar α] in
/-- Connected, with an empty ledger and no soft reset queued, beside an idle machine which has said
nothing but reports. -/
structure Quiet (s : Station α) (outbox : Bytes) : Prop where
  connected : s.controller.status = .connected
  port : ∃ port reports, s.controller.port = some port ∧ port.writeFault = none ∧
    port.incoming.flatten ++ outbox = onWire lineEnd reports ∧
    ∀ report ∈ reports, isReport report = true ∧ lineFeed ∉ report
  partialLine : s.controller.partialLine = []
  immediate : ∀ byte ∈ s.controller.immediate, isRealtime byte = true
  backlog : ∀ line ∈ s.controller.backlog, IsLine line
  /-- Answers are taken up as they are read (`Accepted`), so none of them waits. -/
  received : ∀ line ∈ s.controller.received, Tracker.isAnswer line.trim = false
  capacity : s.controller.tracker.ledger.capacity = receiveBufferSize
  pending : s.controller.tracker.ledger.pending = []
  total : s.controller.tracker.ledger.total = 0

omit [Scalar α] in
theorem Quiet.steady {s : Station α} {outbox : Bytes} (quiet : Quiet s outbox) :
    (Bench.start s outbox).Steady s.controller.tracker := by
  obtain ⟨port, reports, hport, unjammed, said, isReport⟩ := quiet.port
  have sound : Sound s.controller := by
    refine ⟨.inl ⟨quiet.connected, by rw [hport]; rfl⟩, fun p hp => ?_, quiet.immediate,
      fun l mem => ?_⟩
    · cases hport.symm.trans hp
      exact unjammed
    · obtain ⟨text, -, rfl⟩ := quiet.backlog l mem
      exact isRealtime_line text
  have counts : Counts s.controller.tracker ⟨[], [], [], []⟩ s.controller.tracker := by
    refine ⟨quiet.capacity, ?_, ?_, quiet.pending, rfl, rfl⟩
    · simp [Ledger.Balanced, quiet.pending, quiet.total]
    · rw [quiet.total]
      decide
  have holds : Holds ⟨[], [], [], []⟩ { outbox : Device } :=
    ⟨rfl, .nil, rfl, fun l mem => absurd mem List.not_mem_nil⟩
  have noAnswers : reports.filter Tracker.isAnswer = [] := by
    refine List.filter_eq_nil_iff.2 fun r mem => ?_
    rw [(isReply_report (isReport r mem).1 (isReport r mem).2).1]
    exact Bool.false_ne_true
  have streams : Streams s.controller [] outbox [] := by
    refine ⟨reports, port.incoming.flatten ++ outbox, ?_, fun r mem => ?_, ?_,
      fun port' hport' => ?_⟩
    · rw [quiet.partialLine]
      exact said
    · exact (isReply_report (isReport r mem).1 (isReport r mem).2).2
    · exact Nat.le_of_eq (congrArg List.length noAnswers)
    · cases hport.symm.trans hport'
      rfl
  have coupled : Coupled s.controller.tracker [] ⟨[], [], [], []⟩ [] s.controller { outbox } :=
    ⟨rfl, sound, quiet.backlog, quiet.received, counts, holds, streams⟩
  exact ⟨outgoing_carryAway _, _, coupled.carryAway⟩

/-- Counting characters keeps the machine's buffer from running over: what the machine holds is
counted, less than the buffer's size is counted, what is counted are the lines whose answer has not
been taken up, and no answer comes while nothing is pending. -/
theorem flow_control_safe {s : Station α} {outbox : Bytes} (quiet : Quiet s outbox)
    {history : List (Happening α)} (regular : ∀ happening ∈ history, happening.Regular) :
    let b := (Bench.start s outbox).run history
    let t := b.station.controller.tracker
    (b.device.held : Int) ≤ t.ledger.total ∧
      t.ledger.total ≤ 127 ∧
      t.ledger.pending =
        (b.lines.drop (t.answers - s.controller.tracker.answers)).map List.length ∧
      t.ledger.desynchronised = s.controller.tracker.ledger.desynchronised := by
  intro b t
  have steady : b.Steady s.controller.tracker := quiet.steady.run regular
  obtain ⟨-, p, coupled⟩ := steady
  have counts := coupled.counts
  refine ⟨coupled.held_le, Int.le_of_lt_add_one counts.room, ?_, counts.desynchronised⟩
  have answered : t.answers - s.controller.tracker.answers = p.done.length := by
    rw [counts.answers]
    omega
  rw [counts.pending, answered, coupled.lines, List.drop_left]

/-- A welcome that comes in two pieces, a line, a jog, and their answers. -/
theorem flow_control_safe_welcome :
    let port : Port := { incoming := [ofText "Gr"] }
    let s := connectedStation.mapController ({ · with port := some port })
    let outbox := ofText "bl 1.1h\r\n"
    let history : List (Happening Float) :=
      [.deliver 4, .call (.send (ofText " G1 X1 ")), .call (.jog { x := some (.whole 5) }),
        .call (.pass 0), .take, .take, .emit (ofText "<Run>"), .deliver 7] ++
      List.replicate 30 .take ++ [.answer (ofText "ok"), .call (.pass 1), .deliver 3, .deliver 30,
        .call .cancelJog, .call (.pass 2), .call (.update 2), .answer (ofText "error:9")]
    let b := (Bench.start s outbox).run history
    let t := b.station.controller.tracker
    Quiet s outbox ∧ (∀ happening ∈ history, happening.Regular) ∧
      (b.device.held : Int) ≤ t.ledger.total ∧ t.ledger.total ≤ 127 := by
  intro port s outbox history b t
  have quiet : Quiet s outbox := by
    have said : ∃ reports, port.incoming.flatten ++ outbox = onWire lineEnd reports ∧
        ∀ report ∈ reports, isReport report = true ∧ lineFeed ∉ report :=
      ⟨[ofText "Grbl 1.1h"], by decide +kernel⟩
    obtain ⟨reports, said⟩ := said
    exact ⟨rfl, ⟨port, reports, rfl, rfl, said⟩, rfl, nofun, nofun, nofun, rfl, rfl, rfl⟩
  have regular : ∀ happening ∈ history, happening.Regular := by decide +kernel
  obtain ⟨held, total, -⟩ := flow_control_safe quiet regular
  exact ⟨quiet, regular, held, total⟩

end GcodeSender.Link
