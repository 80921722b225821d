/-
# `GcodeSender.Proofs.Link.Deeds` — all that a connected controller can do

A pass over the port and a step of the event loop are long; what they consist
of is a dozen kinds of deeds.  A deed is labelled with the lines that were
queued by it and with what it wrote.

    deed        queued   written   what happens
    aside       –        –         announcements, the clock, the thread
    queue       a line   –         the line joins `streaming`
    urge        –        –         a realtime byte joins `immediate`
    hear        –        –         a chunk is read and taken up
    settle      –        –         a line that is already there is taken up
    writeByte   –        a byte    written, and the tracker told
    writeLine   –        a line    the same
    hold        –        –         the line does not fit now
    drop        –        –         the line would never fit
    takeUp      –        –         the tracker is handed the lines that waited
    play        –        –         simulated motion
    close       –        –         the port is asked to close
    lose        –        –         the port is given back

`Runs` is a sequence of deeds, its labels one behind the other.  `pass_runs` and
`update_runs` say that a pass and a step of the event loop are such sequences,
for a controller that is `Sound`: connected or on its way down, with a port that
takes what is written, and with each queue holding what belongs there.  So a
property of all exchanges is proved once for each deed.
-/
import GcodeSender.Link.Lifecycle
import GcodeSender.Proofs.Tracker.Account

namespace GcodeSender

open Scalar Gcode

variable {α : Type} [Scalar α]

omit [Scalar α] in
/-- The tracker with its notices taken away. -/
def Tracker.hushed (t : Tracker α) : Tracker α := t.mapMachine fun m => { m with journal := [] }

namespace Link

namespace Port

/-! ## Closing a port -/

@[simp] theorem close_incoming (p : Port) : p.close.incoming = p.incoming := by
  rw [close]
  split <;> rfl

@[simp] theorem close_written (p : Port) : p.close.written = p.written := by
  rw [close]
  split <;> rfl

@[simp] theorem close_writeFault (p : Port) : p.close.writeFault = p.writeFault := by
  rw [close]
  split <;> rfl

end Port

namespace Controller

/-! ## What is asked of a controller -/

omit [Scalar α] in
/-- The lines that wait to be written, the next one first. -/
def backlog (c : Controller α) : List Bytes := c.heldBack.toList ++ c.streaming

omit [Scalar α] in
/-- What was written and not carried away. -/
def outgoing (c : Controller α) : List Bytes := (c.port.map (·.written)).getD []

omit [Scalar α] in
/-- Connected, or on the way down from there. -/
def Settled (c : Controller α) : Prop :=
  (c.status = .connected ∧ c.port.isSome = true) ∨ c.status = .fail ∨
    (c.desired = .notConnected ∧
      (c.status = .cleanup ∨ c.status = .disconnecting ∨ c.status = .notConnected))

omit [Scalar α] in
/-- Connected or on the way down, with a port that takes what is written; realtime bytes are in
the one queue, lines in the other. -/
structure Sound (c : Controller α) : Prop where
  settled : c.Settled
  unjammed : ∀ port, c.port = some port → port.writeFault = none
  urgent : ∀ byte ∈ c.immediate, isRealtime byte = true
  lines : ∀ line ∈ c.backlog, isRealtime line = false

/-! ## Deeds -/

/-- All that taking up a piece can come to. -/
inductive Accepted (piece : Bytes) (c : Controller α) : Controller α → Prop
  | unfinished : Bytes.cutAt? lineEnd (c.partialLine ++ piece) = none →
      Accepted piece c { c with partialLine := c.partialLine ++ piece }
  | blank {line rest : Bytes} :
      Bytes.cutAt? lineEnd (c.partialLine ++ piece) = some (line, rest) → line.trim = [] →
      Accepted piece c { c with partialLine := rest }
  | answer {line rest : Bytes} :
      Bytes.cutAt? lineEnd (c.partialLine ++ piece) = some (line, rest) →
      Tracker.isAnswer line.trim = true →
      Accepted piece c ({ c with partialLine := rest }.adopt (c.tracker.receive line.trim))
  | other {line rest : Bytes} :
      Bytes.cutAt? lineEnd (c.partialLine ++ piece) = some (line, rest) →
      Tracker.isAnswer line.trim = false →
      Accepted piece c { c with partialLine := rest, received := c.received ++ [line.trim] }

theorem accept_accepted (piece : Bytes) (c : Controller α) : Accepted piece c (c.accept piece) := by
  simp only [accept]
  split
  next cut => exact .unfinished cut
  next line rest cut =>
    simp only [takeLine]
    split
    next blank => exact .blank cut (List.isEmpty_iff.1 blank)
    next =>
      split
      next answers => exact .answer cut answers
      next other => exact .other cut (Bool.eq_false_iff.2 other)

/-- One deed: the lines queued, what was written, and the controller afterwards. -/
inductive Does (c : Controller α) : List Bytes → List Bytes → Controller α → Prop
  | aside (connection : Connection α) (lastQuery : α) (thread : Bool) :
      (c.Settled → Settled { c with connection, lastQuery, thread }) →
      Does c [] [] { c with connection, lastQuery, thread }
  | queue {command : Bytes} : isRealtime command = false → command.trim ≠ [] →
      Does c [command.trim ++ newline] []
        { c with streaming := c.streaming ++ [command.trim ++ newline] }
  | urge {byte : Bytes} : isRealtime byte = true →
      Does c [] [] { c with immediate := c.immediate ++ [byte] }
  | hear {chunk : Bytes} {rest : List Bytes} {port : Port} : c.port = some port →
      port.incoming = chunk :: rest →
      Does c [] [] ({ c with port := some { port with incoming := rest } }.accept chunk)
  | settle : Does c [] [] (c.accept [])
  | writeByte (now : α) {byte : Bytes} {rest : List Bytes} {port : Port} :
      c.immediate = byte :: rest → c.port = some port →
      Does c [] [byte]
        ({ c with
            immediate := rest
            port := some { port with written := port.written ++ [byte] } }.adopt
          (c.tracker.register now byte).state)
  | writeLine (now : α) {line : Bytes} {left : Controller α} {port : Port} :
      c.nextLine? = some (line, left) → c.tracker.wouldOverflow line = false →
      c.port = some port →
      Does c [] [line]
        ({ left with port := some { port with written := port.written ++ [line] } }.adopt
          (c.tracker.register now line).state)
  | hold {line : Bytes} {left : Controller α} : c.nextLine? = some (line, left) →
      c.tracker.wouldOverflow line = true → c.tracker.ledger.pending ≠ [] →
      Does c [] [] { left with heldBack := some line }
  | drop {line : Bytes} {left : Controller α} : c.nextLine? = some (line, left) →
      c.tracker.wouldOverflow line = true → c.tracker.ledger.pending = [] → Does c [] [] left
  | takeUp : Does c [] [] c.takeReceived
  | play (now : α) : Does c [] [] (c.adopt (c.tracker.update now).state)
  | close {port : Port} : c.port = some port → Does c [] [] { c with port := some port.close }
  | lose : c.status ≠ .connected → c.outgoing = [] → Does c [] [] { c with port := none }

/-- Deeds one after another. -/
inductive Runs : Controller α → List Bytes → List Bytes → Controller α → Prop
  | refl (c : Controller α) : Runs c [] [] c
  | step {c c' c'' : Controller α} {queued queued' written written' : List Bytes} :
      Runs c queued written c' → Does c' queued' written' c'' →
      Runs c (queued ++ queued') (written ++ written') c''

theorem Does.runs {c c' : Controller α} {queued written : List Bytes}
    (h : Does c queued written c') : Runs c queued written c' := .step (.refl c) h

theorem Runs.trans {c c' c'' : Controller α} {queued queued' written written' : List Bytes}
    (h : Runs c queued written c') (h' : Runs c' queued' written' c'') :
    Runs c (queued ++ queued') (written ++ written') c'' := by
  induction h' with
  | refl => simpa using h
  | step _ last ih =>
    rw [← List.append_assoc, ← List.append_assoc]
    exact .step ih last

/-! ## What deeds keep -/

omit [Scalar α] in
theorem nextLine?_eq {c left : Controller α} {line : Bytes} (h : c.nextLine? = some (line, left)) :
    c.backlog = line :: left.backlog ∧
      left = { c with heldBack := left.heldBack, streaming := left.streaming } ∧
      left.heldBack = none := by
  simp only [nextLine?] at h
  split at h
  next held hheld =>
    cases h
    exact ⟨by simp [backlog, hheld], rfl, rfl⟩
  next hheld =>
    split at h
    next => cases h
    next first rest hstreaming =>
      cases h
      refine ⟨by simp [backlog, hheld, hstreaming], ?_, hheld⟩
      rfl

omit [Scalar α] in
theorem backlog_queue (c : Controller α) (line : Bytes) :
    backlog { c with streaming := c.streaming ++ [line] } = c.backlog ++ [line] := by
  simp [backlog]

omit [Scalar α] in
theorem backlog_hold {c left : Controller α} {line : Bytes} (h : c.nextLine? = some (line, left)) :
    backlog { left with heldBack := some line } = c.backlog := by
  obtain ⟨taken, -, empty⟩ := nextLine?_eq h
  rw [taken]
  simp [backlog, empty]

theorem isRealtime_line (text : Bytes) : isRealtime (text ++ newline) = false := by
  cases text with
  | nil => decide
  | cons b rest => simp [isRealtime, newline]

/-- What is taken up leaves the port, the status and everything that is to be written alone. -/
theorem Accepted.sound {piece : Bytes} {c c' : Controller α} (h : Accepted piece c c')
    (sound : Sound c) : Sound c' := by
  cases h with
  | unfinished _ => exact ⟨sound.settled, sound.unjammed, sound.urgent, sound.lines⟩
  | blank _ _ => exact ⟨sound.settled, sound.unjammed, sound.urgent, sound.lines⟩
  | answer _ _ => exact ⟨sound.settled, sound.unjammed, sound.urgent, sound.lines⟩
  | other _ _ => exact ⟨sound.settled, sound.unjammed, sound.urgent, sound.lines⟩

theorem Accepted.port {piece : Bytes} {c c' : Controller α} (h : Accepted piece c c') :
    c'.port = c.port := by
  cases h <;> rfl

theorem Accepted.jogFeed {piece : Bytes} {c c' : Controller α} (h : Accepted piece c c') :
    c'.jogFeed = c.jogFeed := by
  cases h <;> rfl

theorem Accepted.outgoing {piece : Bytes} {c c' : Controller α} (h : Accepted piece c c') :
    c'.outgoing = c.outgoing := by
  rw [Controller.outgoing, h.port, Controller.outgoing]

omit [Scalar α] in
/-- Of the port, it only counts that it is there. -/
theorem Settled.withPort {c : Controller α} (h : c.Settled) (port : Port) :
    Settled { c with port := some port } := by
  rcases h with ⟨connected, -⟩ | rest
  · exact .inl ⟨connected, rfl⟩
  · exact .inr rest

omit [Scalar α] in
/-- Where the connection is down already, the port may go. -/
theorem Settled.lose {c : Controller α} (h : c.Settled) (away : c.status ≠ .connected) :
    Settled { c with port := none } := by
  rcases h with ⟨connected, -⟩ | rest
  · exact absurd connected away
  · exact .inr rest

omit [Scalar α] in
theorem Sound.withPort {c : Controller α} (sound : Sound c) {port : Port}
    (hport : c.port = some port) (port' : Port) (same : port'.writeFault = port.writeFault) :
    Sound { c with port := some port' } where
  settled := sound.settled.withPort port'
  unjammed p hp := by
    cases hp
    exact same.trans (sound.unjammed port hport)
  urgent := sound.urgent
  lines := sound.lines

omit [Scalar α] in
/-- The line that is next leaves the backlog. -/
theorem Sound.next {c left : Controller α} {line : Bytes} (sound : Sound c)
    (h : c.nextLine? = some (line, left)) : isRealtime line = false ∧ Sound left := by
  obtain ⟨backlog, frame, -⟩ := nextLine?_eq h
  have lines : ∀ l ∈ line :: left.backlog, isRealtime l = false := backlog ▸ sound.lines
  refine ⟨lines line (List.mem_cons_self), ?_⟩
  rw [frame]
  refine ⟨sound.settled, sound.unjammed, sound.urgent, fun l mem => lines l ?_⟩
  exact List.mem_cons_of_mem _ mem

omit [Scalar α] in
theorem Sound.adopt {c : Controller α} (sound : Sound c) (t : Tracker α) : Sound (c.adopt t) :=
  ⟨sound.settled, sound.unjammed, sound.urgent, sound.lines⟩

/-- A sound controller stays sound. -/
theorem Does.sound {c c' : Controller α} {queued written : List Bytes}
    (h : Does c queued written c') (sound : Sound c) : Sound c' := by
  cases h with
  | aside connection lastQuery thread keeps =>
    exact ⟨keeps sound.settled, sound.unjammed, sound.urgent, sound.lines⟩
  | @queue command line text =>
    refine ⟨sound.settled, sound.unjammed, sound.urgent, fun l mem => ?_⟩
    rw [backlog_queue] at mem
    rcases List.mem_append.1 mem with old | new
    · exact sound.lines l old
    · rw [List.mem_singleton.1 new]
      exact isRealtime_line _
  | urge realtime =>
    refine ⟨sound.settled, sound.unjammed, fun b mem => ?_, sound.lines⟩
    rcases List.mem_append.1 mem with old | new
    · exact sound.urgent b old
    · rwa [List.mem_singleton.1 new]
  | @hear chunk rest port hport _ =>
    have read := sound.withPort hport { port with incoming := rest } rfl
    exact (accept_accepted chunk _).sound read
  | settle => exact (accept_accepted [] c).sound sound
  | @writeByte now byte rest port immediate hport =>
    have popped : Sound { c with immediate := rest } := by
      refine ⟨sound.settled, sound.unjammed, fun b mem => sound.urgent b ?_, sound.lines⟩
      rw [immediate]
      exact List.mem_cons_of_mem _ mem
    have written := popped.withPort hport
      { port with written := port.written ++ [byte] } rfl
    exact written.adopt _
  | @writeLine now line left port next fits hport =>
    have hport' : left.port = some port := by
      rw [(nextLine?_eq next).2.1]
      exact hport
    have written := (sound.next next).2.withPort hport'
      { port with written := port.written ++ [line] } rfl
    exact written.adopt _
  | hold next overflows pending =>
    have left := (sound.next next).2
    refine ⟨left.settled, left.unjammed, left.urgent, fun l mem => sound.lines l ?_⟩
    rwa [backlog_hold next] at mem
  | drop next _ _ => exact (sound.next next).2
  | takeUp => exact ⟨sound.settled, sound.unjammed, sound.urgent, sound.lines⟩
  | play now => exact sound.adopt _
  | @close port hport => exact sound.withPort hport port.close port.close_writeFault
  | lose away _ =>
    refine ⟨sound.settled.lose away, fun port gone => ?_, sound.urgent, sound.lines⟩
    cases gone

theorem Runs.sound {c c' : Controller α} {queued written : List Bytes}
    (h : Runs c queued written c') (sound : Sound c) : Sound c' := by
  induction h with
  | refl => exact sound
  | step _ last ih => exact last.sound ih

/-- What is written is put behind what was written before. -/
theorem Does.outgoing {c c' : Controller α} {queued written : List Bytes}
    (h : Does c queued written c') : c'.outgoing = c.outgoing ++ written := by
  cases h with
  | hear hport _ => rw [(accept_accepted _ _).outgoing]; simp [Controller.outgoing, hport]
  | settle => rw [(accept_accepted _ _).outgoing, List.append_nil]
  | writeByte _ _ hport => simp [Controller.outgoing, adopt, hport]
  | writeLine _ _ _ hport => simp [Controller.outgoing, adopt, hport]
  | hold next _ _ =>
    rw [(nextLine?_eq next).2.1]
    exact (List.append_nil _).symm
  | drop next _ _ =>
    rw [(nextLine?_eq next).2.1]
    exact (List.append_nil _).symm
  | close hport => simp [Controller.outgoing, hport]
  | lose _ nothing => simpa [Controller.outgoing] using nothing
  | aside | queue | urge | takeUp | play => exact (List.append_nil _).symm

/-- The feed of a jog that names none is not touched. -/
theorem Does.jogFeed {c c' : Controller α} {queued written : List Bytes}
    (h : Does c queued written c') : c'.jogFeed = c.jogFeed := by
  cases h with
  | hear _ _ => exact (accept_accepted _ _).jogFeed
  | settle => exact (accept_accepted _ _).jogFeed
  | writeLine _ next _ _ => rw [(nextLine?_eq next).2.1]; rfl
  | hold next _ _ => rw [(nextLine?_eq next).2.1]
  | drop next _ _ => rw [(nextLine?_eq next).2.1]
  | _ => rfl

theorem Runs.jogFeed {c c' : Controller α} {queued written : List Bytes}
    (h : Runs c queued written c') : c'.jogFeed = c.jogFeed := by
  induction h with
  | refl => rfl
  | step _ last ih => exact last.jogFeed.trans ih

theorem Runs.outgoing {c c' : Controller α} {queued written : List Bytes}
    (h : Runs c queued written c') : c'.outgoing = c.outgoing ++ written := by
  induction h with
  | refl => simp
  | step _ last ih => rw [last.outgoing, ih, List.append_assoc]

/-! ## The other end of the port -/

omit [Scalar α] in
/-- What was written is carried away. -/
def carryAway (c : Controller α) : Controller α :=
  { c with port := c.port.map ({ · with written := [] }) }

omit [Scalar α] in
theorem outgoing_mapPort (c : Controller α) (f : Port → Port)
    (same : ∀ port, (f port).written = port.written) :
    outgoing { c with port := c.port.map f } = c.outgoing := by
  cases hport : c.port <;> simp [outgoing, hport, same]

omit [Scalar α] in
@[simp] theorem outgoing_carryAway (c : Controller α) : c.carryAway.outgoing = [] := by
  cases hport : c.port <;> simp [outgoing, carryAway, hport]

omit [Scalar α] in
theorem Sound.mapPort {c : Controller α} (sound : Sound c) (f : Port → Port)
    (same : ∀ port, (f port).writeFault = port.writeFault) :
    Sound { c with port := c.port.map f } := by
  cases hport : c.port with
  | none =>
    have unchanged : { c with port := Option.map f none } = c := by rw [Option.map_none, ← hport]
    rw [unchanged]
    exact sound
  | some port => exact sound.withPort hport (f port) (same port)

/-! ## Announcements -/

omit [Scalar α] in
theorem Settled.connection {c : Controller α} (h : c.Settled) (connection : Connection α)
    (status : connection.status = c.status) (desired : connection.desired = c.desired) :
    Settled { c with connection } := by
  rcases h with ⟨connected, port⟩ | failed | ⟨down, where_⟩
  · exact .inl ⟨status.trans connected, port⟩
  · exact .inr (.inl (status.trans failed))
  · refine .inr (.inr ⟨desired.trans down, ?_⟩)
    simpa only [Controller.status, status] using where_

/-- A log entry is an aside. -/
theorem does_logText (c : Controller α) (level : Level) (s : String) :
    Does c [] [] (c.logText level s) :=
  .aside (c.connection.logText level s) c.lastQuery c.thread fun h => h.connection _ rfl rfl

/-- So is a failure of the port. -/
theorem does_fail (c : Controller α) (reason message : String) :
    Does c [] [] (c.fail reason message) :=
  .aside ((c.connection.logText .error (reason ++ " " ++ c.portName ++ ": " ++ message)).setStatus
    .fail) c.lastQuery c.thread fun _ => .inr (.inl (Connection.status_setStatus _ _))

theorem does_setStatus (c : Controller α) (status : Status)
    (settled : c.Settled → (c.setStatus status).Settled) :
    Does c [] [] (c.setStatus status) :=
  .aside (c.connection.setStatus status) c.lastQuery c.thread settled

/-! ## Reading -/

/-- With nothing new and no whole line, taking up nothing changes nothing. -/
theorem accept_nil {c : Controller α} (h : c.hasLine = false) : c.accept [] = c := by
  have uncut : Bytes.cutAt? lineEnd c.partialLine = none := by
    simpa [hasLine] using h
  simp only [accept, List.append_nil, uncut]

/-- A chunk that is read and taken up. -/
theorem read_runs {c c' : Controller α} {got : Bytes} (h : c.read = ⟨c', .ok got⟩) :
    Runs c [] [] (c'.accept got) ∧ c'.port.isSome = c.port.isSome := by
  simp only [read] at h
  split at h
  next hport =>
    cases h
    have failed := does_setStatus c .fail fun _ => .inr (.inl (Connection.status_setStatus _ _))
    exact ⟨failed.runs.trans Does.settle.runs, rfl⟩
  next port hport =>
    split at h
    next message _ =>
      cases h
      exact ⟨(does_fail c _ _).runs.trans Does.settle.runs, rfl⟩
    next => cases h
    next =>
      split at h
      next => cases h; exact ⟨Does.settle.runs, rfl⟩
      next chunk rest incoming =>
        cases h
        exact ⟨(Does.hear hport incoming).runs, by rw [hport]; rfl⟩

omit [Scalar α] in
/-- A failure that is passed on changes nothing. -/
theorem read_error {c c' : Controller α} {fault : Fault} (h : c.read = ⟨c', .error fault⟩) :
    c' = c := by
  simp only [read] at h
  split at h
  next => cases h
  next =>
    split at h
    next => cases h
    next => cases h; rfl
    next => split at h <;> cases h

/-- One round of reading. -/
theorem readOn_of_read {got next : Bytes} {c c' : Controller α}
    (goes : ¬ (got.isEmpty && !c.hasLine) = true) (hread : (c.accept got).read = ⟨c', .ok next⟩) :
    readOn got c = readOn next c' := by
  rw [readOn, if_neg goes]
  split
  next heq => cases hread.symm.trans heq; rfl
  next heq => cases hread.symm.trans heq

/-- A round of reading that is stopped. -/
theorem readOn_of_error {got : Bytes} {c c' : Controller α} {fault : Fault}
    (goes : ¬ (got.isEmpty && !c.hasLine) = true)
    (hread : (c.accept got).read = ⟨c', .error fault⟩) :
    readOn got c = .stopped (c.accept got) fault := by
  obtain rfl := read_error hread
  rw [readOn, if_neg goes]
  split
  next heq => cases hread.symm.trans heq
  next heq => cases hread.symm.trans heq; rfl

/-- Reading on takes up what was read last, and goes on. -/
theorem readOn_runs (got : Bytes) (c : Controller α) :
    Runs (c.accept got) [] [] (readOn got c).state ∧
      (readOn got c).state.port.isSome = c.port.isSome := by
  induction got, c using readOn.induct with
  | case1 got c done =>
    rw [readOn, if_pos done]
    obtain ⟨empty, noLine⟩ := Bool.and_eq_true_iff.1 done
    rw [List.isEmpty_iff.1 empty, accept_nil (by simpa using noLine)]
    exact ⟨.refl c, rfl⟩
  | case2 got c goes c' next hread ih =>
    obtain ⟨first, firstPort⟩ := read_runs hread
    obtain ⟨rest, restPort⟩ := ih
    rw [readOn_of_read goes hread]
    refine ⟨first.trans rest, restPort.trans (firstPort.trans ?_)⟩
    rw [(accept_accepted got c).port]
  | case3 got c goes c' fault hread =>
    rw [readOn_of_error goes hread]
    exact ⟨.refl _, by rw [Step.stopped, (accept_accepted got c).port]⟩

theorem readAll_runs (c : Controller α) :
    Runs c [] [] c.readAll.state ∧ c.readAll.state.port.isSome = c.port.isSome := by
  cases hread : c.read with
  | mk c' result =>
    simp only [readAll, Step.andThen, hread]
    cases result with
    | ok got =>
      obtain ⟨first, firstPort⟩ := read_runs hread
      obtain ⟨rest, restPort⟩ := readOn_runs got c'
      exact ⟨first.trans rest, restPort.trans firstPort⟩
    | error fault =>
      obtain rfl := read_error hread
      exact ⟨.refl c', rfl⟩

/-! ## Writing -/

omit [Scalar α] in
theorem write_eq {c : Controller α} {port : Port} (hport : c.port = some port)
    (unjammed : port.writeFault = none) (data : Bytes) :
    c.write data =
      ({ c with port := some { port with written := port.written ++ [data] } }, true) := by
  simp only [write, hport, unjammed]

section
variable {c : Controller α} (sound : Sound c) (there : c.port.isSome = true) (now : α)
include sound there

/-- A realtime byte is written if one waits; then nothing else is, and else nothing has changed. -/
theorem writeImmediate_runs :
    ∃ written, Runs c [] written (c.writeImmediate now).state ∧
      ((c.writeImmediate now).result = .ok false → (c.writeImmediate now).state = c) := by
  obtain ⟨port, hport⟩ := Option.isSome_iff_exists.1 there
  cases himmediate : c.immediate with
  | nil =>
    have nothing : c.writeImmediate now = .done c false := by
      simp only [writeImmediate, himmediate]
    rw [nothing]
    exact ⟨[], .refl c, fun _ => rfl⟩
  | cons byte rest =>
    have realtime := sound.urgent byte (by simp [himmediate])
    have written := write_eq (c := { c with immediate := rest }) hport
      (sound.unjammed port hport) byte
    simp only [writeImmediate, himmediate, written, realtime, if_true]
    refine ⟨[byte], (Does.writeByte now himmediate hport).runs, fun refused => ?_⟩
    -- the result is `true`, or a fault of the tracker
    simp only [Step.mapResult, adoptStep, Step.mapState] at refused
    cases hresult : (c.tracker.register now byte).result with
    | ok _ => simp [hresult, Except.map] at refused
    | error _ => simp [hresult, Except.map] at refused

/-- A line is written, held back or dropped. -/
theorem writeStreaming_runs : ∃ written, Runs c [] written (c.writeStreaming now).state := by
  obtain ⟨port, hport⟩ := Option.isSome_iff_exists.1 there
  cases hnext : c.nextLine? with
  | none =>
    simp only [writeStreaming, hnext]
    exact ⟨[], .refl c⟩
  | some taken =>
    obtain ⟨line, left⟩ := taken
    obtain ⟨-, frame, -⟩ := nextLine?_eq hnext
    have tracker : left.tracker = c.tracker := by rw [frame]
    have leftPort : left.port = some port := by rw [frame]; exact hport
    simp only [writeStreaming, hnext]
    split
    next overflows =>
      rw [tracker] at overflows
      split
      next empty =>
        rw [tracker] at empty
        have dropped := Does.drop hnext overflows (List.isEmpty_iff.1 empty)
        exact ⟨[], dropped.runs.trans (does_logText _ _ _).runs⟩
      next pending =>
        rw [tracker] at pending
        exact ⟨[], (Does.hold hnext overflows fun empty => pending (List.isEmpty_iff.2 empty)).runs⟩
    next fits =>
      rw [tracker] at fits
      have told : left.tracker.register now line = c.tracker.register now line := by rw [tracker]
      rw [write_eq leftPort (sound.unjammed port hport) line]
      dsimp only
      rw [told]
      exact ⟨[line], (Does.writeLine now hnext (Bool.eq_false_iff.2 fits) hport).runs⟩

theorem writeNext_runs : ∃ written, Runs c [] written (c.writeNext now).state := by
  obtain ⟨written, byte, stays⟩ := writeImmediate_runs sound there now
  simp only [writeNext, Step.andThen]
  generalize c.writeImmediate now = urgent at byte stays ⊢
  obtain ⟨c', result⟩ := urgent
  cases result with
  | error fault => exact ⟨written, byte⟩
  | ok wrote =>
    cases wrote with
    | true => exact ⟨written, byte⟩
    | false =>
      obtain rfl : c' = c := stays rfl
      exact writeStreaming_runs sound there now

end

theorem query_runs (now : α) (c : Controller α) : Runs c [] [] (c.query now) := by
  simp only [query]
  split
  next =>
    have asked : Does c [] [] { c with lastQuery := now } := .aside c.connection now c.thread id
    exact asked.runs.trans (Does.urge (by rfl)).runs
  next => exact .refl c

/-- A pass over the port. -/
theorem pass_runs {c : Controller α} (sound : Sound c) (now : α) :
    ∃ written, Runs c [] written (c.pass now).state := by
  by_cases connected : c.status = .connected
  · have there : c.port.isSome = true := by
      rcases sound.settled with ⟨-, there⟩ | failed | ⟨-, down⟩
      · exact there
      · rw [connected] at failed
        cases failed
      · rw [connected] at down
        rcases down with down | down | down <;> cases down
    simp only [pass, if_pos connected]
    obtain ⟨read, port⟩ := readAll_runs c
    generalize c.readAll = reading at read port ⊢
    obtain ⟨c', result⟩ := reading
    cases result with
    | error fault => exact ⟨[], read⟩
    | ok _ =>
      obtain ⟨written, wrote⟩ := writeNext_runs (read.sound sound) (port.trans there) now
      simp only [Step.andThen]
      generalize c'.writeNext now = writing at wrote ⊢
      obtain ⟨c'', result⟩ := writing
      have both := read.trans wrote
      cases result with
      | error fault => exact ⟨written, both⟩
      | ok _ =>
        exact ⟨_, both.trans (query_runs now c'')⟩
  · rw [pass, if_neg connected]
    exact ⟨[], .refl c⟩

/-! ## The event loop -/

omit [Scalar α] in
@[simp] theorem status_setStatus (c : Controller α) (status : Status) :
    (c.setStatus status).status = status := Connection.status_setStatus _ _

omit [Scalar α] in
@[simp] theorem desired_setStatus (c : Controller α) (status : Status) :
    (c.setStatus status).desired = c.desired := by
  simp only [setStatus, mapConnection, desired, Connection.setStatus]
  split <;> rfl

omit [Scalar α] in
theorem settled_of_down {c : Controller α} (desired : c.desired = .notConnected)
    (status : c.status = .cleanup ∨ c.status = .disconnecting ∨ c.status = .notConnected) :
    c.Settled := .inr (.inr ⟨desired, status⟩)

/-- All that a step of a settled connection consists of: asides, and a port that is asked to close
or given back. -/
inductive Winds (c : Controller α) : Controller α → Prop
  | refl : Winds c c
  | aside {c' : Controller α} (connection : Connection α) (lastQuery : α) (thread : Bool) :
      Winds c c' → (c'.Settled → Settled { c' with connection, lastQuery, thread }) →
      Winds c { c' with connection, lastQuery, thread }
  | close {c' : Controller α} {port : Port} : Winds c c' → c'.port = some port →
      Winds c { c' with port := some port.close }
  | lose {c' : Controller α} : Winds c c' → c'.status ≠ .connected →
      Winds c { c' with port := none }

/-- These are deeds, if nothing is left to be carried away. -/
theorem Winds.runs {c c' : Controller α} (h : Winds c c') (carried : c.outgoing = []) :
    Runs c [] [] c' := by
  induction h with
  | refl => exact .refl c
  | aside connection lastQuery thread _ keeps ih =>
    exact ih.trans (Does.aside connection lastQuery thread keeps).runs
  | close _ hport ih => exact ih.trans (Does.close hport).runs
  | lose _ away ih =>
    have nothing := ih.outgoing
    rw [carried] at nothing
    exact ih.trans (Does.lose away nothing).runs

omit [Scalar α] in
/-- Whatever differs in announcements, clock and thread is an aside. -/
theorem Winds.of_aside {c c' c'' : Controller α} (h : Winds c c')
    (frame : c'' =
      { c' with connection := c''.connection, lastQuery := c''.lastQuery, thread := c''.thread })
    (settled : c'.Settled → c''.Settled) : Winds c c'' := by
  rw [frame] at settled ⊢
  exact .aside _ _ _ h settled

omit [Scalar α] in
theorem Winds.logText {c c' : Controller α} (h : Winds c c') (level : Level) (s : String) :
    Winds c (c'.logText level s) :=
  h.of_aside rfl fun settled => settled.connection (c'.connection.logText level s) rfl rfl

omit [Scalar α] in
theorem Winds.joinThread {c c' : Controller α} (h : Winds c c') : Winds c c'.joinThread := by
  simp only [Controller.joinThread]
  split
  next =>
    exact h.aside (c'.connection.note (.thread .joined)) c'.lastQuery false fun settled =>
      settled.connection (c'.connection.note (.thread .joined)) rfl rfl
  next => exact h

omit [Scalar α] in
/-- A connection that is closed is on its way down. -/
theorem disconnect_winds (c : Controller α) : Winds c c.disconnect := by
  rw [disconnect]
  dsimp only
  split
  next down =>
    have down : (c.setDesired .notConnected).status = .disconnecting ∨
        (c.setDesired .notConnected).status = .notConnected := by
      simpa only [Bool.or_eq_true, decide_eq_true_eq] using down
    exact Winds.refl.of_aside rfl fun _ => settled_of_down rfl (.inr down)
  next =>
    split
    next =>
      exact Winds.refl.of_aside rfl fun _ => settled_of_down (desired_setStatus _ _) (by simp)
    next port hport =>
      generalize ("Disconnecting " ++ _ ++ " " ++ _ : String) = text
      have off : Winds c ((((c.setDesired .notConnected).setReady false).logText .info
          text).setStatus .disconnecting) :=
        Winds.refl.of_aside rfl fun _ => settled_of_down (desired_setStatus _ _) (by simp)
      have there : ((((c.setDesired .notConnected).setReady false).logText .info text).setStatus
          .disconnecting).joinThread.port = some port := by
        simp only [Controller.joinThread]
        split <;> exact hport
      exact off.joinThread.close there

omit [Scalar α] in
/-- So is one that is given up. -/
theorem giveUp_winds (c : Controller α) : Winds c c.giveUp := by
  refine Winds.refl.of_aside rfl fun _ => settled_of_down ?_ (.inl (status_setStatus _ _))
  simp only [giveUp, desired_setStatus]
  rfl

end Controller

end Link

namespace Link.Station

open Controller

omit [Scalar α] in
/-- The port of a connection on its way down is given back when it is closed. -/
theorem confirmClosed_winds {s : Station α} (settled : s.controller.Settled)
    (disconnecting : s.controller.status = .disconnecting) :
    Winds s.controller s.confirmClosed.controller := by
  have down : s.controller.desired = .notConnected := by
    rcases settled with ⟨connected, -⟩ | failed | ⟨down, -⟩
    · rw [disconnecting] at connected
      cases connected
    · rw [disconnecting] at failed
      cases failed
    · exact down
  rw [confirmClosed]
  dsimp only
  split
  next =>
    exact Winds.refl.of_aside rfl fun _ => .inr (.inl (by simp))
  next port hport =>
    split
    next => exact .refl
    next =>
      have logged := Winds.refl (c := s.controller) |>.logText .info "Serial disconnected."
      have away : (s.controller.logText .info "Serial disconnected.").status ≠ .connected := by
        show s.controller.status ≠ .connected
        rw [disconnecting]
        nofun
      exact (logged.lose away).of_aside rfl fun _ =>
        settled_of_down ((desired_setStatus _ _).trans down) (by simp)

omit [Scalar α] in
/-- A step towards the status that is asked for leads down, or nowhere. -/
theorem approach_winds {s : Station α} (settled : s.controller.Settled) :
    Winds s.controller s.approach.controller := by
  simp only [approach]
  split
  next => exact .refl
  next apart =>
    split
    next connecting =>
      rcases settled with ⟨other, -⟩ | other | ⟨-, other | other | other⟩ <;>
        · rw [connecting] at other
          cases other
    next =>
      split
      next disconnecting => exact confirmClosed_winds settled disconnecting
      next =>
        split
        next => exact giveUp_winds s.controller
        next healthy =>
          split
          next up =>
            rcases settled with ⟨other, -⟩ | other | ⟨down, -⟩
            · exact absurd (other.trans up.symm) apart
            · rw [other] at healthy
              exact absurd rfl healthy
            · rw [up] at down
              cases down
          next => exact disconnect_winds s.controller

/-- A step of the event loop. -/
theorem update_runs {s : Station α} (sound : Sound s.controller)
    (carried : s.controller.outgoing = []) (now : α) :
    Runs s.controller [] [] (s.update now).state.controller := by
  have approached := (approach_winds sound.settled).runs carried
  exact (approached.trans Does.takeUp.runs).trans (Does.play now).runs

end Link.Station

/-! ## Calls -/

namespace Link

/-- What an owner asks of a controller once its connection is up. -/
inductive Call (α : Type) where
  | send (command : Bytes)
  | jog (jog : Jog)
  | jogAbsolute (jog : Jog)
  | cancelJog
  /-- A pass over the port. -/
  | pass (now : α)
  /-- A step of the event loop. -/
  | update (now : α)

/-- The line that a command is queued as; a realtime byte and a blank command are not lines. -/
def lineOf? (command : Bytes) : Option Bytes :=
  if isRealtime command || command.trim.isEmpty then none else some (command.trim ++ newline)

/-- The text of a jog in a distance mode, for a controller's own feed. -/
def jogCommand (mode : String) (feed : Amount) (j : Jog) : Bytes :=
  Jog.command { j with f := some (j.f.getD feed) } (Bytes.ofText mode)

namespace Call

omit [Scalar α] in
/-- The command that a call sends, for a controller's own jog feed. -/
def command? (feed : Amount) : Call α → Option Bytes
  | .send command => some command
  | .jog j => some (jogCommand "G91" feed j)
  | .jogAbsolute j => some (jogCommand "G90" feed j)
  | .cancelJog | .pass _ | .update _ => none

omit [Scalar α] in
/-- The lines that a call queues. -/
def lines (feed : Amount) (call : Call α) : List Bytes :=
  ((call.command? feed).bind lineOf?).toList

/-- What a call comes to. -/
def apply : Call α → Station α → Station α
  | .send command, s => s.mapController (·.send command)
  | .jog j, s => s.mapController (·.jog j)
  | .jogAbsolute j, s => s.mapController (·.jogAbsolute j)
  | .cancelJog, s => s.mapController (·.cancelJog)
  | .pass now, s => s.mapController fun c => (c.pass now).state
  | .update now, s => (s.update now).state

end Call

theorem Controller.send_runs (c : Controller α) (command : Bytes) :
    Runs c (lineOf? command).toList [] (c.send command) := by
  simp only [Controller.send, lineOf?]
  cases realtime : isRealtime command with
  | true => exact (Does.urge realtime).runs
  | false =>
    cases blank : command.trim.isEmpty with
    | true => exact .refl c
    | false =>
      have text : command.trim ≠ [] := by
        intro nothing
        simp [nothing] at blank
      exact (Does.queue realtime text).runs

/-- A call is a sequence of deeds, which queues the lines of the call. -/
theorem Call.runs {s : Station α} (sound : s.controller.Sound)
    (carried : s.controller.outgoing = []) (call : Call α) :
    ∃ written, s.controller.Runs (call.lines s.controller.jogFeed) written
      (call.apply s).controller := by
  cases call with
  | send command => exact ⟨[], s.controller.send_runs command⟩
  | jog j => exact ⟨[], s.controller.send_runs _⟩
  | jogAbsolute j => exact ⟨[], s.controller.send_runs _⟩
  | cancelJog =>
    have logged := Controller.does_logText s.controller .debug "Cancel jog"
    exact ⟨[], logged.runs.trans (Controller.Does.urge (by rfl)).runs⟩
  | pass now => exact Controller.pass_runs sound now
  | update now => exact ⟨[], s.update_runs sound carried now⟩

/-- A connected controller, on ordinary numbers. -/
def connectedStation : Station Float where
  controller :=
    { (Controller.fresh "grbl" true : Controller Float) with
      connection := { label := "grbl", status := .connected, desired := .connected }
      port := some {} }

end Link

end GcodeSender
