/-
# `GcodeSender.Link.Exchange` — one pass over the port

While a port is connected it is served in passes, a few dozen a second.  A
pass reads everything there is, writes at most one thing, and asks for a
status report when the last request is older than `queryInterval`.

    write                        outcome
    a realtime byte waits        it is written, and the tracker told
    else a line waits and fits   it is written, and the tracker told
    a line waits, no room        it is held back
    a line is too long for an
    empty buffer                 it is dropped, with an error in the log
    the port fails               the line is lost; the status becomes FAIL

A line that has left its queue and could not be written is not queued again.

Reading goes on while something was read or a line end waits in the partial
line.  Every round takes a line off the partial line, or a chunk off the port,
or was the last: that is the measure of `readAll`.
-/
import GcodeSender.Link.Controller

namespace GcodeSender.Link

open Scalar Gcode

variable {α : Type} [Scalar α]

namespace Controller

/-! ## Reading and writing -/

/-- The port failed: log it, and give the connection up. -/
def fail (c : Controller α) (reason message : String) : Controller α :=
  (c.logText .error (reason ++ " " ++ c.portName ++ ": " ++ message)).setStatus .fail

/-- Read a chunk; nothing is read where nothing waits or the port fails. -/
def read (c : Controller α) : Step (Controller α) Bytes :=
  match c.port with
  | none => .done (c.setStatus .fail) []
  | some port =>
    match port.readFault with
    | some (.system message) => .done (c.fail "Read failed on" message) []
    | some (.other kind message) => .stopped c (.port kind message)
    | none =>
      match port.incoming with
      | [] => .done c []
      | chunk :: rest => .done { c with port := some { port with incoming := rest } } chunk

/-- Write to the port.  Did it succeed? -/
def write (c : Controller α) (data : Bytes) : Controller α × Bool :=
  match c.port with
  | none => (c.setStatus .fail, false)
  | some port =>
    match port.writeFault with
    | some message => (c.fail "Write failed on" message, false)
    | none => ({ c with port := some { port with written := port.written ++ [data] } }, true)

/-- Write the next realtime byte.  Was there one, and was it written? -/
def writeImmediate (now : α) (c : Controller α) : Step (Controller α) Bool :=
  match c.immediate with
  | [] => .done c false
  | task :: rest =>
    match { c with immediate := rest }.write task with
    | (c, false) => .done c false
    | (c, true) =>
      if isRealtime task then
        (c.adoptStep (c.tracker.register now task)).mapResult fun _ => true
      else .done c true

/-- The next line to be written, taken off its queue. -/
def nextLine? (c : Controller α) : Option (Bytes × Controller α) :=
  match c.heldBack with
  | some line => some (line, { c with heldBack := none })
  | none =>
    match c.streaming with
    | [] => none
    | line :: rest => some (line, { c with streaming := rest })

/-- Write the next line if it fits.  Was one written? -/
def writeStreaming (now : α) (c : Controller α) : Step (Controller α) Bool :=
  match c.nextLine? with
  | none => .done c false
  | some (line, c) =>
    if c.tracker.wouldOverflow line then
      if c.tracker.ledger.pending.isEmpty then
        let message := "Command too long for Grbl's receive buffer. Dropped: " ++ line.literal
        .done (c.logText .error message) false
      else .done { c with heldBack := some line } false
    else
      match c.write line with
      | (c, false) => .done c false
      | (c, true) => (c.adoptStep (c.tracker.register now line)).mapResult fun _ => true

/-! ## Reading everything -/

/-- Does a whole line wait in what has come in? -/
def hasLine (c : Controller α) : Bool := (Bytes.cutAt? lineEnd c.partialLine).isSome

/-- The chunks that wait at the port. -/
def waiting (c : Controller α) : List Bytes := ((c.port.map (·.incoming)).getD [])

omit [Scalar α] in
theorem adopt_port (c : Controller α) (t : Tracker α) : (c.adopt t).port = c.port := rfl

omit [Scalar α] in
theorem adopt_partialLine (c : Controller α) (t : Tracker α) :
    (c.adopt t).partialLine = c.partialLine := rfl

theorem takeLine_port (c : Controller α) (line : Bytes) : (c.takeLine line).port = c.port := by
  unfold takeLine
  split
  · rfl
  · split <;> rfl

theorem takeLine_partialLine (c : Controller α) (line : Bytes) :
    (c.takeLine line).partialLine = c.partialLine := by
  unfold takeLine
  split
  · rfl
  · split <;> rfl

theorem accept_waiting (c : Controller α) (piece : Bytes) :
    (c.accept piece).waiting = c.waiting := by
  unfold accept
  split
  · rfl
  · simp [waiting, takeLine_port]

/-- Where no line is complete, everything stays in the partial line. -/
theorem accept_of_none {c : Controller α} {piece : Bytes}
    (h : Bytes.cutAt? lineEnd (c.partialLine ++ piece) = none) :
    (c.accept piece).partialLine = c.partialLine ++ piece := by
  simp [accept, h]

/-- Where a line is complete, it and its end leave the partial line. -/
theorem accept_of_some {c : Controller α} {piece line rest : Bytes}
    (h : Bytes.cutAt? lineEnd (c.partialLine ++ piece) = some (line, rest)) :
    (c.accept piece).partialLine = rest := by
  simp [accept, h, takeLine_partialLine]

omit [Scalar α] in
/-- A read leaves the partial line alone, and what is read comes off the waiting chunks. -/
theorem read_result {c c' : Controller α} {got : Bytes} (h : c.read = ⟨c', .ok got⟩) :
    c'.partialLine = c.partialLine ∧
      ((got = [] ∧ c'.waiting = c.waiting) ∨ c.waiting = got :: c'.waiting) := by
  unfold read at h
  split at h
  · simp only [Step.done, Step.mk.injEq, Except.ok.injEq] at h
    obtain ⟨rfl, rfl⟩ := h
    exact ⟨rfl, .inl ⟨rfl, rfl⟩⟩
  · rename_i port hp
    split at h
    · simp only [Step.done, Step.mk.injEq, Except.ok.injEq] at h
      obtain ⟨rfl, rfl⟩ := h
      exact ⟨rfl, .inl ⟨rfl, rfl⟩⟩
    · simp [Step.stopped] at h
    · split at h
      · simp only [Step.done, Step.mk.injEq, Except.ok.injEq] at h
        obtain ⟨rfl, rfl⟩ := h
        exact ⟨rfl, .inl ⟨rfl, rfl⟩⟩
      · rename_i chunk rest hi
        simp only [Step.done, Step.mk.injEq, Except.ok.injEq] at h
        obtain ⟨rfl, rfl⟩ := h
        exact ⟨rfl, .inr (by simp [waiting, hp, hi])⟩

/-- How many bytes have come in and are in no line yet. -/
def unread (c : Controller α) (got : Bytes) : Nat :=
  c.partialLine.length + got.length + c.waiting.flatten.length

/-- Go on reading, after `got` was read: as long as something was read or a line is there. -/
def readOn (got : Bytes) (c : Controller α) : Step (Controller α) Unit :=
  if got.isEmpty && !c.hasLine then .done c ()
  else
    match _hread : (c.accept got).read with
    | ⟨c', .ok next⟩ => readOn next c'
    | ⟨c', .error fault⟩ => .stopped c' fault
  termination_by (c.unread got, c.waiting.length, got.length)
  decreasing_by
    obtain ⟨hp, hw⟩ := read_result _hread
    rename_i hgo
    have hacc := accept_waiting c got
    cases hcut : Bytes.cutAt? lineEnd (c.partialLine ++ got) with
    | none =>
      have hpl := accept_of_none hcut
      have hgot : got ≠ [] := by
        rintro rfl
        simp only [List.append_nil] at hcut
        simp [hasLine, hcut] at hgo
      have hpos := List.length_pos_iff.2 hgot
      rcases hw with ⟨rfl, hw⟩ | hw
      · have : c'.unread [] = c.unread got := by
          simp [unread, hp, hpl, hw, hacc]
        simp only [this, hw, hacc, List.length_nil, Prod.lex_def, Nat.lt_irrefl, false_or,
          true_and]
        exact hpos
      · have hwait : c.waiting = next :: c'.waiting := by rw [← hacc]; exact hw
        have : c'.unread next = c.unread got := by
          simp only [unread, hp, hpl, hwait, List.flatten_cons, List.length_append]
          omega
        simp only [this, hwait, List.length_cons, Prod.lex_def, Nat.lt_irrefl, false_or,
          true_and]
        exact .inl (Nat.lt_succ_self _)
    | some parts =>
      obtain ⟨line, rest⟩ := parts
      have hpl := accept_of_some hcut
      have hlen := congrArg List.length (Bytes.append_of_cutAt? hcut)
      simp only [List.length_append, lineEnd, List.length_cons, List.length_nil] at hlen
      refine Prod.Lex.left _ _ ?_
      rcases hw with ⟨rfl, hw⟩ | hw
      · simp only [unread, hp, hpl, hw, hacc, List.length_nil]
        omega
      · have hwait : c.waiting = next :: c'.waiting := by rw [← hacc]; exact hw
        simp only [unread, hp, hpl, hwait, List.flatten_cons, List.length_append]
        omega

/-- Read everything there is. -/
def readAll (c : Controller α) : Step (Controller α) Unit := c.read.andThen readOn

/-! ## The pass -/

/-- How long a requested status report is good for, in seconds. -/
def queryInterval : α := decimal 25 2

/-- The pause between two passes, in seconds. -/
def passInterval : α := decimal 2 2

/-- Write a realtime byte, or else a line. -/
def writeNext (now : α) (c : Controller α) : Step (Controller α) Unit :=
  (c.writeImmediate now).andThen fun wrote c =>
    if wrote then .done c () else (c.writeStreaming now).mapResult fun _ => ()

/-- Ask for a status report if the last request is old. -/
def query (now : α) (c : Controller α) : Controller α :=
  if less c.lastQuery (now - queryInterval) then
    { c with immediate := c.immediate ++ [[statusQuery]], lastQuery := now }
  else c

/-- One pass over a connected port; nothing happens where it is not connected. -/
def pass (now : α) (c : Controller α) : Step (Controller α) Unit :=
  if c.status = .connected then
    c.readAll.andThen fun _ c =>
      (c.writeNext now).andThen fun _ c => .done (c.query now) ()
  else .done c ()

end Controller

end GcodeSender.Link
