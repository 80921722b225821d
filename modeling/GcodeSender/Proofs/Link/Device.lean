/-
# `GcodeSender.Proofs.Link.Device` — the machine at the other end

The machine takes what is written byte by byte.  Realtime bytes it picks off as
they come; everything else is typed into a line until a line break is there.
Whole lines wait, the oldest first, and each is answered once.

    step       what happens
    take       a byte is taken from the inbox
    answer l   the oldest waiting line is processed; `l` goes out
    emit l     `l` goes out unasked

What goes out is lines, each followed by a line end: answers begin with `ok` or
`error`, reports with `<`, `[`, `ALARM:` or `Grbl `.  None of them holds a line
feed, and trimming does not make an answer of a report or the other way round
(`IsReply`).

What the machine has received and not processed (`held`) are the characters that
occupy its receive buffer.
-/
import GcodeSender.Proofs.Link.Deeds
import GcodeSender.Proofs.Text.Printable
import GcodeSender.Proofs.Text.Wire

namespace GcodeSender.Link

open Gcode Bytes

/-- A machine that takes lines, and answers each of them. -/
structure Device where
  /-- The bytes on the way to it. -/
  inbox : Bytes := []
  /-- What it has of the line it is receiving. -/
  typed : Bytes := []
  /-- The lines received and not processed, the oldest first. -/
  waiting : List Bytes := []
  /-- What it has said and nobody has read off the line. -/
  outbox : Bytes := []
  deriving DecidableEq, Repr

namespace Device

/-- How many characters were received and not processed. -/
def held (d : Device) : Nat := (d.waiting.map List.length).sum + d.typed.length

/-- What was written is on its way. -/
def send (written : List Bytes) (d : Device) : Device :=
  { d with inbox := d.inbox ++ written.flatten }

/-- Take a byte. -/
def take (d : Device) : Device :=
  match d.inbox with
  | [] => d
  | b :: rest =>
    if isRealtime [b] then { d with inbox := rest }
    else if isBreak b then
      { d with inbox := rest, typed := [], waiting := d.waiting ++ [d.typed ++ [b]] }
    else { d with inbox := rest, typed := d.typed ++ [b] }

/-- Say a line. -/
def emit (line : Bytes) (d : Device) : Device := { d with outbox := d.outbox ++ line ++ lineEnd }

/-- Answer the oldest line, if one waits. -/
def answer (line : Bytes) (d : Device) : Device :=
  match d.waiting with
  | [] => d
  | _ :: rest => { d with waiting := rest }.emit line

end Device

/-! ## What is written -/

/-- A line as it is written: text without a break inside, and a newline. -/
def IsLine (line : Bytes) : Prop := ∃ text, Unbroken text ∧ line = text ++ newline

/-- What reaches the machine's buffer of what is written. -/
def buffered (s : Bytes) : Bytes := s.filter fun b => !isRealtime [b]

@[simp] theorem buffered_append (s s' : Bytes) : buffered (s ++ s') = buffered s ++ buffered s' :=
  List.filter_append ..

theorem length_buffered (s : Bytes) : (buffered s).length ≤ s.length := List.length_filter_le ..

theorem buffered_realtime {command : Bytes} (h : isRealtime command = true) :
    buffered command = [] := by
  simp only [isRealtime, Bool.or_eq_true, decide_eq_true_eq] at h
  rcases h with rfl | rfl <;> decide

/-- Of a line, the newline and what precedes it reach the buffer. -/
theorem IsLine.buffered {line : Bytes} (h : IsLine line) :
    ∃ text, Unbroken text ∧ Link.buffered line = text ++ newline := by
  obtain ⟨text, unbroken, rfl⟩ := h
  refine ⟨Link.buffered text, fun b mem => unbroken b (List.mem_filter.1 mem).1, ?_⟩
  rw [buffered_append]
  rfl

/-- Where text before a break is compared with text before a newline, they are the same. -/
theorem eq_of_break {typed text rest rest' : Bytes} {b : UInt8} (typing : Unbroken typed)
    (unbroken : Unbroken text) (breaks : isBreak b = true)
    (h : typed ++ b :: rest = text ++ newline ++ rest') :
    b = lineFeed ∧ typed = text ∧ rest = rest' := by
  induction typed generalizing text with
  | nil =>
    cases text with
    | nil =>
      cases h
      exact ⟨rfl, rfl, rfl⟩
    | cons c text =>
      cases h
      have other := unbroken b List.mem_cons_self
      rw [breaks] at other
      cases other
  | cons a typed ih =>
    have other := typing a List.mem_cons_self
    cases text with
    | nil =>
      cases h
      cases other
    | cons c text =>
      obtain ⟨rfl, tails⟩ := List.cons.inj h
      have typing' : Unbroken typed := fun x mem => typing x (List.mem_cons_of_mem _ mem)
      have unbroken' : Unbroken text := fun x mem => unbroken x (List.mem_cons_of_mem _ mem)
      obtain ⟨feed, rfl, rfl⟩ := ih typing' unbroken' tails
      exact ⟨feed, rfl, rfl⟩

/-! ## What is said -/

/-- Is the line a status report, a message or an alarm? -/
def isReport (line : Bytes) : Bool :=
  line.startsWith (ofText "<") || line.startsWith (ofText "[") ||
    line.startsWith (ofText "ALARM:") || line.startsWith (ofText "Grbl ")

/-- A line that can be told from the others however it is trimmed. -/
def IsReply (line : Bytes) : Prop :=
  lineFeed ∉ line ∧ Tracker.isAnswer line.trim = Tracker.isAnswer line

theorem startsWith_trim {line head : Bytes} (h : line.startsWith head = true)
    (text : ∀ b ∈ head, Text.isBlankByte b = false) (nonempty : head ≠ []) :
    line.trim.startsWith head = true := by
  obtain ⟨rest, rfl⟩ := List.isPrefixOf_iff_prefix.1 h
  obtain ⟨rest', trimmed⟩ := trimWith_append text nonempty rest
  exact List.isPrefixOf_iff_prefix.2 ⟨rest', trimmed.symm⟩

theorem isReply_answer {line : Bytes} (answers : Tracker.isAnswer line = true)
    (whole : lineFeed ∉ line) : IsReply line := by
  refine ⟨whole, ?_⟩
  rw [answers]
  rcases Bool.or_eq_true_iff.1 answers with ok | error
  · have trimmed := startsWith_trim ok (by decide +kernel) (by decide +kernel)
    exact Bool.or_eq_true_iff.2 (.inl trimmed)
  · have trimmed := startsWith_trim error (by decide +kernel) (by decide +kernel)
    exact Bool.or_eq_true_iff.2 (.inr trimmed)

/-- A line is no answer if it begins with something else than `o` and `e`. -/
theorem not_isAnswer {b : UInt8} (notO : b ≠ 0x6F) (notE : b ≠ 0x65) (rest : Bytes) :
    Tracker.isAnswer (b :: rest) = false := by
  have ok : ofText "ok" = [0x6F, 0x6B] := by decide +kernel
  have error : ofText "error" = [0x65, 0x72, 0x72, 0x6F, 0x72] := by decide +kernel
  simp [Tracker.isAnswer, startsWith, ok, error, List.isPrefixOf, notO.symm, notE.symm]

/-- The first byte of a report is neither blank nor that of an answer. -/
theorem head_of_isReport {line : Bytes} (h : isReport line = true) :
    ∃ b rest, line = b :: rest ∧ Text.isBlankByte b = false ∧ b ≠ 0x6F ∧ b ≠ 0x65 := by
  have begins : ∀ {head : Bytes} {b : UInt8}, head.head? = some b →
      line.startsWith head = true → ∃ rest, line = b :: rest := by
    intro head b first starts
    obtain ⟨rest, rfl⟩ := List.isPrefixOf_iff_prefix.1 starts
    obtain ⟨more, rfl⟩ := List.head?_eq_some_iff.1 first
    exact ⟨more ++ rest, rfl⟩
  simp only [isReport, Bool.or_eq_true] at h
  rcases h with ((status | message) | alarm) | welcome
  · obtain ⟨rest, rfl⟩ := begins (b := 0x3C) (by decide +kernel) status
    exact ⟨_, rest, rfl, by decide⟩
  · obtain ⟨rest, rfl⟩ := begins (b := 0x5B) (by decide +kernel) message
    exact ⟨_, rest, rfl, by decide⟩
  · obtain ⟨rest, rfl⟩ := begins (b := 0x41) (by decide +kernel) alarm
    exact ⟨_, rest, rfl, by decide⟩
  · obtain ⟨rest, rfl⟩ := begins (b := 0x47) (by decide +kernel) welcome
    exact ⟨_, rest, rfl, by decide⟩

theorem isReply_report {line : Bytes} (report : isReport line = true) (whole : lineFeed ∉ line) :
    Tracker.isAnswer line = false ∧ IsReply line := by
  obtain ⟨b, rest, rfl, text, notO, notE⟩ := head_of_isReport report
  have trimmed : ∃ rest', trim (b :: rest) = b :: rest' := by
    have head : ∀ a ∈ [b], Text.isBlankByte a = false := by simpa using text
    exact trimWith_append head (List.cons_ne_nil b []) rest
  obtain ⟨rest', htrim⟩ := trimmed
  have other := not_isAnswer notO notE rest
  refine ⟨other, whole, ?_⟩
  rw [htrim, other, not_isAnswer notO notE rest']

end GcodeSender.Link
