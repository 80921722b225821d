/-
# `GcodeSender.Proofs.Tracker.Books` — the books of a ledger balance

A line is entered in the ledger when it is registered, and taken out by an
answer, oldest first.  An answer that finds nothing pending is counted as one
too many.  So the lines still to be answered are, at any time,

    outstanding  =  pending  −  desynchronised

and a line adds one to them, an answer takes one away, whether it finds a line
or not.  Nothing else enters or leaves: a line counts once, whatever becomes of
it when it is read, and the lines that are replayed from the motion queue are
not registered again.

`Booked lines whole t` says that the ledger of `t` holds the lengths of the last
of `lines`, and, as long as the books are `whole`, that every line is answered
or outstanding.  Every entry keeps it; clearing the ledger forgets lines, so the
books are not whole any more, but what they hold is still right.
-/
import GcodeSender.Proofs.Tracker.Messages

namespace GcodeSender

open Scalar Gcode

/-! ## Outstanding lines -/

namespace Ledger

/-- How many more lines were sent than answered. -/
def outstanding (l : Ledger) : Int := l.pending.length - l.desynchronised

variable {l : Ledger} {command : Bytes}

theorem outstanding_send_line (h : isRealtime command = false) :
    (l.send command).outstanding = l.outstanding + 1 := by
  rw [send_line h, outstanding, outstanding]
  simp only [List.length_append, List.length_singleton]
  omega

/-- An answer takes one away, also where none is pending. -/
theorem outstanding_answer : l.answer.1.outstanding = l.outstanding - 1 := by
  cases pending : l.pending with
  | nil =>
    simp only [answer, pending, outstanding, List.length_nil]
    omega
  | cons n rest =>
    rw [answer_of_pending pending, outstanding, outstanding, pending, List.length_cons]
    dsimp only
    omega

end Ledger

namespace Tracker

variable {α : Type} [Scalar α]

/-! ## Entries -/

/-- What can happen to a tracker and its ledger. -/
inductive Entry (α : Type) where
  | event (e : Event α)
  /-- The lines that wait for an answer are forgotten. -/
  | clear

namespace Entry

/-- What an entry comes to; one that is stopped half-way leaves what it had done. -/
def apply : Entry α → Tracker α → Tracker α
  | .event e, t => (e.apply t).state
  | .clear, t => t.clearLedger

omit [Scalar α] in
/-- The line that an entry registers; a realtime byte is none. -/
def line? : Entry α → Option Bytes
  | .event (.register _ command) => if isRealtime command then none else some command
  | _ => none

end Entry

/-- The tracker after some entries. -/
def keep (t : Tracker α) (entries : List (Entry α)) : Tracker α :=
  entries.foldl (fun t entry => entry.apply t) t

omit [Scalar α] in
/-- The ledger holds the lengths of the last of the lines; while the books are whole, every line is
answered or outstanding. -/
structure Booked (lines : List Bytes) (whole : Prop) (t : Tracker α) : Prop where
  balanced : t.ledger.Balanced
  recent : t.ledger.pending <:+ lines.map List.length
  squared : whole → (lines.length : Int) = t.ledger.outstanding + t.answers

variable {lines : List Bytes} {whole : Prop} {t t' : Tracker α}

/-! ## One entry -/

omit [Scalar α] in
theorem Booked.of_same (h : Booked lines whole t) (ledger : t'.ledger = t.ledger)
    (answers : t'.answers = t.answers) : Booked lines whole t' where
  balanced := ledger ▸ h.balanced
  recent := ledger ▸ h.recent
  squared := by
    intro unbroken
    rw [ledger, answers]
    exact h.squared unbroken

/-- A line that is registered joins the ledger at its end and counts once, whatever it says. -/
theorem Booked.register (h : Booked lines whole t) (now : α) (command : Bytes) :
    Booked (lines ++ (Entry.event (.register now command)).line?.toList) whole
      (t.register now command).state := by
  obtain ⟨counted, answers⟩ := register_account now command t
  cases kind : isRealtime command with
  | true =>
    rw [Ledger.send_realtime kind] at counted
    simpa [Entry.line?, kind] using h.of_same counted answers
  | false =>
    have entered : (Entry.event (.register now command)).line?.toList = [command] := by
      simp [Entry.line?, kind]
    rw [entered]
    refine ⟨counted ▸ h.balanced.send command, ?_, ?_⟩
    · obtain ⟨answered, hanswered⟩ := h.recent
      rw [counted, Ledger.send_line kind]
      exact ⟨answered, by simp [← hanswered]⟩
    · intro unbroken
      have before := h.squared unbroken
      rw [counted, answers, Ledger.outstanding_send_line kind, List.length_append,
        List.length_singleton]
      omega

/-- An answer takes the oldest line out, or is counted as one too many. -/
theorem Booked.receive (h : Booked lines whole t) (message : Bytes) :
    Booked lines whole (t.receive message) := by
  cases kind : isAnswer message.trim with
  | true =>
    obtain ⟨answered, counted⟩ := receive_answer kind t
    refine ⟨answered ▸ h.balanced.answer,
      answered ▸ (Ledger.pending_answer_suffix t.ledger).trans h.recent, ?_⟩
    intro unbroken
    have before := h.squared unbroken
    rw [answered, counted, Ledger.outstanding_answer]
    omega
  | false =>
    obtain ⟨same, uncounted⟩ := receive_other kind t
    exact h.of_same same uncounted

omit [Scalar α] in
theorem toggle_account (t : Tracker α) :
    t.toggle.1.ledger = t.ledger ∧ t.toggle.1.answers = t.answers := by
  rw [toggle_eq]
  split <;> exact ⟨rfl, rfl⟩

/-- Every entry keeps the books. -/
theorem Booked.entry (h : Booked lines whole t) (entry : Entry α) :
    Booked (lines ++ entry.line?.toList) (whole ∧ entry ≠ .clear) (entry.apply t) := by
  -- an event leaves the books as whole as they were
  have event : ∀ {lines' : List Bytes} {t' : Tracker α}, Booked lines' whole t' →
      Booked lines' (whole ∧ entry ≠ .clear) t' := by
    intro lines' t' kept
    exact ⟨kept.balanced, kept.recent, fun unbroken => kept.squared unbroken.1⟩
  cases entry with
  | clear =>
    refine ⟨rfl, List.nil_suffix, ?_⟩
    intro unbroken
    exact absurd rfl unbroken.2
  | event e =>
    cases e with
    | register now command => exact event (h.register now command)
    | receive message =>
      rw [Entry.line?, Option.toList_none, List.append_nil]
      · exact event (h.receive message)
      · nofun
    | update now =>
      obtain ⟨same, uncounted⟩ := update_account now t
      rw [Entry.line?, Option.toList_none, List.append_nil]
      · exact event (h.of_same same uncounted)
      · nofun
    | toggle =>
      obtain ⟨same, uncounted⟩ := toggle_account t
      rw [Entry.line?, Option.toList_none, List.append_nil]
      · exact event (h.of_same same uncounted)
      · nofun

/-! ## All entries -/

omit [Scalar α] in
/-- The lines that some entries register, in order. -/
def registered (entries : List (Entry α)) : List Bytes := entries.flatMap (·.line?.toList)

theorem Booked.keep (h : Booked lines whole t) (entries : List (Entry α)) :
    Booked (lines ++ registered entries) (whole ∧ .clear ∉ entries) (t.keep entries) := by
  induction entries generalizing lines whole t with
  | nil => simpa [registered, Tracker.keep] using h
  | cons entry rest ih =>
    have later := ih (h.entry entry)
    rw [List.append_assoc, and_assoc] at later
    simpa [registered, Tracker.keep, eq_comm] using later

/-- The ledger of a tracker counts what is pending, which are the lengths of the lines registered
last; and as long as it is not cleared, every line registered is pending or answered, the answers
that found nothing pending set aside. -/
theorem ledger_accounts (simulate : Bool) (entries : List (Entry α)) :
    let t := (fresh simulate : Tracker α).keep entries
    let lines := registered entries
    t.ledger.total = (t.ledger.pending.sum : Nat) ∧ 0 ≤ t.ledger.total ∧
      t.ledger.pending <:+ lines.map List.length ∧
      (.clear ∉ entries →
        (lines.length : Int) =
          t.ledger.pending.length + t.answeredOk + t.answeredError - t.ledger.desynchronised) := by
  intro t lines
  have opened : Booked [] True (fresh simulate : Tracker α) := ⟨rfl, List.nil_suffix, fun _ => rfl⟩
  have booked : Booked lines (True ∧ .clear ∉ entries) t := opened.keep entries
  have total : t.ledger.total = (t.ledger.pending.sum : Nat) := booked.balanced
  refine ⟨total, ?_, booked.recent, ?_⟩
  · omega
  · intro kept
    have squared := booked.squared ⟨trivial, kept⟩
    rw [Ledger.outstanding, Tracker.answers] at squared
    omega

/-- A line that waits for another to be played, one that is refused, one that cannot be read, and an
answer too many. -/
theorem ledger_accounts_out_of_step :
    let entries : List (Entry Float) :=
      [.event (.register 0 (Bytes.ofText "G1 X10 F6000\n")),
        .event (.register 0 (Bytes.ofText "G1 X20\n")), .event (.register 0 [statusQuery]),
        .event (.register 0 (Bytes.ofText "G1 X\n")),
        .event (.register 0 (Bytes.ofText "N" ++ List.replicate 309 0x39)),
        .event (.receive (Bytes.ofText "ok")), .event (.receive (Bytes.ofText "ok")),
        .event (.receive (Bytes.ofText "error:20")), .event (.receive (Bytes.ofText "ok")),
        .event (.receive (Bytes.ofText "ok")), .event (.update 0.3),
        .event (.register 0.3 (Bytes.ofText "G4 P1\n"))]
    let t := (fresh true : Tracker Float).keep entries
    let lines := registered entries
    .clear ∉ entries ∧ t.machine.starts.length = 2 ∧ t.ledger.pending = [6] ∧ t.answeredOk = 4 ∧
      t.answeredError = 1 ∧ t.ledger.desynchronised = 1 ∧
      (lines.length : Int) =
        t.ledger.pending.length + t.answeredOk + t.answeredError - t.ledger.desynchronised := by
  intro entries t lines
  obtain ⟨-, -, -, squared⟩ := ledger_accounts true entries
  have kept : .clear ∉ entries := by
    simp only [entries, List.mem_cons, reduceCtorEq, List.not_mem_nil, or_self, not_false_eq_true]
  have counted : t.machine.starts.length = 2 ∧ t.ledger.pending = [6] ∧ t.answeredOk = 4 ∧
      t.answeredError = 1 ∧ t.ledger.desynchronised = 1 := by decide +kernel
  obtain ⟨started, pending, ok, error, tooMany⟩ := counted
  exact ⟨kept, started, pending, ok, error, tooMany, squared kept⟩

end Tracker

end GcodeSender
