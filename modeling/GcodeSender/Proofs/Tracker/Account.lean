/-
# `GcodeSender.Proofs.Tracker.Account` — the ledger across the tracker's operations

The ledger is kept by two operations: a line that is registered joins it, and
an answer takes the oldest line out.  Everything else leaves it alone.

    operation            ledger          answers taken up
    register             send command    same
    receive an answer    answer          one more
    receive another      same            same
    update               same            same

A ledger is *balanced* when its count of characters is the sum of the pending
lengths.  In a balanced ledger nothing pending means nothing counted, so a line
that does not fit then is too long for the empty buffer (`long_of_overflow`).
-/
import Mathlib.Algebra.GroupWithZero.Nat
import GcodeSender.Proofs.Tracker.History

namespace GcodeSender

open Scalar Gcode

/-! ## The ledger -/

namespace Ledger

/-- The count of characters is the sum of the pending lengths. -/
def Balanced (l : Ledger) : Prop := l.total = (l.pending.sum : Nat)

variable {l : Ledger} {command : Bytes}

theorem send_line (h : isRealtime command = false) :
    l.send command =
      { l with
        pending := l.pending ++ [command.length]
        total := l.total + command.length } := by
  simp [send, h]

theorem send_realtime (h : isRealtime command = true) : l.send command = l := by
  simp [send, h]

@[simp] theorem capacity_send (l : Ledger) (command : Bytes) :
    (l.send command).capacity = l.capacity := by
  cases h : isRealtime command with
  | true => rw [send_realtime h]
  | false => rw [send_line h]

@[simp] theorem desynchronised_send (l : Ledger) (command : Bytes) :
    (l.send command).desynchronised = l.desynchronised := by
  cases h : isRealtime command with
  | true => rw [send_realtime h]
  | false => rw [send_line h]

@[simp] theorem capacity_answer (l : Ledger) : l.answer.1.capacity = l.capacity := by
  cases h : l.pending <;> simp [answer, h]

theorem answer_of_pending {n : Nat} {rest : List Nat} (h : l.pending = n :: rest) :
    l.answer.1 = { l with pending := rest, total := l.total - n } := by
  simp [answer, h]

theorem pending_answer_suffix (l : Ledger) : l.answer.1.pending <:+ l.pending := by
  cases h : l.pending with
  | nil => simp [answer, h]
  | cons n rest =>
    rw [answer_of_pending h]
    exact List.suffix_cons n rest

theorem Balanced.send (h : l.Balanced) (command : Bytes) : (l.send command).Balanced := by
  cases kind : isRealtime command with
  | true =>
    rw [send_realtime kind]
    exact h
  | false =>
    have total : l.total = (l.pending.sum : Nat) := h
    rw [send_line kind]
    simp [Balanced, total]

theorem Balanced.answer (h : l.Balanced) : l.answer.1.Balanced := by
  have total : l.total = (l.pending.sum : Nat) := h
  cases pending : l.pending with
  | nil =>
    simp only [Ledger.answer, pending]
    rw [Balanced]
    simpa [pending] using total
  | cons n rest =>
    rw [answer_of_pending pending]
    rw [pending, List.sum_cons] at total
    show l.total - n = (rest.sum : Nat)
    omega

/-- A line that fits is shorter than the buffer, and so is what is counted with it. -/
theorem Balanced.fits (h : l.Balanced) (line : isRealtime command = false)
    (fits : l.wouldOverflow command = false) :
    (command.length : Int) < l.capacity ∧ (l.send command).total < l.capacity := by
  have total : l.total = (l.pending.sum : Nat) := h
  simp only [wouldOverflow, line, Bool.not_false, Bool.true_and, decide_eq_false_iff_not,
    Int.not_le] at fits
  rw [send_line line]
  exact ⟨by omega, fits⟩

/-- A line that does not fit although nothing is pending is too long for the buffer. -/
theorem Balanced.long_of_overflow (h : l.Balanced) (empty : l.pending = [])
    (overflows : l.wouldOverflow command = true) : l.capacity ≤ command.length := by
  have total : l.total = (l.pending.sum : Nat) := h
  simp only [wouldOverflow, Bool.and_eq_true, decide_eq_true_eq] at overflows
  rw [empty] at total
  have := overflows.2
  simp only [List.sum_nil] at total
  omega

end Ledger

/-! ## The tracker -/

namespace Tracker

/-- Is the message the answer to a line? -/
def isAnswer (message : Bytes) : Bool :=
  message.startsWith (Bytes.ofText "ok") || message.startsWith (Bytes.ofText "error")

variable {α : Type} [Scalar α]

omit [Scalar α] in
/-- How many answers have been taken up. -/
def answers (t : Tracker α) : Nat := t.answeredOk + t.answeredError

omit [Scalar α] in
theorem Played.answers {ls : List (QueuedMotion α)} {t t' : Tracker α} (h : Played ls t t') :
    t'.answers = t.answers := by
  rw [Tracker.answers, Tracker.answers, h.answeredOk, h.answeredError]

omit [Scalar α] in
theorem Noted.answers {command : Bytes} {t t' : Tracker α} (h : Noted command t t') :
    t'.answers = t.answers := by
  rw [Tracker.answers, Tracker.answers, h.answeredOk, h.answeredError]

theorem register_account (now : α) (command : Bytes) (t : Tracker α) :
    (register now command t).state.ledger = t.ledger.send command ∧
      (register now command t).state.answers = t.answers := by
  have registered := register_registered now command t
  have noted := noted_noted command t
  generalize register now command t = outcome at registered ⊢
  cases registered with
  | counted r notCancel stays _ => exact ⟨noted.ledger, noted.answers⟩
  | moves q notCancel moves =>
    obtain ⟨ls, played⟩ := drain_played now { t.noted command with
      queue := (t.noted command).queue ++ [q] }
    exact ⟨played.ledger.trans noted.ledger, played.answers.trans noted.answers⟩
  | cancels cancel stays =>
    subst cancel
    obtain ⟨ls, played⟩ := cancelJogs_played now t
    exact ⟨played.ledger, played.answers⟩

theorem update_account (now : α) (t : Tracker α) :
    (t.update now).state.ledger = t.ledger ∧ (t.update now).state.answers = t.answers := by
  obtain ⟨ls, played⟩ := update_played now t
  exact ⟨played.ledger, played.answers⟩

omit [Scalar α] in
theorem answer_account (t : Tracker α) :
    t.answer.ledger = t.ledger.answer.1 ∧ t.answer.answers = t.answers := by
  simp only [answer]
  split <;> exact ⟨rfl, rfl⟩

/-- An answer takes the oldest line out of the ledger. -/
theorem receive_answer {message : Bytes} (h : isAnswer message.trim = true) (t : Tracker α) :
    (t.receive message).ledger = t.ledger.answer.1 ∧
      (t.receive message).answers = t.answers + 1 := by
  simp only [receive]
  split
  next ok =>
    obtain ⟨ledger, answers⟩ := answer_account { t with answeredOk := t.answeredOk + 1 }
    refine ⟨ledger, answers.trans ?_⟩
    simp only [Tracker.answers]
    omega
  next notOk =>
    have error : message.trim.startsWith (Bytes.ofText "error") = true := by
      simpa [isAnswer, notOk] using h
    rw [if_pos error]
    obtain ⟨ledger, answers⟩ := answer_account
      ({ t with answeredError := t.answeredError + 1 }.logText .warning
        ("Grbl reported " ++ message.trim.lossyText))
    exact ⟨ledger, answers⟩

/-- Any other message leaves the ledger alone. -/
theorem receive_other {message : Bytes} (h : isAnswer message.trim = false) (t : Tracker α) :
    (t.receive message).ledger = t.ledger ∧ (t.receive message).answers = t.answers := by
  obtain ⟨notOk, notError⟩ := Bool.or_eq_false_iff.1 h
  simp only [receive, notOk, notError, Bool.false_eq_true, if_false]
  split <;> exact ⟨rfl, rfl⟩

/-- A message leaves the ledger alone, or takes the oldest line out of it. -/
theorem ledger_receive (message : Bytes) (t : Tracker α) :
    (t.receive message).ledger = t.ledger.answer.1 ∨ (t.receive message).ledger = t.ledger := by
  cases h : isAnswer message.trim with
  | true => exact .inl (receive_answer h t).1
  | false => exact .inr (receive_other h t).1

end Tracker

end GcodeSender
