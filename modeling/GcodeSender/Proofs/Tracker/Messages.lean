/-
# `GcodeSender.Proofs.Tracker.Messages` — answers may overtake reports

A message is an answer or it is about the machine, and the two do not meet:

    an answer        ledger and counts
    anything else    position and run state

So what a tracker knows after some messages is the same if the answers among
them are taken up first (`receiveAll_answer_first`).  What it announces is not:
the notices come in the order in which the messages were taken up.

With simulation off, what is known changes with messages only, and with lines
that are written (`known_update`, `known_register_realtime`).
-/
import GcodeSender.Proofs.Tracker.Record
import GcodeSender.Proofs.Tracker.Still

namespace GcodeSender

open Scalar Gcode

variable {α : Type} [Scalar α]

namespace Machine

/-- The position after a message depends on the position before it. -/
theorem position_receive_congr {m m' : Machine α} (h : m.position = m'.position)
    (message : Bytes) : (m.receive message).position = (m'.receive message).position := by
  have assigned : ∀ t : Target α, (m.setPosition t).position = (m'.setPosition t).position := by
    intro t
    rw [setPosition, setPosition, h]
    split
    · rfl
    · exact h
  have positioned : (m.receivePosition message).position =
      (m'.receivePosition message).position := by
    rw [receivePosition, receivePosition]
    split
    · exact assigned _
    · exact h
  rw [receive, receive]
  split
  next =>
    rw [receiveReport, receiveReport]
    split
    next => rw [position_receiveToken, position_receiveToken, positioned]
    next => exact h
  next =>
    split
    · exact h
    · split
      · exact h
      · split <;> exact h

end Machine

namespace Tracker

omit [Scalar α] in
/-- What a tracker knows: its record, and where the machine is. -/
def known (t : Tracker α) : Record α × Position α := (t.record, t.machine.position)

omit [Scalar α] in
theorem known_eq {t t' : Tracker α} (record : t.record = t'.record)
    (position : t.machine.position = t'.machine.position) : t.known = t'.known := by
  rw [known, known, record, position]

/-! ## One message -/

section
variable (message : Bytes) (t : Tracker α)

theorem receive_ledger : (t.receive message).ledger =
    if isAnswer message.trim then t.ledger.answer.1 else t.ledger := by
  cases kind : isAnswer message.trim with
  | true => exact (receive_answer kind t).1
  | false => exact (receive_other kind t).1

omit [Scalar α] in
theorem answer_counts : t.answer.answeredOk = t.answeredOk ∧
    t.answer.answeredError = t.answeredError ∧ t.answer.machine.Agrees t.machine ∧
    t.answer.machine.position = t.machine.position := by
  rw [answer]
  dsimp only
  split <;> exact ⟨rfl, rfl, ⟨rfl, rfl, rfl⟩, rfl⟩

/-- Is the message an answer that the line was accepted, or that it was not? -/
def okCount : Nat := if message.trim.startsWith (Bytes.ofText "ok") then 1 else 0

/-- Is the message an answer that the line was refused? -/
def errorCount : Nat :=
  if message.trim.startsWith (Bytes.ofText "ok") then 0
  else if message.trim.startsWith (Bytes.ofText "error") then 1 else 0

theorem receive_counts :
    (t.receive message).answeredOk = t.answeredOk + okCount message ∧
      (t.receive message).answeredError = t.answeredError + errorCount message := by
  simp only [receive, okCount, errorCount]
  split
  next =>
    obtain ⟨ok, error, -⟩ := answer_counts { t with answeredOk := t.answeredOk + 1 }
    exact ⟨ok, error⟩
  next =>
    split
    next =>
      obtain ⟨ok, error, -⟩ := answer_counts
        ({ t with answeredError := t.answeredError + 1 }.logText .warning
          ("Grbl reported " ++ message.trim.lossyText))
      exact ⟨ok, error⟩
    next => split <;> exact ⟨rfl, rfl⟩

variable {message}

/-- An answer says nothing about the machine. -/
theorem receive_answer_machine (kind : isAnswer message.trim = true) :
    (t.receive message).machine.Agrees t.machine ∧
      (t.receive message).machine.position = t.machine.position := by
  simp only [receive]
  split
  next => exact (answer_counts _).2.2
  next notOk =>
    have error : message.trim.startsWith (Bytes.ofText "error") = true := by
      simpa [isAnswer, notOk] using kind
    rw [if_pos error]
    obtain ⟨-, -, agrees, position⟩ := answer_counts
      ({ t with answeredError := t.answeredError + 1 }.logText .warning
        ("Grbl reported " ++ message.trim.lossyText))
    exact ⟨⟨agrees.modes, agrees.feed, agrees.run⟩, position⟩

end

/-- Any other message is taken up by the machine. -/
theorem receive_other_machine {message : Bytes} (kind : isAnswer message.trim = false)
    {t t' : Tracker α} (agrees : t.machine.Agrees t'.machine)
    (position : t.machine.position = t'.machine.position) :
    (t.receive message).machine.Agrees (t'.receive message).machine ∧
      (t.receive message).machine.position = (t'.receive message).machine.position := by
  obtain ⟨notOk, notError⟩ := Bool.or_eq_false_iff.1 kind
  simp only [receive, notOk, notError, Bool.false_eq_true, if_false]
  split
  next => exact ⟨agrees, position⟩
  next =>
    exact ⟨agrees.receive message.trim, Machine.position_receive_congr position message.trim⟩

/-- What is known after a message depends on what is known before it. -/
theorem known_receive {t t' : Tracker α} (h : t.known = t'.known) (message : Bytes) :
    (t.receive message).known = (t'.receive message).known := by
  obtain ⟨record, position⟩ := Prod.mk.injEq .. ▸ h
  refine known_eq (record_receive record message) ?_
  cases kind : isAnswer message.trim with
  | true =>
    exact (receive_answer_machine t kind).2.trans
      (Eq.trans position (receive_answer_machine t' kind).2.symm)
  | false => exact (receive_other_machine kind (record_eq_iff.1 record).1 position).2

/-- An answer and another message may change places. -/
theorem receive_answer_comm {answer : Bytes} (kind : isAnswer answer.trim = true)
    (message : Bytes) (t : Tracker α) :
    ((t.receive answer).receive message).known = ((t.receive message).receive answer).known := by
  have machine : ((t.receive answer).receive message).machine.Agrees
        ((t.receive message).receive answer).machine ∧
      ((t.receive answer).receive message).machine.position =
        ((t.receive message).receive answer).machine.position := by
    obtain ⟨after, afterPosition⟩ := receive_answer_machine (t.receive message) kind
    obtain ⟨before, beforePosition⟩ := receive_answer_machine t kind
    cases other : isAnswer message.trim with
    | true =>
      obtain ⟨first, firstPosition⟩ := receive_answer_machine t other
      obtain ⟨second, secondPosition⟩ := receive_answer_machine (t.receive answer) other
      refine ⟨(second.trans before).trans (after.trans first).symm, ?_⟩
      rw [secondPosition, beforePosition, afterPosition, firstPosition]
    | false =>
      obtain ⟨agrees, position⟩ := receive_other_machine other before beforePosition
      exact ⟨agrees.trans after.symm, position.trans afterPosition.symm⟩
  have ledger : ((t.receive answer).receive message).ledger =
      ((t.receive message).receive answer).ledger := by
    simp only [receive_ledger, kind, if_true]
    split <;> rfl
  refine known_eq (record_eq_iff.2 ⟨machine.1, ledger, ?_, ?_⟩) machine.2
  · simp only [receive_counts]
    omega
  · simp only [receive_counts]
    omega

/-! ## Messages one after another -/

/-- The tracker after messages. -/
def receiveAll (messages : List Bytes) (t : Tracker α) : Tracker α :=
  messages.foldl (fun t message => t.receive message) t

theorem receiveAll_append (messages more : List Bytes) (t : Tracker α) :
    t.receiveAll (messages ++ more) = (t.receiveAll messages).receiveAll more := List.foldl_append

theorem known_receiveAll {t t' : Tracker α} (h : t.known = t'.known) (messages : List Bytes) :
    (t.receiveAll messages).known = (t'.receiveAll messages).known := by
  induction messages generalizing t t' with
  | nil => exact h
  | cons message rest ih => exact ih (known_receive h message)

/-- An answer may be taken up before messages that came before it. -/
theorem receiveAll_answer_first {answer : Bytes} (kind : isAnswer answer.trim = true)
    (messages : List Bytes) (t : Tracker α) :
    ((t.receive answer).receiveAll messages).known =
      ((t.receiveAll messages).receive answer).known := by
  induction messages generalizing t with
  | nil => rfl
  | cons message rest ih =>
    show (((t.receive answer).receive message).receiveAll rest).known =
      (((t.receive message).receiveAll rest).receive answer).known
    rw [known_receiveAll (receive_answer_comm kind message t) rest]
    exact ih (t.receive message)

/-- Messages leave simulation on or off. -/
theorem simulates_receiveAll (messages : List Bytes) (t : Tracker α) :
    (t.receiveAll messages).simulates = t.simulates := by
  induction messages generalizing t with
  | nil => rfl
  | cons message rest ih =>
    have heard := receive_heard message t
    have same : (t.receive message).simulates = t.simulates := by
      rw [simulates, heard.simulation, simulates]
    exact (ih (t.receive message)).trans same

/-! ## With simulation off -/

theorem known_update {t : Tracker α} (off : t.simulates = false) (now : α) :
    (t.update now).state.known = t.known ∧ (t.update now).state.simulates = false := by
  obtain ⟨stays, position⟩ := update_still now t off
  exact ⟨known_eq (record_update now t) position, stays⟩

theorem known_register_realtime {t : Tracker α} (off : t.simulates = false) (now : α)
    {command : Bytes} (realtime : isRealtime command = true) :
    (t.register now command).state.known = t.known ∧
      (t.register now command).state.simulates = false := by
  obtain ⟨stays, position⟩ := register_still now command t off
  have untouched : t.noted command = t := by simp [noted, realtime]
  have record := record_register now command t
  rw [untouched] at record
  exact ⟨known_eq record position, stays⟩

end Tracker

end GcodeSender
