/-
# `GcodeSender.Proofs.Link.Delivery` — every line that was written is answered for

A line is told to the tracker in the same breath as it is written, so at every
moment it is pending or an answer has come in for it:

    lines written + pending and answers before  ≤  pending and answers now

It is not an equality, for a machine may answer when nothing is pending.

    Delivers c queued written c'   `Fares` without a loss, and the lines written
                                   are answered for

A deed delivers, and so does everything that is made of deeds.  The one step
that may not is a write that the port refuses, and after it the connection has
failed (`writeStreaming_delivers`).
-/
import GcodeSender.Proofs.Link.Fates

namespace GcodeSender

open Scalar Gcode

variable {α : Type} [Scalar α]

/-! ## Lines that are answered for -/

namespace Tracker

omit [Scalar α] in
/-- The lines that are pending, and the answers that have come in. -/
def accounted (t : Tracker α) : Nat := t.ledger.pending.length + t.answers

/-- A line joins the pending ones; a realtime byte does not. -/
theorem accounted_register (now : α) (command : Bytes) (t : Tracker α) :
    (t.register now command).state.accounted = t.accounted + (!isRealtime command).toNat := by
  obtain ⟨ledger, answers⟩ := register_account now command t
  rw [accounted, accounted, ledger, answers]
  cases kind : isRealtime command with
  | true => simp [Ledger.send_realtime kind]
  | false =>
    simp only [Ledger.send_line kind, List.length_append, List.length_singleton, Bool.not_false,
      Bool.toNat_true]
    omega

/-- An answer takes the place of the line that was pending. -/
theorem accounted_le_receive (message : Bytes) (t : Tracker α) :
    t.accounted ≤ (t.receive message).accounted := by
  cases kind : isAnswer message.trim with
  | true =>
    obtain ⟨ledger, answers⟩ := receive_answer kind t
    rw [accounted, accounted, ledger, answers]
    cases pending : t.ledger.pending with
    | nil => simp [Ledger.answer, pending]
    | cons n rest =>
      simp only [Ledger.answer_of_pending pending, List.length_cons]
      omega
  | false =>
    obtain ⟨ledger, answers⟩ := receive_other kind t
    exact Nat.le_of_eq (by rw [accounted, accounted, ledger, answers])

theorem accounted_le_receiveAll (messages : List Bytes) (t : Tracker α) :
    t.accounted ≤ (messages.foldl (fun t message => t.receive message) t).accounted := by
  induction messages generalizing t with
  | nil => exact Nat.le_refl _
  | cons message rest ih => exact Nat.le_trans (accounted_le_receive message t) (ih _)

theorem accounted_update (now : α) (t : Tracker α) :
    (t.update now).state.accounted = t.accounted := by
  obtain ⟨ledger, answers⟩ := update_account now t
  rw [accounted, accounted, ledger, answers]

end Tracker

namespace Link.Controller

omit [Scalar α] in
/-- Lines were queued and data was written; no line was lost, and every line that was written is
pending or was answered. -/
structure Delivers (c : Controller α) (queued written : List Bytes) (c' : Controller α) : Prop where
  fares : ∃ gone, Fares c queued written gone c' ∧ losses gone = 0
  owed : (written.filter isLine).length + c.tracker.accounted ≤ c'.tracker.accounted

variable {c c' c'' : Controller α} {queued queued' written written' : List Bytes}

namespace Delivers

omit [Scalar α] in
theorem refl (h : c.Orderly) : Delivers c [] [] c := ⟨⟨[], .refl h, rfl⟩, by simp⟩

omit [Scalar α] in
theorem orderly (h : Delivers c queued written c') : c'.Orderly := by
  obtain ⟨gone, fares, -⟩ := h.fares
  exact fares.orderly

omit [Scalar α] in
theorem trans (h : Delivers c queued written c') (h' : Delivers c' queued' written' c'') :
    Delivers c (queued ++ queued') (written ++ written') c'' := by
  obtain ⟨⟨gone, fares, nothing⟩, owed⟩ := h
  obtain ⟨⟨gone', fares', nothing'⟩, owed'⟩ := h'
  refine ⟨⟨gone ++ gone', fares.trans fares', by rw [losses_append, nothing, nothing']⟩, ?_⟩
  rw [List.filter_append, List.length_append]
  omega

omit [Scalar α] in
/-- The backlog is as it was, and bytes that are no lines may have been written. -/
theorem of_backlog (h : c.Orderly) (backlog : c'.backlog = c.backlog)
    (urgent : c'.immediate ⊆ c.immediate) (ledger : c'.tracker.ledger.Sound)
    (outgoing : c'.outgoing = c.outgoing ++ written) (bytes : written.filter isLine = [])
    (owed : c.tracker.accounted ≤ c'.tracker.accounted) : Delivers c [] written c' where
  fares := ⟨[], .of_backlog h backlog urgent ledger outgoing bytes, rfl⟩
  owed := by simpa [bytes] using owed

omit [Scalar α] in
/-- Nothing that concerns lines has changed. -/
theorem of_same (h : c.Orderly) (backlog : c'.backlog = c.backlog)
    (immediate : c'.immediate = c.immediate) (ledger : c'.tracker.ledger = c.tracker.ledger)
    (answers : c'.tracker.answers = c.tracker.answers) (outgoing : c'.outgoing = c.outgoing) :
    Delivers c [] [] c' where
  fares := ⟨[], .of_same h backlog immediate ledger outgoing, rfl⟩
  owed := by simp [Tracker.accounted, ledger, answers]

end Delivers

/-! ## Deeds deliver -/

omit [Scalar α] in
@[simp] theorem accounted_adopt (c : Controller α) (t : Tracker α) :
    (c.adopt t).tracker.accounted = t.accounted := rfl

theorem Accepted.accounted {piece : Bytes} (accepted : Accepted piece c c') :
    c.tracker.accounted ≤ c'.tracker.accounted := by
  cases accepted with
  | unfinished _ => exact Nat.le_refl _
  | blank _ _ => exact Nat.le_refl _
  | other _ _ => exact Nat.le_refl _
  | @answer line rest _ _ => exact Tracker.accounted_le_receive line.trim c.tracker

theorem Does.delivers (deed : Does c queued written c') (h : c.Orderly) :
    Delivers c queued written c' := by
  refine ⟨deed.fares h, ?_⟩
  cases deed with
  | aside _ _ _ _ => simp
  | queue _ _ => simp
  | urge _ => simp
  | @hear chunk rest port hport incoming =>
    have accepted := accept_accepted chunk { c with port := some { port with incoming := rest } }
    simpa using accepted.accounted
  | settle => simpa using (accept_accepted [] c).accounted
  | @writeByte now byte rest port immediate hport =>
    have notLine : isLine byte = false := h.urgent byte (by simp [immediate])
    have told : c.tracker.accounted ≤ (c.tracker.register now byte).state.accounted :=
      Tracker.accounted_register now byte c.tracker ▸ Nat.le_add_right _ _
    simpa [notLine] using told
  | @writeLine now line left port next fits hport =>
    have isLine := (h.next next).1
    have told : (c.tracker.register now line).state.accounted = c.tracker.accounted + 1 := by
      rw [Tracker.accounted_register, not_isRealtime_of_isLine isLine]
      rfl
    have counted : 1 + c.tracker.accounted ≤ (c.tracker.register now line).state.accounted := by
      omega
    simpa [isLine] using counted
  | @hold line left next _ _ =>
    rw [(nextLine?_eq next).2.1]
    simp
  | @drop line left next _ _ =>
    rw [(nextLine?_eq next).2.1]
    simp
  | takeUp =>
    have heard := Tracker.accounted_le_receiveAll c.received c.tracker
    simpa [takeReceived] using heard
  | play now => simpa using Nat.le_of_eq (Tracker.accounted_update now c.tracker).symm
  | close _ => simp
  | lose _ _ => simp

theorem Runs.delivers (runs : Runs c queued written c') (h : c.Orderly) :
    Delivers c queued written c' := by
  induction runs with
  | refl => exact .refl h
  | step _ last ih => exact ih.trans (last.delivers ih.orderly)

/-- The next line is delivered, or the connection has failed. -/
theorem writeStreaming_delivers (h : c.Orderly) (now : α) :
    (c.writeStreaming now).state.status = .fail ∨
      ∃ written, Delivers c [] written (c.writeStreaming now).state := by
  rcases writeStreaming_cases now c with
    ⟨written, runs⟩ | ⟨-, line, left, connection, -, status, failed⟩
  · exact .inr ⟨written, runs.delivers h⟩
  · rw [failed]
    exact .inl status

end Link.Controller

end GcodeSender
