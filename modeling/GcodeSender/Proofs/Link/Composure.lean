/-
# `GcodeSender.Proofs.Link.Composure` — whatever happens to a connection, nothing waits for nothing

A tracker is `Poised` when its flags and slots agree, and its lines wait only for
a motion in flight.  It is told of what a controller writes and receives, so
what keeps it poised keeps it so in every history of a connection:

    reading, writing, passes, turns of the event loop     `pass_poised`, `Turn.poised`
    a run of turns                                        `Course.run_poised`

Only a turn that a fault stops may leave lines behind that wait for nothing; so
they may after a run in which one was stopped (`Course.Completes`).
-/
import GcodeSender.Proofs.Link.Holes
import GcodeSender.Proofs.Tracker.Poise

namespace GcodeSender

open Scalar Gcode

variable {α : Type} [Scalar α]

theorem Step.Completes.of_mapResult {σ ρ ρ' : Type} {f : ρ → ρ'} {a : Step σ ρ}
    (h : (a.mapResult f).Completes) : a.Completes := by
  obtain ⟨_, ended⟩ := h
  exact Step.result_of_mapResult ended

namespace Tracker.Poised

variable {calm : Prop} {t : Tracker α}

omit [Scalar α] in
theorem hushed (h : t.Poised calm) : t.hushed.Poised calm := h.of_same rfl rfl rfl

end Tracker.Poised

namespace Link

namespace Controller

variable {c : Controller α} {calm : Prop}

/-! ## The pass -/

theorem accept_poised (h : c.tracker.Poised calm) (piece : Bytes) :
    (c.accept piece).tracker.Poised calm := by
  have accepted := accept_accepted piece c
  generalize c.accept piece = c' at accepted ⊢
  cases accepted with
  | unfinished _ | blank _ _ | other _ _ => exact h
  | @answer line _ _ _ => exact (h.receive line.trim).hushed

omit [Scalar α] in
@[simp] theorem tracker_read (c : Controller α) : c.read.state.tracker = c.tracker := by
  rw [read]
  split
  · rfl
  · split <;> try rfl
    split <;> rfl

theorem readOn_poised (h : c.tracker.Poised calm) (got : Bytes) :
    (readOn got c).state.tracker.Poised calm := by
  induction got, c using readOn.induct with
  | case1 got c done =>
    rw [readOn, if_pos done]
    exact h
  | case2 got c goes c' next hread ih =>
    have read := tracker_read (c.accept got)
    rw [hread] at read
    rw [readOn_of_read goes hread]
    exact ih (read.symm ▸ accept_poised h got)
  | case3 got c goes c' fault hread =>
    rw [readOn_of_error goes hread]
    exact accept_poised h got

omit [Scalar α] in
@[simp] theorem tracker_write (data : Bytes) (c : Controller α) :
    (c.write data).1.tracker = c.tracker := by
  rcases write_cases c data with ⟨port, -, -, wrote⟩ | ⟨-, connection, wrote⟩ <;> rw [wrote]

/-- A byte that is written may stop motions, and set others going. -/
theorem writeImmediate_poised (h : c.tracker.Poised calm) (now : α) :
    (c.writeImmediate now).state.tracker.Poised (calm ∧ (c.writeImmediate now).Completes) := by
  rw [writeImmediate]
  split
  next => exact h.imp And.left
  next byte rest _ =>
    have poised : ({ c with immediate := rest }.write byte).1.tracker.Poised calm := by
      rw [tracker_write]
      exact h
    split
    next wrote =>
      rw [wrote] at poised
      exact poised.imp And.left
    next wrote =>
      rw [wrote] at poised
      split
      · exact (poised.register now byte).hushed.imp fun quiet => ⟨quiet.1, quiet.2.of_mapResult⟩
      · exact poised.imp And.left

/-- A line that is written may set motions going. -/
theorem writeStreaming_poised {calm : Prop} (h : c.tracker.Poised calm) (now : α) :
    (c.writeStreaming now).state.tracker.Poised (calm ∧ (c.writeStreaming now).Completes) := by
  rw [writeStreaming]
  split
  next => exact h.imp And.left
  next line left next =>
    obtain ⟨-, frame, -⟩ := nextLine?_eq next
    have poised : left.tracker.Poised calm := by
      rw [frame]
      exact h
    split
    next => split <;> exact poised.imp And.left
    next =>
      rw [← tracker_write line left] at poised
      split
      next wrote =>
        rw [wrote] at poised
        exact poised.imp And.left
      next wrote =>
        rw [wrote] at poised
        exact (poised.register now line).hushed.imp fun quiet => ⟨quiet.1, quiet.2.of_mapResult⟩

omit [Scalar α] in
/-- One piece of work after another. -/
theorem andThen_poised {ρ ρ' : Type} {a : Step (Controller α) ρ}
    {next : ρ → Controller α → Step (Controller α) ρ'}
    (first : a.state.tracker.Poised (calm ∧ a.Completes))
    (rest : ∀ r, a.state.tracker.Poised calm →
      (next r a.state).state.tracker.Poised (calm ∧ (next r a.state).Completes)) :
    (a.andThen next).state.tracker.Poised (calm ∧ (a.andThen next).Completes) := by
  obtain ⟨c', result⟩ := a
  cases result with
  | ok r => exact rest r (first.imp fun quiet => ⟨quiet, r, rfl⟩)
  | error fault =>
    refine first.imp ?_
    rintro ⟨-, _, ended⟩
    cases ended

theorem writeNext_poised (h : c.tracker.Poised calm) (now : α) :
    (c.writeNext now).state.tracker.Poised (calm ∧ (c.writeNext now).Completes) := by
  refine andThen_poised (writeImmediate_poised h now) fun wrote urgent => ?_
  split
  · exact urgent.imp And.left
  · exact (writeStreaming_poised urgent now).imp fun quiet => ⟨quiet.1, quiet.2.of_mapResult⟩

theorem readAll_poised (h : c.tracker.Poised calm) : c.readAll.state.tracker.Poised calm := by
  rw [← tracker_read c] at h
  rw [readAll, Step.andThen]
  split
  · exact readOn_poised h _
  · exact h

theorem query_poised (h : c.tracker.Poised calm) (now : α) :
    (c.query now).tracker.Poised calm := by
  rw [query]
  split <;> exact h

theorem pass_poised (h : c.tracker.Poised calm) (now : α) :
    (c.pass now).state.tracker.Poised (calm ∧ (c.pass now).Completes) := by
  rw [pass]
  split
  · refine andThen_poised ((readAll_poised h).imp And.left) fun _ read => ?_
    refine andThen_poised (writeNext_poised read now) fun _ wrote => ?_
    exact (query_poised wrote now).imp And.left
  · exact h.imp And.left

/-! ## Sending, opening and closing -/

omit [Scalar α] in
/-- What is sent joins a queue. -/
theorem send_frame (command : Bytes) (c : Controller α) :
    ∃ immediate streaming, c.send command = { c with immediate, streaming } := by
  rw [send]
  split
  · exact ⟨_, _, rfl⟩
  · dsimp only
    split <;> exact ⟨_, _, rfl⟩

omit [Scalar α] in
theorem send_poised (h : c.tracker.Poised calm) (command : Bytes) :
    (c.send command).tracker.Poised calm := by
  obtain ⟨immediate, streaming, frame⟩ := send_frame command c
  rw [frame]
  exact h

omit [Scalar α] in
theorem Winds.tracker {c c' : Controller α} (h : Winds c c') : c'.tracker = c.tracker := by
  induction h with
  | refl => rfl
  | aside _ _ _ _ _ ih => exact ih
  | close _ _ ih => exact ih
  | lose _ _ ih => exact ih

omit [Scalar α] in
/-- The conversation that begins when a port is confirmed open leaves motion alone. -/
theorem confirmOpen_poised (h : c.tracker.Poised calm) : c.confirmOpen.tracker.Poised calm := by
  rw [confirmOpen]
  split
  · exact h
  · split
    · have begun : c.beginConversation.tracker.Poised calm := by
        rw [beginConversation, send_greeting]
        exact h.of_same rfl rfl rfl
      simp only [startThread]
      split <;> exact begun
    · exact h

end Controller

namespace Station

open Controller

variable {s : Station α} {calm : Prop}

omit [Scalar α] in
theorem connect_tracker (s : Station α) : s.connect.controller.tracker = s.controller.tracker := by
  rw [connect]
  dsimp only
  split <;> try rfl
  split
  · rfl
  · split <;> rfl

omit [Scalar α] in
theorem confirmClosed_tracker (s : Station α) :
    s.confirmClosed.controller.tracker = s.controller.tracker := by
  rw [confirmClosed]
  split
  · rfl
  · split <;> rfl

omit [Scalar α] in
theorem approach_poised (h : s.controller.tracker.Poised calm) :
    s.approach.controller.tracker.Poised calm := by
  rw [approach]
  split
  · exact h
  · split
    · exact confirmOpen_poised h
    · split
      · rw [confirmClosed_tracker]
        exact h
      · split
        · exact h
        · split
          · rw [connect_tracker]
            exact h
          · exact (disconnect_winds s.controller).tracker ▸ h

theorem update_poised (h : s.controller.tracker.Poised calm) (now : α) :
    (s.update now).state.controller.tracker.Poised (calm ∧ (s.update now).Completes) := by
  have heard := ((approach_poised h).receiveAll s.approach.controller.received).hushed
  exact (heard.update now).hushed

end Station

/-! ## Turns -/

namespace Turn

open Controller

/-- No fault stops the turn. -/
def Completes (s : Station α) : Turn α → Prop
  | .act (.call (.pass now)) => (s.controller.pass now).Completes
  | .act (.call (.update now)) => (s.update now).Completes
  | .act (.writeImmediate now) => (s.controller.writeImmediate now).Completes
  | .act (.writeStreaming now) => (s.controller.writeStreaming now).Completes
  | _ => True

theorem poised {s : Station α} {calm : Prop} (h : s.controller.tracker.Poised calm)
    (turn : Turn α) :
    (turn.apply s).controller.tracker.Poised (calm ∧ turn.Completes s) := by
  cases turn with
  | act action =>
    cases action with
    | call asked =>
      cases asked with
      | pass now => exact pass_poised h now
      | update now => exact Station.update_poised h now
      | send command => exact (send_poised h command).imp And.left
      | jog j => exact (send_poised h _).imp And.left
      | jogAbsolute j => exact (send_poised h _).imp And.left
      | cancelJog => exact h.imp And.left
    | writeImmediate now => exact writeImmediate_poised h now
    | writeStreaming now => exact writeStreaming_poised h now
    | accept piece => exact (accept_poised h piece).imp And.left
    | arrive chunks | failRead fault => exact h.imp And.left
  | confirmOpen => exact (confirmOpen_poised h).imp And.left
  | confirmClosed => exact (Station.confirmClosed_tracker s ▸ h).imp And.left
  | connect => exact (Station.connect_tracker s ▸ h).imp And.left
  | disconnect => exact ((disconnect_winds s.controller).tracker ▸ h).imp And.left
  | setSimulates enabled =>
    have kept : (s.controller.setSimulates enabled).tracker.Poised calm := by
      rw [Controller.setSimulates]
      split
      · exact h
      · exact h.toggle.hushed
    exact kept.imp And.left
  | setStatus | setDesired | setJogFeed | port | host => exact h.imp And.left

end Turn

namespace Course

/-- No fault stops one of the turns. -/
def Completes : Course α → List (Turn α) → Prop
  | _, [] => True
  | t, turn :: rest => turn.Completes t.station ∧ Completes (t.step turn) rest

/-- Whatever happens to a connection, slots and flags agree; and while no turn is stopped, lines
wait only for a motion in flight. -/
theorem run_poised {t : Course α} {calm : Prop} (h : t.station.controller.tracker.Poised calm)
    (turns : List (Turn α)) :
    (t.run turns).station.controller.tracker.Poised (calm ∧ t.Completes turns) := by
  induction turns generalizing t calm with
  | nil => exact h.imp And.left
  | cons turn rest ih =>
    have stepped : (t.step turn).station.controller.tracker.Poised
        (calm ∧ turn.Completes t.station) := turn.poised h
    refine (ih stepped).imp ?_
    rintro ⟨quiet, here, later⟩
    exact ⟨⟨quiet, here⟩, later⟩

end Course

end Link

end GcodeSender
