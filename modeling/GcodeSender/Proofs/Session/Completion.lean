/-
# `GcodeSender.Proofs.Session.Completion` — streaming ends only when the work is done

The thread that streams the lines returns when it finds nothing queued, nothing
unanswered and nothing moving.  At that moment the thread that serves the port
may be anywhere in its pass.  Still no line can be missed: a line is queued or
held back, or pending, or answered, and it goes from the one to the next under
one hold of the lock.

    every line sent    =  written, too long, or in the backlog     (`Delivers`)
    every line written    is pending or answered                   (`Delivers`)
    every line that waits for a motion waits for one in flight     (`Poised`)

`Underway` says this of a job at every moment while the connection is up;
`Job.Lost` is what a job comes to once the port has failed, for within a job no
connection is made again.  One step of either thread, and one act of the device,
leads from the one to the one or the other (`Ongoing.step`), so a run does.

What has been found done stays done: the thread that serves the port has no line
left to write, and a realtime byte sets nothing in motion.
-/
import GcodeSender.Proofs.Link.Composure
import GcodeSender.Proofs.Link.Delivery
import GcodeSender.Proofs.Link.Handshake
import GcodeSender.Proofs.Link.Service
import GcodeSender.Proofs.Session.Interleaving

namespace GcodeSender

open Scalar Gcode

variable {α : Type} [Scalar α]

/-- Where nothing is pending, a message makes nothing pending. -/
theorem Tracker.pending_receive (t : Tracker α) (message : Bytes) (h : t.ledger.pending = []) :
    (t.receive message).ledger.pending = [] := by
  rcases Tracker.ledger_receive message t with answered | same
  · rw [answered]
    exact List.suffix_nil.1 (h ▸ Ledger.pending_answer_suffix t.ledger)
  · rw [same]
    exact h

namespace Link

namespace Controller

variable {c : Controller α}

/-! ## Reading and writing -/

omit [Scalar α] in
/-- A read changes the port, and what was written stays there; or it fails. -/
theorem read_cases (c : Controller α) :
    (∃ port, c.read.state = { c with port } ∧ c.read.state.outgoing = c.outgoing) ∨
      ∃ connection, c.read.state = { c with connection } ∧ connection.status = .fail ∧
        connection.desired = c.desired := by
  rw [read]
  split
  next => exact .inr ⟨_, rfl, status_setStatus c _, desired_setStatus c _⟩
  next port hport =>
    split
    next => exact .inr ⟨_, rfl, status_setStatus _ _, desired_setStatus _ _⟩
    next => exact .inl ⟨c.port, rfl, rfl⟩
    next =>
      split
      next => exact .inl ⟨c.port, rfl, rfl⟩
      next => exact .inl ⟨_, rfl, by simp [outgoing, hport, Step.done]⟩

omit [Scalar α] in
@[simp] theorem desired_write (data : Bytes) (c : Controller α) :
    (c.write data).1.desired = c.desired := by
  rw [write]
  split
  · exact desired_setStatus _ _
  · split
    · exact desired_setStatus _ _
    · rfl

theorem desired_writeStreaming (now : α) (c : Controller α) :
    (c.writeStreaming now).state.desired = c.desired := by
  rw [writeStreaming]
  split
  next => rfl
  next line left next =>
    obtain ⟨-, frame, -⟩ := nextLine?_eq next
    have desired : left.desired = c.desired := by rw [frame]; rfl
    split
    next => split <;> exact desired
    next =>
      have written := (desired_write line left).trans desired
      split <;> next wrote => rw [wrote] at written; exact written

/-! ## Work that is done -/

omit [Scalar α] in
/-- Nothing is queued or held back, nothing is unanswered, and nothing moves. -/
structure Finished (c : Controller α) : Prop where
  backlog : c.backlog = []
  pending : c.tracker.ledger.pending = []
  still : c.tracker.inMotion = false

omit [Scalar α] in
theorem finished_of_isFinished (h : Session.isFinished c = true) : c.Finished := by
  simp only [Session.isFinished, Bool.and_eq_true, beq_iff_eq, List.isEmpty_iff,
    Bool.not_eq_true'] at h
  obtain ⟨⟨queued, pending⟩, still⟩ := h
  refine ⟨List.eq_nil_of_length_eq_zero ?_, pending, still⟩
  rw [backlog, List.length_append, Nat.add_comm]
  exact queued

end Controller

/-! ## A step of the thread that serves the port -/

namespace Serving

open Controller

variable {c : Controller α} {phase : Serving}

/-- What is about to be written beside the lines is no line, and only of realtime bytes the tracker
is told then. -/
def Apt : Serving → Prop
  | .writing byte => isLine byte = false
  | .telling byte => isRealtime byte = true
  | _ => True

/-- A step leaves the connection alone, or the port has failed. -/
theorem step_link (now : α) (c : Controller α) (phase : Serving) :
    ((phase.step now c).state.status = c.status ∨ (phase.step now c).state.status = .fail) ∧
      (phase.step now c).state.desired = c.desired := by
  cases phase with
  | waiting | ended => exact ⟨.inl rfl, rfl⟩
  | reading =>
    show (c.read.state.status = _ ∨ c.read.state.status = _) ∧ c.read.state.desired = _
    rcases read_cases c with ⟨port, read, -⟩ | ⟨connection, read, failed, desired⟩
    · rw [read]
      exact ⟨.inl rfl, rfl⟩
    · rw [read]
      exact ⟨.inr failed, desired⟩
  | taking got =>
    rw [step]
    split
    · exact ⟨.inl rfl, rfl⟩
    · split <;> exact ⟨.inl rfl, rfl⟩
  | handing line =>
    show ((c.takeLine line).status = _ ∨ _) ∧ (c.takeLine line).desired = _
    rw [takeLine]
    split
    · exact ⟨.inl rfl, rfl⟩
    · split <;> exact ⟨.inl rfl, rfl⟩
  | urging =>
    rw [step]
    split <;> exact ⟨.inl rfl, rfl⟩
  | writing byte =>
    have status := (write_serves byte c).status
    have desired := desired_write byte c
    rw [step]
    split <;> next wrote => rw [wrote] at status desired; exact ⟨status, desired⟩
  | telling byte => exact ⟨.inl rfl, rfl⟩
  | streaming => exact ⟨(writeStreaming_serves now c).status, desired_writeStreaming now c⟩
  | asking =>
    show ((c.query now).status = _ ∨ _) ∧ (c.query now).desired = _
    rw [query]
    split <;> exact ⟨.inl rfl, rfl⟩

/-- A step delivers what it writes, or the port has failed. -/
theorem step_delivers (h : c.Orderly) (apt : phase.Apt) (now : α) :
    (phase.step now c).state.status = .fail ∨
      ∃ written, Delivers c [] written (phase.step now c).state := by
  cases phase with
  | waiting | ended => exact .inr ⟨[], .refl h⟩
  | reading =>
    show c.read.state.status = _ ∨ ∃ written, Delivers c [] written c.read.state
    rcases read_cases c with ⟨port, read, outgoing⟩ | ⟨connection, read, failed, -⟩
    · rw [read] at outgoing ⊢
      exact .inr ⟨[], .of_same h rfl rfl rfl rfl outgoing⟩
    · rw [read]
      exact .inl failed
  | taking got =>
    rw [step]
    split
    · exact .inr ⟨[], .refl h⟩
    · split <;> exact .inr ⟨[], .of_same h rfl rfl rfl rfl rfl⟩
  | handing line =>
    refine .inr ⟨[], ?_⟩
    show Delivers c [] [] (c.takeLine line)
    rw [takeLine]
    split
    · exact .refl h
    · split
      · exact .of_backlog h rfl (List.Subset.refl _) (h.ledger.receive line)
          (List.append_nil _).symm rfl (Tracker.accounted_le_receive line c.tracker)
      · exact .of_same h rfl rfl rfl rfl rfl
  | urging =>
    rw [step]
    split
    next => exact .inr ⟨[], .refl h⟩
    next byte rest immediate =>
      have popped : rest ⊆ c.immediate := immediate ▸ List.subset_cons_self _ _
      exact .inr ⟨[], .of_backlog h rfl popped h.ledger (List.append_nil _).symm rfl
        (Nat.le_refl _)⟩
  | writing byte =>
    have notLine : isLine byte = false := apt
    rcases write_cases c byte with ⟨port, hport, -, wrote⟩ | ⟨-, connection, wrote⟩
    · have outgoing : outgoing
          { c with port := some { port with written := port.written ++ [byte] } } =
            c.outgoing ++ [byte] := by simp [Controller.outgoing, hport]
      simp only [step, wrote]
      exact .inr ⟨[byte], .of_backlog h rfl (List.Subset.refl _) h.ledger outgoing
        (by simp [notLine]) (Nat.le_refl _)⟩
    · have failed := status_of_write_failed c byte (by rw [wrote])
      rw [wrote] at failed
      simp only [step, wrote]
      exact .inl failed
  | telling byte =>
    have told := Tracker.accounted_register now byte c.tracker
    refine .inr ⟨[], .of_backlog h rfl (List.Subset.refl _) (h.ledger.register now byte)
      (List.append_nil _).symm rfl ?_⟩
    exact told ▸ Nat.le_add_right _ _
  | streaming => exact writeStreaming_delivers h now
  | asking => exact .inr ⟨[], (query_runs now c).delivers h⟩

theorem step_poised {calm : Prop} (h : c.tracker.Poised calm) (now : α) (phase : Serving) :
    (phase.step now c).state.tracker.Poised (calm ∧ (phase.step now c).Completes) := by
  cases phase with
  | waiting | ended => exact h.imp And.left
  | reading =>
    have same : c.read.state.tracker = c.tracker := by
      rcases read_cases c with ⟨port, read, -⟩ | ⟨connection, read, -⟩ <;> rw [read]
    show c.read.state.tracker.Poised _
    rw [same]
    exact h.imp And.left
  | taking got =>
    rw [step]
    split
    · exact h.imp And.left
    · split <;> exact h.imp And.left
  | handing line =>
    have kept : (c.takeLine line).tracker.Poised calm := by
      rw [takeLine]
      split
      · exact h
      · split
        · exact (h.receive line).hushed
        · exact h
    exact kept.imp And.left
  | urging =>
    rw [step]
    split <;> exact h.imp And.left
  | writing byte =>
    have same := tracker_write byte c
    rw [step]
    split <;> next wrote => rw [wrote] at same; exact (same ▸ h).imp And.left
  | telling byte =>
    exact (h.register now byte).hushed.imp fun quiet => ⟨quiet.1, quiet.2.of_mapResult⟩
  | streaming =>
    exact (writeStreaming_poised h now).imp fun quiet => ⟨quiet.1, quiet.2.of_mapResult⟩
  | asking =>
    exact (query_poised h now).imp And.left

theorem step_apt (h : c.Orderly) (now : α) (phase next : Serving)
    (goes : (phase.step now c).result = .ok next) : next.Apt := by
  cases phase with
  | waiting =>
    cases goes
    split <;> trivial
  | reading =>
    simp only [step, Step.mapResult] at goes
    cases hresult : c.read.result with
    | ok got =>
      rw [hresult] at goes
      cases goes
      trivial
    | error fault =>
      rw [hresult] at goes
      cases goes
  | taking got =>
    rw [step] at goes
    split at goes
    · cases goes
      trivial
    · split at goes <;> cases goes <;> trivial
  | handing line =>
    cases goes
    trivial
  | urging =>
    rw [step] at goes
    split at goes
    next =>
      cases goes
      trivial
    next byte rest immediate =>
      cases goes
      exact h.urgent byte (by simp [immediate])
  | writing byte =>
    rw [step] at goes
    split at goes
    · cases goes
      trivial
    · cases goes
      split
      next realtime => exact realtime
      next => trivial
  | telling byte | streaming =>
    simp only [step, Step.mapResult] at goes
    generalize Step.result _ = result at goes
    cases result with
    | ok _ => cases goes; trivial
    | error _ => cases goes
  | asking | ended =>
    cases goes
    trivial

/-- What has been found done stays done. -/
theorem step_finished (h : c.Finished) {calm : Prop} (poised : c.tracker.Poised calm)
    (apt : phase.Apt) (now : α) : (phase.step now c).state.Finished := by
  cases phase with
  | waiting | ended => exact h
  | reading =>
    show c.read.state.Finished
    rcases read_cases c with ⟨port, read, -⟩ | ⟨connection, read, -⟩ <;> rw [read]
    · exact ⟨h.backlog, h.pending, h.still⟩
    · exact ⟨h.backlog, h.pending, h.still⟩
  | taking got =>
    rw [step]
    split
    · exact h
    · split <;> exact ⟨h.backlog, h.pending, h.still⟩
  | handing line =>
    show (c.takeLine line).Finished
    have heard := Tracker.receive_heard line c.tracker
    have still : (c.tracker.receive line).inMotion = false := by
      rw [Tracker.inMotion, heard.simulation]
      exact h.still
    have pending := c.tracker.pending_receive line h.pending
    rw [takeLine]
    split
    · exact h
    · split
      · exact ⟨h.backlog, pending, still⟩
      · exact ⟨h.backlog, h.pending, h.still⟩
  | urging =>
    rw [step]
    split
    · exact h
    · exact ⟨h.backlog, h.pending, h.still⟩
  | writing byte =>
    rcases write_cases c byte with ⟨port, -, -, wrote⟩ | ⟨-, connection, wrote⟩
    · simp only [step, wrote]
      exact ⟨h.backlog, h.pending, h.still⟩
    · simp only [step, wrote]
      exact ⟨h.backlog, h.pending, h.still⟩
  | telling byte =>
    have ledger := (Tracker.register_account now byte c.tracker).1
    rw [Ledger.send_realtime apt] at ledger
    refine ⟨h.backlog, ?_, poised.register_realtime h.still apt now⟩
    show (c.tracker.register now byte).state.ledger.pending = []
    rw [ledger]
    exact h.pending
  | streaming =>
    have empty : c.nextLine? = none := by
      cases hnext : c.nextLine? with
      | none => rfl
      | some taken =>
        have backlog := (nextLine?_eq hnext).1
        rw [h.backlog] at backlog
        cases backlog
    simp only [step, writeStreaming, empty]
    exact h
  | asking =>
    show (c.query now).Finished
    rw [query]
    split
    · exact ⟨h.backlog, h.pending, h.still⟩
    · exact h

end Serving

end Link

open Link Controller

/-! ## A step of the thread that streams the lines -/

namespace Streaming

variable {number : α → String} {s : Session α} {phase : Streaming}

/-- Only a step towards the desired status concerns the connection. -/
theorem step_link (number : α → String) (now : α) (s : Session α) (phase : Streaming)
    (other : phase ≠ .approaching) :
    (phase.step number now s).state.controller.status = s.controller.status ∧
      (phase.step number now s).state.controller.desired = s.controller.desired := by
  cases phase with
  | sending lines =>
    cases lines with
    | nil => exact ⟨rfl, rfl⟩
    | cons line rest =>
      obtain ⟨immediate, streaming, frame⟩ := send_frame line s.controller
      show (s.controller.send line).status = _ ∧ (s.controller.send line).desired = _
      rw [frame]
      exact ⟨rfl, rfl⟩
  | approaching => exact absurd rfl other
  | showing =>
    show (s.showState number).controller.status = _ ∧ (s.showState number).controller.desired = _
    rw [Session.showState]
    split <;> exact ⟨rfl, rfl⟩
  | looking | tracking | judging | returned | stopped => exact ⟨rfl, rfl⟩

/-- A step towards the desired status is made only where the connection was up just before. -/
theorem connected_of_step {now : α}
    (approaching : (phase.step number now s).result = .ok .approaching) :
    s.status = .connected := by
  cases phase with
  | sending lines => cases lines <;> cases approaching
  | looking =>
    by_cases connected : s.status = .connected
    · exact connected
    · simp [step, Step.done, connected] at approaching
  | tracking =>
    simp only [step, Step.mapResult] at approaching
    generalize Step.result _ = result at approaching
    cases result <;> cases approaching
  | judging =>
    simp only [step, Step.done] at approaching
    split at approaching <;> cases approaching
  | approaching | showing | returned | stopped => cases approaching

end Streaming

/-! ## A job -/

/-- A connection that has just come up: nothing is pending. -/
structure Link.Controller.JustConnected (calm : Prop) (c : Controller α) : Prop where
  connected : c.status = .connected
  desired : c.desired = .connected
  orderly : c.Orderly
  pending : c.tracker.ledger.pending = []
  poised : c.tracker.Poised calm

namespace Link.Controller

omit [Scalar α] in
theorem confirmOpen_clears {c : Controller α} (opens : c.opening = true) :
    c.confirmOpen.tracker.ledger.pending = [] ∧ c.confirmOpen.desired = c.desired := by
  cases hport : c.port with
  | none => simp [opening, hport] at opens
  | some port =>
    have isOpen : port.isOpen = true := by simpa [opening, hport] using opens
    have begun : c.beginConversation.tracker.ledger.pending = [] ∧
        c.beginConversation.desired = c.desired := by
      rw [beginConversation, send_greeting]
      exact ⟨rfl, rfl⟩
    have asked := desired_setStatus
      (c.beginConversation.logText .info ("Connected " ++ c.label ++ " " ++ c.portName)) .connected
    simp only [confirmOpen, hport, isOpen, if_true, startThread]
    split <;> exact ⟨begun.1, asked.trans begun.2⟩

omit [Scalar α] in
/-- A connection that is asked for has just come up when its port is confirmed open. -/
theorem justConnected_confirmOpen {calm : Prop} {c : Controller α} (h : c.Orderly)
    (poised : c.tracker.Poised calm) (asked : c.desired = .connected) (opens : c.opening = true) :
    c.confirmOpen.JustConnected calm where
  connected := (confirmOpen_queues opens).2.2
  desired := (confirmOpen_clears opens).2.trans asked
  orderly := (confirmOpen_fares h).orderly
  pending := (confirmOpen_clears opens).1
  poised := confirmOpen_poised poised

/-- The turn of the event loop that confirms the port open goes on; the connection is as it was. -/
theorem JustConnected.played {calm : Prop} {c : Controller α} (h : c.JustConnected calm) (now : α) :
    (c.takeReceived.advance now).state.JustConnected
      (calm ∧ (c.takeReceived.advance now).Completes) where
  connected := h.connected
  desired := h.desired
  orderly := ((Does.takeUp.runs.trans (Does.play now).runs).delivers h.orderly).orderly
  pending := by
    have heard : ∀ (messages : List Bytes) (t : Tracker α), t.ledger.pending = [] →
        (messages.foldl (fun t message => t.receive message) t).ledger.pending = [] := by
      intro messages
      induction messages with
      | nil => exact fun _ pending => pending
      | cons message rest ih => exact fun t pending => ih _ (t.pending_receive message pending)
    have same := (Tracker.update_account now c.takeReceived.tracker).1
    show (c.takeReceived.tracker.update now).state.ledger.pending = []
    rw [same]
    exact heard c.received c.tracker h.pending
  poised := ((h.poised.receiveAll c.received).hushed.update now).hushed

end Link.Controller

/-- Whatever has happened to a connection, it has just come up when its port is confirmed open. -/
theorem Link.Course.justConnected {s : Station α} (orderly : s.controller.Orderly)
    (poised : s.controller.tracker.Poised True) (turns : List (Turn α))
    (asked : ((Course.resume s).run turns).station.controller.desired = .connected)
    (opens : ((Course.resume s).run turns).station.controller.opening = true) :
    ((Course.resume s).run turns).station.controller.confirmOpen.JustConnected
      ((Course.resume s).Completes turns) := by
  obtain ⟨gone, accounted, -⟩ := (accounted_resume orderly).run turns
  have kept := Course.run_poised (t := Course.resume s) poised turns
  exact justConnected_confirmOpen accounted.orderly (kept.imp fun quiet => ⟨trivial, quiet⟩) asked
    opens

namespace Job

/-- While the connection is up: what was sent is delivered, and what waits for a motion waits for
one in flight. -/
structure Underway (calm : Prop) (c : Controller α) (lines : List Bytes) (j : Job α) : Prop where
  connected : j.controller.status = .connected
  desired : j.controller.desired = .connected
  delivered : ∃ sent written, lines = sent ++ j.streaming.unsent ∧
    Delivers c (sent.filterMap lineOf?) written j.controller
  poised : j.controller.tracker.Poised (calm ∧ j.raised = false)
  apt : j.serving.Apt
  finished : j.streaming = .returned → j.controller.Finished

/-- The connection has failed, and is not made again. -/
structure Lost (j : Job α) : Prop where
  desired : j.controller.desired ≠ .fail
  status : j.controller.status = .fail ∨
    j.controller.status = .cleanup ∧ j.streaming ≠ .approaching

variable {calm : Prop} {c : Controller α} {lines : List Bytes} {j : Job α}

omit [Scalar α] in
theorem Underway.start {s : Session α} (h : s.controller.JustConnected calm)
    (lines : List Bytes) : Underway calm s.controller lines (start s lines) where
  connected := h.connected
  desired := h.desired
  delivered := ⟨[], [], rfl, .refl h.orderly⟩
  poised := h.poised.imp And.left
  apt := trivial
  finished := nofun

namespace Underway

omit [Scalar α] in
theorem orderly (h : Underway calm c lines j) : j.controller.Orderly := by
  obtain ⟨sent, written, -, delivers⟩ := h.delivered
  exact delivers.orderly

omit [Scalar α] in
/-- What a step has to do: lines leave those to be sent, and all that is written is delivered. -/
theorem next (h : Underway calm c lines j) {j' : Job α} (sent : List Bytes) {written : List Bytes}
    (unsent : j.streaming.unsent = sent ++ j'.streaming.unsent)
    (delivers : Delivers j.controller (sent.filterMap lineOf?) written j'.controller)
    (link : j'.controller.status = j.controller.status ∧
      j'.controller.desired = j.controller.desired)
    (poised : j'.controller.tracker.Poised (calm ∧ j'.raised = false)) (apt : j'.serving.Apt)
    (finished : j'.streaming = .returned → j'.controller.Finished) :
    Underway calm c lines j' where
  connected := link.1.trans h.connected
  desired := link.2.trans h.desired
  delivered := by
    obtain ⟨before, writtenBefore, hlines, deliversBefore⟩ := h.delivered
    refine ⟨before ++ sent, writtenBefore ++ written, ?_, ?_⟩
    · rw [hlines, unsent, List.append_assoc]
    · rw [List.filterMap_append]
      exact deliversBefore.trans delivers
  poised := poised
  apt := apt
  finished := finished

section Phases

variable {session : Session α} {serving : Serving} {raised : Bool}

omit [Scalar α] in
/-- The thread that streams goes on without a line, and leaves all as it is. -/
theorem onwards {phase phase' : Streaming}
    (h : Underway calm c lines ⟨session, phase, serving, raised⟩)
    (same : phase.unsent = phase'.unsent)
    (finished : phase' = .returned → session.controller.Finished) :
    Underway calm c lines ⟨session, phase', serving, raised⟩ :=
  have orderly : session.controller.Orderly := h.orderly
  h.next [] same (.refl orderly) ⟨rfl, rfl⟩ h.poised h.apt finished

/-- The next line is sent. -/
theorem send {line : Bytes} {rest : List Bytes}
    (h : Underway calm c lines ⟨session, .sending (line :: rest), serving, raised⟩)
    (number : α → String) (now : α) :
    Underway calm c lines
      (Job.stream number now ⟨session, .sending (line :: rest), serving, raised⟩) := by
  have queued := (send_runs session.controller line).delivers h.orderly
  have link := Streaming.step_link number now session (.sending (line :: rest)) nofun
  have tracker : (session.controller.send line).tracker = session.controller.tracker := by
    obtain ⟨immediate, streaming, frame⟩ := send_frame line session.controller
    rw [frame]
  have one : [line].filterMap lineOf? = (lineOf? line).toList := by
    cases h : lineOf? line <;> simp [h]
  refine h.next [line] rfl (one ▸ queued) link ?_ h.apt nofun
  show (session.controller.send line).tracker.Poised _
  rw [tracker]
  exact h.poised

/-- The messages are taken up and the motion is played on. -/
theorem track (h : Underway calm c lines ⟨session, .tracking, serving, raised⟩)
    (number : α → String) (now : α) :
    Underway calm c lines (Job.stream number now ⟨session, .tracking, serving, raised⟩) := by
  have played : Delivers session.controller [] []
      (session.controller.takeReceived.advance now).state :=
    (Does.takeUp.runs.trans (Does.play now).runs).delivers h.orderly
  have poised := ((h.poised.receiveAll session.controller.received).hushed.update now).hushed
  simp only [Job.stream, Streaming.step, Step.mapResult, Step.mapState]
  cases outcome : (session.controller.takeReceived.advance now).result with
  | ok _ =>
    refine h.next [] rfl played ⟨rfl, rfl⟩ (poised.imp ?_) h.apt (by rintro ⟨⟩)
    exact fun quiet => ⟨quiet, _, outcome⟩
  | error fault =>
    refine h.next [] rfl played ⟨rfl, rfl⟩ (poised.imp ?_) h.apt (by rintro ⟨⟩)
    rintro ⟨-, ⟨⟩⟩

/-- The state is shown. -/
theorem display (h : Underway calm c lines ⟨session, .showing, serving, raised⟩)
    (number : α → String) (now : α) :
    Underway calm c lines (Job.stream number now ⟨session, .showing, serving, raised⟩) := by
  have link := Streaming.step_link number now session .showing nofun
  have shown : Delivers session.controller [] [] (session.showState number).controller ∧
      (session.showState number).controller.tracker.Poised (calm ∧ raised = false) := by
    rw [Session.showState]
    split
    · exact ⟨.of_same h.orderly rfl rfl rfl rfl rfl, h.poised.of_same rfl rfl rfl⟩
    · exact ⟨.refl h.orderly, h.poised⟩
  exact h.next [] rfl shown.1 link shown.2 h.apt nofun

end Phases

/-- A step of the thread that streams the lines. -/
theorem stream (h : Underway calm c lines j) (number : α → String) (now : α) :
    Underway calm c lines (j.stream number now) := by
  obtain ⟨session, streaming, serving, raised⟩ := j
  cases streaming with
  | sending rest =>
    cases rest with
    | nil => exact h.onwards rfl (by rintro ⟨⟩)
    | cons line rest => exact h.send number now
  | looking =>
    have looks : (if session.status = .connected then Streaming.approaching else .returned) =
        .approaching := if_pos h.connected
    show Underway calm c lines ⟨session, _, serving, raised⟩
    rw [looks]
    exact h.onwards rfl (by rintro ⟨⟩)
  | approaching =>
    have there : session.station.approach = session.station := by
      rw [Station.approach]
      exact if_pos (h.connected.trans h.desired.symm)
    show Underway calm c lines ⟨{ session with station := session.station.approach }, _, _, _⟩
    rw [there]
    exact h.onwards rfl (by rintro ⟨⟩)
  | tracking => exact h.track number now
  | showing => exact h.display number now
  | judging =>
    show Underway calm c lines ⟨session, _, serving, raised⟩
    split
    next finished => exact h.onwards rfl fun _ => finished_of_isFinished finished
    next => exact h.onwards rfl (by rintro ⟨⟩)
  | returned => exact h
  | stopped => exact h

theorem device (h : Underway calm c lines j) (number : α → String) (chunks : List Bytes)
    (readFault : Option ReadFault) (writeFault : Option String) :
    Underway calm c lines (j.step number (.device chunks readFault writeFault)) := by
  have outgoing := outgoing_mapPort j.controller
    (fun p => { p.receive chunks with readFault, writeFault }) fun _ => rfl
  refine h.next [] rfl (.of_same h.orderly rfl rfl rfl rfl outgoing) ⟨rfl, rfl⟩ h.poised
    h.apt fun returned => ?_
  obtain ⟨backlog, pending, still⟩ := h.finished returned
  exact ⟨backlog, pending, still⟩

/-- A step of the thread that serves the port. -/
theorem serve (h : Underway calm c lines j) (now : α) :
    Underway calm c lines (j.serve now) ∨ (j.serve now).Lost := by
  obtain ⟨session, streaming, serving, raised⟩ := j
  obtain ⟨status, desired⟩ := Serving.step_link now session.controller serving
  have delivers := Serving.step_delivers h.orderly h.apt now
  have poised := Serving.step_poised h.poised now serving
  have apt := Serving.step_apt h.orderly now serving
  have finished := fun returned => Serving.step_finished (h.finished returned) h.poised h.apt now
  rw [Job.serve]
  dsimp only [Job.controller] at *
  generalize serving.step now session.controller = outcome at *
  obtain ⟨c', result⟩ := outcome
  by_cases failed : c'.status = .fail
  · have asked : c'.desired = .connected := desired.trans h.desired
    have noFail : c'.desired ≠ .fail := by
      rw [asked]
      nofun
    right
    cases result with
    | ok next => exact ⟨noFail, .inl failed⟩
    | error fault => exact ⟨noFail, .inl failed⟩
  · have stays := status.resolve_right failed
    obtain ⟨written, delivers⟩ := delivers.resolve_left failed
    left
    cases result with
    | ok next =>
      exact h.next [] rfl delivers ⟨stays, desired⟩
        (poised.imp fun quiet => ⟨quiet, next, rfl⟩) (apt next rfl) finished
    | error fault =>
      exact h.next [] rfl delivers ⟨stays, desired⟩
        (poised.imp fun quiet => nomatch quiet.2) trivial finished

end Underway

namespace Lost

theorem serve (h : j.Lost) (now : α) : (j.serve now).Lost := by
  obtain ⟨status, desired⟩ := Serving.step_link now j.controller j.serving
  have noFail : (j.serving.step now j.controller).state.desired ≠ .fail := desired ▸ h.desired
  have down : (j.serving.step now j.controller).state.status = .fail ∨
      (j.serving.step now j.controller).state.status = .cleanup ∧ j.streaming ≠ .approaching := by
    rcases status with same | failed
    · rw [same]
      exact h.status
    · exact .inl failed
  rw [Job.serve]
  split <;> next outcome => rw [outcome] at noFail down; exact ⟨noFail, down⟩

omit [Scalar α] in
/-- The connection is given up. -/
theorem approach {s : Station α} (desired : s.controller.desired ≠ .fail)
    (failed : s.controller.status = .fail) :
    s.approach.controller.desired = .notConnected ∧ s.approach.controller.status = .cleanup := by
  have gives : s.approach = s.mapController (·.giveUp) := by
    simp only [Station.approach, failed, if_neg desired.symm]
    rfl
  rw [gives]
  exact ⟨desired_setStatus _ _, status_setStatus _ _⟩

theorem stream (h : j.Lost) (number : α → String) (now : α) : (j.stream number now).Lost := by
  obtain ⟨session, streaming, serving, raised⟩ := j
  by_cases turning : streaming = .approaching
  · subst turning
    have failed := h.status.resolve_right fun cleaned => cleaned.2 rfl
    obtain ⟨desired, status⟩ := approach h.desired failed
    refine ⟨?_, .inr ⟨status, nofun⟩⟩
    show session.station.approach.controller.desired ≠ .fail
    rw [desired]
    nofun
  · obtain ⟨status, desired⟩ := Streaming.step_link number now session streaming turning
    have noFail : (streaming.step number now session).state.controller.desired ≠ .fail :=
      desired ▸ h.desired
    have down : (streaming.step number now session).state.controller.status = .fail ∨
        (streaming.step number now session).state.controller.status = .cleanup ∧
          (streaming.step number now session).result ≠ .ok .approaching := by
      rw [status]
      refine h.status.imp_right fun cleaned => ⟨cleaned.1, fun approaching => ?_⟩
      have connected := Streaming.connected_of_step approaching
      cases connected.symm.trans cleaned.1
    simp only [Job.stream]
    split
    next next outcome =>
      rw [outcome] at noFail down
      exact ⟨noFail, down.imp_right fun cleaned => ⟨cleaned.1, fun h => cleaned.2 (congrArg _ h)⟩⟩
    next outcome =>
      rw [outcome] at noFail down
      exact ⟨noFail, down.imp_right fun cleaned => ⟨cleaned.1, nofun⟩⟩

end Lost

/-- One act keeps what holds of a job while the connection is up, or the connection is lost. -/
theorem step_ongoing (number : α → String) (act : Act α) (h : Underway calm c lines j ∨ j.Lost) :
    Underway calm c lines (j.step number act) ∨ (j.step number act).Lost := by
  rcases h with up | lost
  · cases act with
    | serve now => exact up.serve now
    | stream now => exact .inl (up.stream number now)
    | device chunks readFault writeFault =>
      exact .inl (up.device number chunks readFault writeFault)
  · cases act with
    | serve now => exact .inr (lost.serve now)
    | stream now => exact .inr (lost.stream number now)
    | device chunks readFault writeFault => exact .inr ⟨lost.desired, lost.status⟩

theorem run_ongoing (number : α → String) (acts : List (Act α))
    (h : Underway calm c lines j ∨ j.Lost) :
    Underway calm c lines (j.run number acts) ∨ (j.run number acts).Lost := by
  induction acts generalizing j with
  | nil => exact h
  | cons act rest ih => exact ih (step_ongoing number act h)

/-- Streaming ends only when the work is done.  However the two threads take turns and whatever the
device does: if the thread that streams has returned and the connection is still up, then of all
lines that waited or were sent, those shorter than the buffer have been written, in order, and no
others; as many answers have come in since as lines were written; nothing is queued or held back,
nothing moves, and if no fault has ended a thread, now or before, no line waits to move.  (A write
that fails ends the connection, so that none has failed here.) -/
theorem done_of_returned {number : α → String} {s : Session α}
    (up : s.controller.JustConnected calm) {lines : List Bytes} {acts : List (Act α)}
    (returned : ((start s lines).run number acts).streaming = .returned)
    (connected : ((start s lines).run number acts).controller.status = .connected) :
    let j := (start s lines).run number acts
    let c := s.controller
    let c' := j.controller
    ∃ written, c'.outgoing = c.outgoing ++ written ∧
      written.filter isLine = (c.backlog ++ lines.filterMap lineOf?).filter isShort ∧
      (written.filter isLine).length + c.tracker.answers ≤ c'.tracker.answers ∧
      c'.streaming = [] ∧ c'.heldBack = none ∧ c'.tracker.inMotion = false ∧
      (calm → j.raised = false → c'.tracker.queue = []) := by
  intro j c c'
  have ongoing := run_ongoing number acts (.inl (Underway.start up lines))
  rcases ongoing with underway | lost
  · obtain ⟨backlog, pending, still⟩ := underway.finished returned
    obtain ⟨sent, written, hlines, delivers⟩ := underway.delivered
    obtain ⟨⟨gone, fares, nothing⟩, owed⟩ := delivers
    obtain rfl : lines = sent := by
      rw [hlines, returned]
      exact List.append_nil sent
    have emptied := List.append_eq_nil_iff.1 backlog
    refine ⟨written, fares.outgoing, ?_, ?_, emptied.2, ?_, still, fun quiet noFault => ?_⟩
    · rw [fares.written, withFate_written fares.apt nothing, fares.backlog, backlog,
        List.append_nil]
    · rw [Tracker.accounted, Tracker.accounted, up.pending, pending] at owed
      simpa using owed
    · exact Option.toList_eq_nil_iff.1 emptied.1
    · by_cases waiting : c'.tracker.queue = []
      · exact waiting
      · have moving := underway.poised.waiting ⟨quiet, noFault⟩ waiting
        cases still.symm.trans moving
  · rcases lost.status with failed | ⟨cleaned, -⟩
    · cases connected.symm.trans failed
    · cases connected.symm.trans cleaned

/-- Two moves and a realtime query, behind the greeting; the second move waits for the first, and
the thread that serves the port is in the middle of a pass when the other one returns. -/
theorem done_of_returned_two_moves :
    let s : Session Float :=
      { station := connectedStation.mapController fun c => (c.setStatus .connecting).confirmOpen }
    let lines := [Bytes.ofText "G1 X3 F3000", Bytes.ofText " ", Bytes.ofText "?",
      Bytes.ofText "G0 X1"]
    let answer : Act Float := .device [Bytes.ofText "ok\r\n"] none none
    let both : List (Act Float) := (List.replicate 12 [.serve 1.25, .stream 1.25]).flatten
    let acts := List.replicate 6 (.stream 0) ++ List.replicate 33 (.serve 1) ++ [answer] ++ both ++
      [answer] ++ List.replicate 13 (.serve 1.25) ++ [answer] ++ both
    let j := (start s lines).run (fun _ => "") acts
    s.controller.JustConnected True ∧ j.streaming = .returned ∧
      j.controller.status = .connected ∧ j.serving = .asking ∧
      (∃ written, j.controller.outgoing = s.controller.outgoing ++ written ∧
        written.filter isLine =
          [greeting, Bytes.ofText "G1 X3 F3000\n", Bytes.ofText "G0 X1\n"]) ∧
      3 ≤ j.controller.tracker.answers ∧ j.controller.tracker.queue = [] := by
  intro s lines answer both acts
  have orderly : connectedStation.controller.Orderly :=
    ⟨⟨rfl, rfl⟩, List.forall_mem_nil _, List.forall_mem_nil _⟩
  have up : s.controller.JustConnected True :=
    justConnected_confirmOpen (c := connectedStation.controller.setStatus .connecting)
      ⟨orderly.ledger, orderly.lines, orderly.urgent⟩ (Tracker.Poised.fresh true) rfl rfl
  have those : (s.controller.backlog ++ lines.filterMap lineOf?).filter isShort =
      [greeting, Bytes.ofText "G1 X3 F3000\n", Bytes.ofText "G0 X1\n"] := by decide +kernel
  have returned : ((start s lines).run (fun _ => "") acts).streaming = .returned := by
    decide +kernel
  have connected : ((start s lines).run (fun _ => "") acts).controller.status = .connected := by
    decide +kernel
  have inPass : ((start s lines).run (fun _ => "") acts).serving = .asking := by decide +kernel
  have unstopped : ((start s lines).run (fun _ => "") acts).raised = false := by decide +kernel
  have done := done_of_returned up returned connected
  generalize (start s lines).run (fun _ => "") acts = j
    at returned connected inPass unstopped done ⊢
  obtain ⟨written, outgoing, short, answered, -, -, -, waiting⟩ := done
  rw [those] at short
  rw [short] at answered
  exact ⟨up, returned, connected, inPass, ⟨written, outgoing, short⟩,
    Nat.le_of_add_right_le answered, waiting trivial unstopped⟩

end Job

end GcodeSender
