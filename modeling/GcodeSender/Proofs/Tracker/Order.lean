/-
# `GcodeSender.Proofs.Tracker.Order` — lines are simulated in the order they were sent

A line that moves joins the end of the queue and is handed over from its head.
Between the two, only two things take a line away: the cancelling byte takes
the jogs, and turning simulation off takes everything.  So the lines that were
sent fall into three lots:

    sent t es        handed over, still waiting, or withdrawn while waiting
    withdrawn t es   the third lot
    roll             the first two, in the order of sending

`roll` is written down event by event: a line that moves is put at the end, and
what an event withdraws is struck from the end, where the waiting lines stand.
Nothing in it speaks of ticks, of what is in flight or of draining.

`roll_eq` says that the lines handed over, followed by those that wait, are the
roll; `starts_sublist_sent` and `starts_perm_sent` compare it with all that was
sent.  They hold of every history, also where events are stopped half-way.  A
line carries the modes and the feed in force when it was sent (`entryFor?`,
`sent_of_mem`), and what it comes to is planned with those (`plan`).
-/
import GcodeSender.Proofs.Tracker.History

namespace GcodeSender.Tracker

open Scalar Gcode

variable {α : Type} [Scalar α]

/-! ## The roll of the lines that move -/

/-- The waiting lines that an event leaves in the queue, as long as none is handed over. -/
def Event.kept (t : Tracker α) : Event α → List (QueuedMotion α)
  | .register _ command => if command = [jogCancel] then t.queue.filter (!·.isJog) else t.queue
  | .toggle => if t.simulates then [] else t.queue
  | .receive _ | .update _ => t.queue

/-- The waiting lines that an event withdraws. -/
def Event.withdrawn (t : Tracker α) : Event α → List (QueuedMotion α)
  | .register _ command => if command = [jogCancel] then t.queue.filter (·.isJog) else []
  | .toggle => if t.simulates then t.queue else []
  | .receive _ | .update _ => []

/-- The line that an event adds to the queue. -/
def Event.joined (t : Tracker α) : Event α → Option (QueuedMotion α)
  | .register _ command => t.entryFor? command
  | .receive _ | .update _ | .toggle => none

/-- The lines sent to move in the course of a history. -/
def sent (t : Tracker α) : List (Event α) → List (QueuedMotion α)
  | [] => []
  | e :: rest => (e.joined t).toList ++ sent (e.apply t).state rest

/-- The lines withdrawn in the course of a history. -/
def withdrawn (t : Tracker α) : List (Event α) → List (QueuedMotion α)
  | [] => []
  | e :: rest => e.withdrawn t ++ withdrawn (e.apply t).state rest

/-- The lines sent to move and not withdrawn, in the order of sending.  `listed` are those before
the events; the ones that wait stand at its end, and only they can be withdrawn. -/
def roll (listed : List (QueuedMotion α)) (t : Tracker α) : List (Event α) → List (QueuedMotion α)
  | [] => listed
  | e :: rest =>
    let nowhereWaiting := listed.take (listed.length - t.queue.length)
    roll (nowhereWaiting ++ e.kept t ++ (e.joined t).toList) (e.apply t).state rest

/-- One event: the lines handed over, and those that wait. -/
theorem apply_starts (e : Event α) (t : Tracker α) :
    (e.apply t).state.machine.starts ++ (e.apply t).state.queue =
      t.machine.starts ++ e.kept t ++ (e.joined t).toList := by
  cases e with
  | register now command =>
    have h := register_registered now command t
    have noted := noted_noted command t
    simp only [Event.apply, Step.mapResult, Event.kept, Event.joined]
    generalize register now command t = outcome at h ⊢
    cases h with
    | counted r notCancel hnone _ =>
      simp [notCancel, hnone, noted.starts, noted.queue]
    | moves q notCancel hsome =>
      obtain ⟨ls, hplayed⟩ := drain_played now { t.noted command with
        queue := (t.noted command).queue ++ [q] }
      have hstarts : (enqueue now q (t.noted command)).state.machine.starts =
        (t.noted command).machine.starts ++ ls := hplayed.simulation.machine.starts
      have hqueue : (t.noted command).queue ++ [q] =
        ls ++ (enqueue now q (t.noted command)).state.queue := hplayed.queue
      simp only [Step.mapResult, hstarts, noted.starts, List.append_assoc, ← hqueue, noted.queue,
        notCancel, hsome, if_false, Option.toList_some]
    | cancels cancel hnone =>
      subst cancel
      obtain ⟨ls, hplayed⟩ := cancelJogs_played now t
      have hstarts : (cancelJogs now t).state.machine.starts = t.machine.starts ++ ls :=
        hplayed.simulation.machine.starts
      have hqueue : t.queue.filter (!·.isJog) = ls ++ (cancelJogs now t).state.queue :=
        hplayed.queue
      simp only [Step.mapResult, hstarts, List.append_assoc, ← hqueue, hnone, if_true,
        Option.toList_none, List.append_nil]
  | receive message =>
    have heard := receive_heard message t
    simp [Event.apply, Step.done, Event.kept, Event.joined, heard.machine.starts, heard.queue]
  | update now =>
    obtain ⟨ls, hplayed⟩ := update_played now t
    have hstarts : (t.update now).state.machine.starts = t.machine.starts ++ ls :=
      hplayed.simulation.machine.starts
    simp [Event.apply, Event.kept, Event.joined, hstarts, hplayed.queue]
  | toggle =>
    simp [Event.apply, Step.done, Event.kept, Event.joined, starts_toggle, queue_toggle]

/-- What is listed is what was handed over and what waits; every event keeps it so. -/
theorem roll_eq (t : Tracker α) (events : List (Event α)) :
    roll (t.machine.starts ++ t.queue) t events =
      (t.after events).machine.starts ++ (t.after events).queue := by
  induction events generalizing t with
  | nil => rfl
  | cons e rest ih =>
    have handedOver : (t.machine.starts ++ t.queue).take
        ((t.machine.starts ++ t.queue).length - t.queue.length) = t.machine.starts := by
      simp
    rw [roll, handedOver, ← apply_starts, ih, after_cons]

/-! ## The roll against all that was sent -/

omit [Scalar α] in
theorem kept_sublist (e : Event α) (t : Tracker α) : (e.kept t).Sublist t.queue := by
  unfold Event.kept
  split
  · split
    · exact List.filter_sublist
    · exact .refl _
  · split
    · exact List.nil_sublist _
    · exact .refl _
  · exact .refl _
  · exact .refl _

omit [Scalar α] in
theorem kept_append_withdrawn (e : Event α) (t : Tracker α) :
    (e.kept t ++ e.withdrawn t).Perm t.queue := by
  cases e with
  | register now command =>
    simp only [Event.kept, Event.withdrawn]
    split
    · simpa using List.filter_append_perm (fun q : QueuedMotion α => !q.isJog) t.queue
    · simp
  | receive message => simp [Event.kept, Event.withdrawn]
  | update now => simp [Event.kept, Event.withdrawn]
  | toggle =>
    simp only [Event.kept, Event.withdrawn]
    split <;> simp

/-- Nothing is handed over twice or overtaken. -/
theorem starts_sublist_sent (t : Tracker α) (events : List (Event α)) :
    ((t.after events).machine.starts ++ (t.after events).queue).Sublist
      (t.machine.starts ++ t.queue ++ sent t events) := by
  induction events generalizing t with
  | nil => simp [sent]
  | cons e rest ih =>
    have step : (t.machine.starts ++ e.kept t ++ (e.joined t).toList).Sublist
        (t.machine.starts ++ t.queue ++ (e.joined t).toList) :=
      ((List.Sublist.refl _).append (kept_sublist e t)).append_right _
    rw [← apply_starts] at step
    have run := (ih (e.apply t).state).trans (step.append_right _)
    rwa [List.append_assoc] at run

omit [Scalar α] in
theorem perm_append_swap (as bs cs : List (QueuedMotion α)) :
    (as ++ bs ++ cs).Perm (as ++ cs ++ bs) := by
  rw [List.append_assoc, List.append_assoc]
  exact List.perm_append_comm.append_left as

/-- Only what was withdrawn is missing. -/
theorem starts_perm_sent (t : Tracker α) (events : List (Event α)) :
    ((t.after events).machine.starts ++ (t.after events).queue ++ withdrawn t events).Perm
      (t.machine.starts ++ t.queue ++ sent t events) := by
  induction events generalizing t with
  | nil => simp [sent, withdrawn]
  | cons e rest ih =>
    have run := ih (e.apply t).state
    rw [apply_starts] at run
    simp only [after_cons, sent, withdrawn]
    generalize (e.apply t).state = t' at run ⊢
    calc ((t'.after rest).machine.starts ++ (t'.after rest).queue) ++
          (e.withdrawn t ++ withdrawn t' rest)
      _ = (t'.after rest).machine.starts ++ (t'.after rest).queue ++ e.withdrawn t ++
          withdrawn t' rest := (List.append_assoc _ _ _).symm
      List.Perm _ ((t'.after rest).machine.starts ++ (t'.after rest).queue ++ withdrawn t' rest ++
          e.withdrawn t) := perm_append_swap _ _ _
      List.Perm _ (t.machine.starts ++ e.kept t ++ (e.joined t).toList ++ sent t' rest ++
          e.withdrawn t) := run.append_right _
      _ = t.machine.starts ++ e.kept t ++ ((e.joined t).toList ++ sent t' rest) ++
          e.withdrawn t := by rw [← List.append_assoc _ (e.joined t).toList]
      List.Perm _ (t.machine.starts ++ e.kept t ++ e.withdrawn t ++
          ((e.joined t).toList ++ sent t' rest)) := perm_append_swap _ _ _
      _ = t.machine.starts ++ (e.kept t ++ e.withdrawn t) ++
          ((e.joined t).toList ++ sent t' rest) := by rw [List.append_assoc t.machine.starts]
      List.Perm _ (t.machine.starts ++ t.queue ++ ((e.joined t).toList ++ sent t' rest)) :=
        ((kept_append_withdrawn e t).append_left _).append_right _

/-- A listed line stands there from the beginning, or was sent in the course of the history. -/
theorem sent_of_mem {t : Tracker α} {events : List (Event α)} {q : QueuedMotion α}
    (h : q ∈ sent t events) :
    ∃ before now command later, events = before ++ .register now command :: later ∧
      (t.after before).entryFor? command = some q := by
  induction events generalizing t with
  | nil => cases h
  | cons e rest ih =>
    rcases List.mem_append.1 h with here | there
    · cases e with
      | register now command =>
        exact ⟨[], now, command, rest, rfl, by simpa [Event.joined] using here⟩
      | receive message => cases here
      | update now => cases here
      | toggle => cases here
    · obtain ⟨before, now, command, later, rfl, hentry⟩ := ih there
      exact ⟨e :: before, now, command, later, rfl, hentry⟩

/-- Lines are simulated in the order they were sent, once each, except for those withdrawn while
they waited; each is planned with the modes and the feed in force when it was sent. -/
theorem motions_start_in_order (simulate : Bool) (events : List (Event α)) :
    let fresh : Tracker α := .fresh simulate
    let t := fresh.after events
    t.machine.starts ++ t.queue = roll [] fresh events ∧
      (t.machine.starts ++ t.queue).Sublist (sent fresh events) ∧
      (t.machine.starts ++ t.queue ++ withdrawn fresh events).Perm (sent fresh events) ∧
      (∀ q ∈ t.machine.starts ++ t.queue, ∃ before now command later,
        events = before ++ .register now command :: later ∧
          (fresh.after before).entryFor? command = some q) ∧
      ∀ now (q : QueuedMotion α) (s : Simulation α), start now q s =
        let s' := { s with machine := s.machine.note (.motionStarted q) }
        match q.plan s.machine.position s.tickMs with
        | .error fault => .stopped s' fault
        | .ok none => .done s' ()
        | .ok (some planned) => (s'.beginPlanned planned q.slot now).mapResult fun _ => () := by
  intro fresh t
  have sublist : (t.machine.starts ++ t.queue).Sublist (sent fresh events) :=
    starts_sublist_sent fresh events
  refine ⟨(roll_eq fresh events).symm, sublist, starts_perm_sent fresh events, ?_, start_eq⟩
  intro q listed
  exact sent_of_mem (sublist.subset listed)

end GcodeSender.Tracker
