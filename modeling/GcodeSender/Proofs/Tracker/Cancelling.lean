/-
# `GcodeSender.Proofs.Tracker.Cancelling` — the cancelling byte takes every jog, and only jogs

The byte is written at any time, with a jog in flight or without.

    a jog in flight    it is stopped where it is; the lines that wait and are no
                       jogs are handed over, oldest first, until one stays in
                       flight (`HandsOver`)
    none               what is in flight goes on; nothing is handed over

Either way the jogs that wait are taken out of the queue, and the others stay in
their order.  What is handed over is no jog, so none can get into the slot that
was emptied (`HandsOver.noJog`).

That a jog was alone in flight when it is stopped is what `Poised` says of every
tracker that can be reached, also behind operations that were stopped half-way.
-/
import GcodeSender.Proofs.Tracker.Poise

namespace GcodeSender

open Scalar Gcode

variable {α : Type} [Scalar α]

/-! ## Nothing gets into the slot for jogs -/

namespace Simulation

theorem jog_tick_work {s : Simulation α} (h : s.jog = none) : (tick .work s).state.jog = none := by
  have ticked := tick_ticked .work s
  generalize tick .work s = outcome at ticked ⊢
  cases ticked with
  | ends _ _ _ _ _ => rfl
  | _ => exact h

theorem jog_beginPlanned_work {s : Simulation α} (h : s.jog = none)
    (planned : Except (Refusal α) (Motion α)) (now : α) :
    (s.beginPlanned planned .work now).state.jog = none := by
  cases planned with
  | ok motion => exact jog_tick_work h
  | error refusal =>
    show (s.refuse refusal).jog = none
    rw [refuse]
    split <;> exact h

end Simulation

namespace Tracker

/-- A line that is no jog leaves the slot for jogs empty. -/
theorem jog_start {s : Simulation α} (h : s.jog = none) (now : α) {q : QueuedMotion α}
    (work : q.isJog = false) : (start now q s).state.jog = none := by
  rw [start_eq]
  dsimp only
  split
  · exact h
  · exact h
  · next planned _ =>
    have slot : q.slot = .work := by rw [QueuedMotion.slot, if_neg (by simp [work])]
    have noted : ({ s with machine := s.machine.note (.motionStarted q) } : Simulation α).jog =
      none := h
    rw [slot]
    exact Simulation.jog_beginPlanned_work noted planned now

/-! ## Lines handed over -/

/-- Lines are handed over one after another, each while nothing is in flight; all but the last have
ended where the next one begins. -/
inductive HandsOver (now : α) : Simulation α → List (QueuedMotion α) → Simulation α → Prop
  | nil (s : Simulation α) : HandsOver now s [] s
  | cons {s s' s'' : Simulation α} {q : QueuedMotion α} {rest : List (QueuedMotion α)} :
      s.inMotion = false → start now q s = .done s' () → HandsOver now s' rest s'' →
      HandsOver now s (q :: rest) s''

/-- The waiting lines are handed over from the oldest on; where some are left, one is in flight. -/
theorem startWaiting_handsOver {now : α} {queue left : List (QueuedMotion α)}
    {s s' : Simulation α} (done : startWaiting now queue s = .done (s', left) ()) :
    ∃ started, queue = started ++ left ∧ HandsOver now s started s' ∧
      (left ≠ [] → s'.inMotion = true) := by
  induction queue generalizing s with
  | nil =>
    cases done
    exact ⟨[], rfl, .nil _, fun waiting => absurd rfl waiting⟩
  | cons q rest ih =>
    rw [startWaiting] at done
    split at done
    next flying =>
      cases done
      exact ⟨[], rfl, .nil _, fun _ => flying⟩
    next still =>
      split at done
      next s₁ _ started =>
        obtain ⟨more, split, handsOver, waiting⟩ := ih done
        refine ⟨q :: more, by rw [split, List.cons_append], ?_, waiting⟩
        exact .cons (Bool.eq_false_iff.2 still) started handsOver
      next => cases done

namespace HandsOver

variable {now : α} {s s' : Simulation α} {started : List (QueuedMotion α)}

theorem noJog (h : HandsOver now s started s') (empty : s.jog = none)
    (work : ∀ q ∈ started, q.isJog = false) : s'.jog = none := by
  induction h with
  | nil _ => exact empty
  | @cons s _ _ q _ still begun _ ih =>
    have began := jog_start empty now (work q List.mem_cons_self)
    rw [begun] at began
    exact ih began fun q mem => work q (List.mem_cons_of_mem _ mem)

theorem played (h : HandsOver now s started s') : Simulation.Played started s s' := by
  induction h with
  | nil s => exact .refl s
  | @cons s _ _ q _ still begun _ ih =>
    have first := start_played now q s
    rw [begun] at first
    exact first.trans ih

end HandsOver

theorem drain_handsOver {now : α} {t t' : Tracker α} (idle : t.draining = false)
    (done : drain now t = .done t' ()) :
    ∃ started, t.queue = started ++ t'.queue ∧ HandsOver now t.simulation started t'.simulation ∧
      (t'.queue ≠ [] → t'.inMotion = true) := by
  rw [drain, if_neg (by simp [idle])] at done
  dsimp only at done
  cases loop : startWaiting now t.queue t.simulation with
  | mk state result =>
    rw [loop] at done
    cases done
    exact startWaiting_handsOver loop

/-! ## Trackers that can be reached -/

/-- A tracker that its owner can come to: by events, some of them stopped half-way, and by
forgetting the lines that wait for answers. -/
inductive Reached : Tracker α → Prop
  | fresh (simulate : Bool) : Reached (fresh simulate)
  | event {t : Tracker α} (e : Event α) : Reached t → Reached (e.apply t).state
  | cleared {t : Tracker α} : Reached t → Reached t.clearLedger

theorem Reached.after {t : Tracker α} (h : Reached t) (events : List (Event α)) :
    Reached (t.after events) := by
  induction events generalizing t with
  | nil => exact h
  | cons e rest ih => exact ih (h.event e)

theorem Poised.apply {calm : Prop} {t : Tracker α} (h : Poised calm t) (e : Event α) :
    Poised (calm ∧ (e.apply t).Completes) (e.apply t).state := by
  cases e with
  | register now command =>
    refine (h.register now command).imp ?_
    rintro ⟨quiet, _, ended⟩
    exact ⟨quiet, Step.result_of_mapResult ended⟩
  | receive message => exact (h.receive message).imp And.left
  | update now => exact h.update now
  | toggle => exact h.toggle.imp And.left

theorem Reached.poised {t : Tracker α} (h : Reached t) : ∃ calm, Poised calm t := by
  induction h with
  | fresh simulate => exact ⟨_, .fresh simulate⟩
  | event e _ ih =>
    obtain ⟨_, poised⟩ := ih
    exact ⟨_, poised.apply e⟩
  | cleared _ ih =>
    obtain ⟨_, poised⟩ := ih
    exact ⟨_, poised.of_same rfl rfl rfl⟩

/-! ## The cancelling byte -/

/-- A tracker whose jog in flight was stopped where it is. -/
def stopJog (t : Tracker α) : Simulation α :=
  { t.simulation with
    inMotion := false, jog := none
    machine := t.simulation.machine.logText .debug "Jog simulation cancelled." }

/-- No jog is in flight or waits any more.  Where one was in flight, lines that are no jogs were
handed over, and one is in flight now if some are left; where none was, nothing has happened to what
is in flight. -/
structure Cancelled (now : α) (t t' : Tracker α) : Prop where
  noJog : t'.simulation.jog = none
  noneWaits : ∀ q ∈ t'.queue, q.command.startsWith jogMark = false
  handsOver : t.simulation.jogActive = true → ∃ started,
    t.queue.filter (fun q => !q.command.startsWith jogMark) = started ++ t'.queue ∧
      HandsOver now t.stopJog started t'.simulation ∧ (t'.queue ≠ [] → t'.inMotion = true) ∧
      t'.machine.starts = t.machine.starts ++ started
  still : t.simulation.jogActive = false →
    t' = { t with queue := t.queue.filter fun q => !q.command.startsWith jogMark }
  ledger : t'.ledger = t.ledger
  modes : t'.machine.modes = t.machine.modes
  feed : t'.machine.feed = t.machine.feed

theorem Poised.cancelled {calm : Prop} {t t' : Tracker α} (h : Poised calm t) {now : α}
    (done : t.cancelJogs now = .done t' ()) : Cancelled now t t' := by
  have works : ∀ q ∈ t.queue.filter (!·.isJog), q.isJog = false := fun q mem => by
    simpa using (List.mem_filter.1 mem).2
  obtain ⟨_, played⟩ := cancelJogs_played now t
  rw [done] at played
  rw [cancelJogs_eq] at done
  dsimp only at done
  split at done
  next active =>
    obtain ⟨started, queue, handsOver, waiting⟩ := drain_handsOver
      (t := { t with simulation := t.stopJog, queue := t.queue.filter (!·.isJog) }) h.idle done
    dsimp only at queue handsOver
    have starts : t'.machine.starts = t.stopJog.machine.starts ++ started :=
      handsOver.played.machine.starts
    refine ⟨handsOver.noJog rfl fun q mem => works q ?_, fun q mem => works q ?_,
      fun _ => ⟨started, queue, handsOver, waiting, ?_⟩, fun idle => ?_, played.ledger,
      played.simulation.machine.modes, played.simulation.machine.feed⟩
    · rw [queue]
      exact List.mem_append_left _ mem
    · rw [queue]
      exact List.mem_append_right _ mem
    · rw [starts, stopJog]
      exact congrArg (· ++ started) (Machine.starts_logText _ _ _)
    · rw [idle] at active
      cases active
  next idle =>
    cases done
    have noJog : t.simulation.jog = none := by
      simpa [Simulation.jogActive] using idle
    exact ⟨noJog, works, fun active => absurd active idle, fun _ => rfl, rfl, rfl, rfl⟩

/-- Whatever was done before, the cancelling byte takes every jog, in flight or waiting, and only
jogs, unless a line that was waiting stops it half-way. -/
theorem cancel_takes_all_jogs {t t' : Tracker α} (reached : Reached t) {now : α}
    {refusal : Option LineError} (done : t.register now [jogCancel] = .done t' refusal) :
    Cancelled now t t' := by
  obtain ⟨_, poised⟩ := reached.poised
  refine poised.cancelled ?_
  have cancels : t.register now [jogCancel] = (cancelJogs now t).mapResult fun _ => none := rfl
  rw [cancels] at done
  cases outcome : cancelJogs now t with
  | mk left result =>
    rw [outcome] at done
    cases result with
    | ok _ =>
      cases done
      rfl
    | error _ => cases done

/-- A jog in flight; behind it a rapid move, which is not played, a jog, and two lines. -/
theorem cancel_takes_all_jogs_in_flight :
    let t := (fresh true : Tracker Float).after
      [.register 0 (Bytes.ofText "$J=X10 F600\n"), .register 0 (Bytes.ofText "G0 X1\n"),
        .register 0 (Bytes.ofText "$J=Y1 F100\n"), .register 0 (Bytes.ofText "G1 X2 F100\n"),
        .register 0 (Bytes.ofText "G1 Y3\n"), .update 0.1]
    let t' := (t.register 0.1 [jogCancel]).state
    t.simulation.jogActive = true ∧ t.queue.length = 4 ∧
      (∃ refusal, t.register 0.1 [jogCancel] = .done t' refusal) ∧ Cancelled 0.1 t t' ∧
      t'.simulation.work.isSome = true ∧ t'.queuedCommands = [Bytes.ofText "G1 Y3\n"] := by
  intro t t'
  have reached : Reached t := (Reached.fresh true).after _
  have unstopped : Unstopped t [.register 0.1 [jogCancel]] := by decide +kernel
  obtain ⟨refusal, ended⟩ := Step.result_of_mapResult unstopped.1
  have done : t.register 0.1 [jogCancel] = .done t' refusal := by rw [Step.done, ← ended]
  exact ⟨by decide +kernel, by decide +kernel, ⟨refusal, done⟩, cancel_takes_all_jogs reached done,
    by decide +kernel, by decide +kernel⟩

end Tracker

end GcodeSender
