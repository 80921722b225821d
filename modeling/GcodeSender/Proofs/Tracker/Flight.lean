/-
# `GcodeSender.Proofs.Tracker.Flight` — what is in flight, and what waits

Whether a motion is in flight is told by a flag, by two slots, by the queue and
by whether simulation is on.  They agree:

    load             the slot that is occupied, if any
    s.Carries load   the flag says whether there is a load; that slot holds a
                     motion which is not cancelled, the other slot is empty;
                     nothing is carried while simulation is off
    t.Coherent load  lines wait only behind a load, and no draining is going on

The motion in a slot comes from the line handed over last: it is the motion that
line was planned as, some ticks on (`FliesFor`).

A fault can break this only in one way: a line whose planning faults has left
the queue, and those behind it wait for nothing.  So the run lemma,
`coherent_after`, is about histories in which no event is stopped.
-/
import GcodeSender.Proofs.Tracker.History

namespace GcodeSender

open Scalar Gcode

variable {α : Type} [Scalar α]

theorem Step.ok_of_mapResult {σ ρ ρ' : Type} {f : ρ → ρ'} {a : Step σ ρ} {r' : ρ'}
    (h : (a.mapResult f).result = .ok r') : ∃ r, a.result = .ok r ∧ f r = r' := by
  obtain ⟨s, result⟩ := a
  cases result with
  | ok r => exact ⟨r, rfl, Except.ok.inj h⟩
  | error fault => cases h

theorem Step.result_of_mapResult {σ ρ ρ' : Type} {f : ρ → ρ'} {a : Step σ ρ} {r' : ρ'}
    (h : (a.mapResult f).result = .ok r') : ∃ r, a.result = .ok r :=
  (Step.ok_of_mapResult h).imp fun _ ok => ok.1

/-- A motion, and what it has become after some ticks. -/
inductive Motion.Advances (m : Motion α) : Motion α → Prop
  | refl : Advances m m
  | tick {m' : Motion α} {position : Position α} {a : Advance α} : Advances m m' →
      m'.advance position = .ok a → a.goesOn = true → Advances m a.motion

namespace Simulation

/-- A slot's motion is that of the line handed over last, some ticks on. -/
def FliesFor (s : Simulation α) (slot : Slot) (motion : Motion α) : Prop :=
  ∃ q position planned, s.machine.starts.getLast? = some q ∧ q.slot = slot ∧
    q.plan position s.tickMs = .ok (some (.ok planned)) ∧ planned.Advances motion

theorem FliesFor.withMachine {s : Simulation α} {slot : Slot} {motion : Motion α}
    (h : s.FliesFor slot motion) {m : Machine α} (same : m.starts = s.machine.starts) :
    FliesFor { s with machine := m } slot motion := by
  obtain ⟨q, position, planned, last, rest⟩ := h
  exact ⟨q, position, planned, same ▸ last, rest⟩

theorem FliesFor.tick {s : Simulation α} {slot : Slot} {motion : Motion α} {position : Position α}
    {a : Advance α} (h : s.FliesFor slot motion) (advance : motion.advance position = .ok a)
    (goes : a.goesOn = true) : s.FliesFor slot a.motion := by
  obtain ⟨q, start, planned, last, goesTo, plans, advances⟩ := h
  exact ⟨q, start, planned, last, goesTo, plans, advances.tick advance goes⟩

/-- The load, and nothing else, is in flight. -/
structure Carries (load : Option Slot) (s : Simulation α) : Prop where
  inMotion : s.inMotion = load.isSome
  held : ∀ slot, load = some slot →
    ∃ f, s.flight slot = some f ∧ f.cancelled = false ∧ s.FliesFor slot f.motion
  empty : ∀ slot, load ≠ some slot → s.flight slot = none
  off : s.enabled = false → load = none

omit [Scalar α] in
@[simp] theorem flight_setFlight_self (s : Simulation α) (slot : Slot) (f : Option (Flight α)) :
    (s.setFlight slot f).flight slot = f := by
  cases slot <;> rfl

omit [Scalar α] in
theorem flight_setFlight_ne (s : Simulation α) {slot other : Slot} (h : other ≠ slot)
    (f : Option (Flight α)) : (s.setFlight slot f).flight other = s.flight other := by
  cases slot <;> cases other <;> first | rfl | exact absurd rfl h

omit [Scalar α] in
@[simp] theorem machine_setFlight (s : Simulation α) (slot : Slot) (f : Option (Flight α)) :
    (s.setFlight slot f).machine = s.machine := by
  cases slot <;> rfl

omit [Scalar α] in
@[simp] theorem inMotion_setFlight (s : Simulation α) (slot : Slot) (f : Option (Flight α)) :
    (s.setFlight slot f).inMotion = s.inMotion := by
  cases slot <;> rfl

omit [Scalar α] in
@[simp] theorem enabled_setFlight (s : Simulation α) (slot : Slot) (f : Option (Flight α)) :
    (s.setFlight slot f).enabled = s.enabled := by
  cases slot <;> rfl

omit [Scalar α] in
@[simp] theorem tickMs_setFlight (s : Simulation α) (slot : Slot) (f : Option (Flight α)) :
    (s.setFlight slot f).tickMs = s.tickMs := by
  cases slot <;> rfl

namespace Carries

variable {load : Option Slot} {s s' : Simulation α}

/-- Only the lines handed over so far matter of the machine. -/
theorem withMachine (h : Carries load s) {m : Machine α} (same : m.starts = s.machine.starts) :
    Carries load { s with machine := m } where
  inMotion := h.inMotion
  held slot hload := by
    obtain ⟨f, hf, live, flies⟩ := h.held slot hload
    exact ⟨f, hf, live, flies.withMachine same⟩
  empty := h.empty
  off := h.off

theorem withAnyMachine (h : Carries none s) (m : Machine α) :
    Carries none { s with machine := m } where
  inMotion := h.inMotion
  held _ hload := by cases hload
  empty := h.empty
  off := h.off

theorem refuse (h : Carries none s) (refusal : Refusal α) : Carries none (s.refuse refusal) := by
  rw [Simulation.refuse]
  split
  · exact h.withAnyMachine _
  · exact h

theorem of_stop (s : Simulation α) : Carries none s.stop where
  inMotion := rfl
  held _ hload := by cases hload
  empty slot _ := by cases slot <;> rfl
  off _ := rfl

theorem endMotion (s : Simulation α) : Carries none s.endMotion :=
  (of_stop s).withMachine (m := s.machine.note .motionEnded)
    (by simp [Machine.note, Machine.starts, stop])

/-- A slot takes up a motion while the other one is empty. -/
theorem occupy {slot : Slot} {f : Flight α} (flying : s.inMotion = true) (on : s.enabled = true)
    (alone : ∀ other, other ≠ slot → s.flight other = none) (live : f.cancelled = false)
    (flies : s.FliesFor slot f.motion) : Carries (some slot) (s.setFlight slot (some f)) where
  inMotion := by simp [flying]
  held other hload := by
    cases hload
    refine ⟨f, flight_setFlight_self s slot _, live, ?_⟩
    simpa [FliesFor] using flies
  empty other hload := by
    have different : other ≠ slot := fun same => hload (congrArg some same.symm)
    rw [flight_setFlight_ne s different, alone other different]
  off hoff := by simp [on] at hoff

/-- A tick leaves the load as it is, or ends it. -/
theorem tick (h : Carries load s) (slot : Slot) :
    ((tick slot s).result = .ok true → load.isSome ∧ Carries none (tick slot s).state) ∧
      ((tick slot s).result ≠ .ok true → Carries load (tick slot s).state) := by
  have ticked := tick_ticked slot s
  generalize Simulation.tick slot s = r at ticked ⊢
  have loaded : ∀ {f : Flight α}, s.flight slot = some f → load = some slot := by
    intro f hf
    by_cases hload : load = some slot
    · exact hload
    · rw [h.empty slot hload] at hf
      cases hf
  cases ticked with
  | empty _ => exact ⟨nofun, fun _ => h⟩
  | cancelled hf off =>
    have hnone := h.off off
    rw [loaded hf] at hnone
    cases hnone
  | fault _ _ _ _ => exact ⟨nofun, fun _ => h⟩
  | goesOn a hf on advance goes =>
    refine ⟨nofun, fun _ => ?_⟩
    have hload := loaded hf
    subst hload
    obtain ⟨f', hf', live, flies⟩ := h.held slot rfl
    cases hf.symm.trans hf'
    refine occupy (by exact h.inMotion) (by exact on) ?_ live ?_
    · intro other different
      exact h.empty other fun same => different (Option.some.inj same).symm
    · exact (flies.tick advance goes).withMachine (Machine.starts_setPosition _ _)
  | ends a hf on advance stops =>
    refine ⟨fun _ => ⟨by simp [loaded hf], endMotion _⟩, fun ended => absurd rfl ended⟩

/-- A motion that is begun stays as the load, or ends on its first tick. -/
theorem begin (h : Carries none s) (on : s.enabled = true) {slot : Slot} {motion : Motion α}
    (flies : s.FliesFor slot motion) (now : α) :
    ∃ load, Carries load (s.begin motion slot now).state := by
  have put : Carries (some slot)
      ({ s with inMotion := true }.setFlight slot (some { motion, dueAt := now })) :=
    occupy rfl on (fun other _ => h.empty other nofun) rfl flies
  have logged := put.withMachine (Machine.starts_log _ .debug (.simulating motion))
  obtain ⟨ends, stays⟩ := logged.tick slot
  rw [Simulation.begin, Step.mapResult]
  by_cases ended : (Simulation.tick slot (({ s with inMotion := true }.setFlight slot
      (some { motion, dueAt := now })).log .debug (.simulating motion))).result = .ok true
  · exact ⟨none, (ends ended).2⟩
  · exact ⟨some slot, stays ended⟩

/-- Where a jog is stopped, it was the load. -/
theorem stopJog (h : Carries load s) (active : s.jogActive = true) :
    load = some .jog ∧ Carries none { s with inMotion := false, jog := none } := by
  have hload : load = some .jog := by
    by_cases hload : load = some .jog
    · exact hload
    · have jog : s.jog = none := h.empty .jog hload
      simp [jogActive, jog] at active
  subst hload
  refine ⟨rfl, rfl, nofun, ?_, fun _ => rfl⟩
  intro slot _
  cases slot with
  | work => exact h.empty .work (by simp)
  | jog => rfl

end Carries

end Simulation

namespace Tracker

open Simulation

variable {load : Option Slot} {s : Simulation α}

/-- A line that is handed over while nothing is in flight. -/
theorem start_carries (h : s.Carries none) (on : s.enabled = true) (now : α) (q : QueuedMotion α) :
    ∃ load, Carries load (start now q s).state := by
  have noted : Carries none { s with machine := s.machine.note (.motionStarted q) } :=
    h.withAnyMachine _
  rw [start_eq]
  dsimp only
  cases plans : q.plan s.machine.position s.tickMs with
  | error fault => exact ⟨none, noted⟩
  | ok asked =>
    cases asked with
    | none => exact ⟨none, noted⟩
    | some planned =>
      cases planned with
      | error refusal => exact ⟨none, noted.refuse refusal⟩
      | ok motion =>
        refine noted.begin on ⟨q, s.machine.position, motion, ?_, rfl, plans, .refl⟩ now
        simp [Machine.note, Machine.starts]

/-- Lines are handed over until one stays in flight: none waits for nothing. -/
theorem startWaiting_carries (h : s.Carries load) (now : α) {queue : List (QueuedMotion α)}
    (on : queue ≠ [] → s.enabled = true) (unstopped : (startWaiting now queue s).result = .ok ()) :
    ∃ load', Carries load' (startWaiting now queue s).state.1 ∧
      ((startWaiting now queue s).state.2 ≠ [] → load' ≠ none) := by
  induction queue generalizing s load with
  | nil => exact ⟨load, h, fun waiting => absurd rfl waiting⟩
  | cons q rest ih =>
    rw [startWaiting] at unstopped ⊢
    split
    next flying =>
      refine ⟨load, h, fun _ hload => ?_⟩
      rw [h.inMotion, hload] at flying
      cases flying
    next still =>
      have hload : load = none := by
        cases load with
        | none => rfl
        | some slot => exact absurd h.inMotion still
      subst hload
      have enabled := on (List.cons_ne_nil q rest)
      have kept := (start_played now q s).enabled
      obtain ⟨load', begun⟩ := start_carries h enabled now q
      rw [if_neg still] at unstopped
      split
      next s' _ heq =>
        rw [heq] at begun kept unstopped
        exact ih begun (fun _ => kept.trans enabled) unstopped
      next s' fault heq =>
        rw [heq] at unstopped
        cases unstopped

/-- What is in flight, what waits and the flag of draining agree. -/
structure Coherent (load : Option Slot) (t : Tracker α) : Prop where
  carries : t.simulation.Carries load
  waiting : t.queue ≠ [] → load ≠ none
  idle : t.draining = false

variable {t : Tracker α}

theorem Coherent.enabled (h : Coherent load t) (waiting : t.queue ≠ []) :
    t.simulation.enabled = true := by
  cases on : t.simulation.enabled with
  | true => rfl
  | false => exact absurd (h.carries.off on) (h.waiting waiting)

theorem drain_coherent (h : t.simulation.Carries load) (idle : t.draining = false) (now : α)
    (on : t.queue ≠ [] → t.simulation.enabled = true) (unstopped : (drain now t).result = .ok ()) :
    ∃ load', Coherent load' (drain now t).state := by
  rw [drain] at unstopped ⊢
  rw [if_neg (by simp [idle])] at unstopped ⊢
  obtain ⟨load', carries, waiting⟩ := startWaiting_carries h now on unstopped
  exact ⟨load', carries, waiting, rfl⟩

theorem tick_coherent (h : Coherent load t) (slot : Slot) (now : α)
    (unstopped : (tick slot now t).result = .ok ()) :
    ∃ load', Coherent load' (tick slot now t).state := by
  obtain ⟨ends, stays⟩ := h.carries.tick slot
  have enabled := (Played.tick slot t.simulation).enabled
  rw [tick] at unstopped ⊢
  split
  next simulation ended heq =>
    rw [heq] at ends stays enabled unstopped
    cases ended with
    | false => exact ⟨load, stays (by simp), h.waiting, h.idle⟩
    | true =>
      obtain ⟨-, carries⟩ := ends rfl
      exact drain_coherent (t := { t with simulation }) carries h.idle now
        (fun waiting => enabled.trans (h.enabled waiting)) unstopped
  next simulation fault heq =>
    rw [heq] at unstopped
    cases unstopped

theorem settleSlot_coherent (h : Coherent load t) (slot : Slot) (now : α)
    (unstopped : (t.settleSlot slot now).result = .ok ()) :
    ∃ load', Coherent load' (t.settleSlot slot now).state := by
  rw [settleSlot] at unstopped ⊢
  generalize t.simulation.tickAllowance slot now = limit at unstopped ⊢
  induction limit generalizing t load with
  | zero => exact ⟨load, h⟩
  | succ limit ih =>
    have ticked := tick_coherent h slot now
    rw [settle] at unstopped ⊢
    split
    next due =>
      rw [if_pos due] at unstopped
      generalize tick slot now t = outcome at ticked unstopped ⊢
      obtain ⟨t', result⟩ := outcome
      cases result with
      | ok _ =>
        obtain ⟨load', h'⟩ := ticked rfl
        exact ih h' unstopped
      | error fault => cases unstopped
    next => exact ⟨load, h⟩

theorem update_coherent (h : Coherent load t) (now : α)
    (unstopped : (t.update now).result = .ok ()) :
    ∃ load', Coherent load' (t.update now).state := by
  have worked := settleSlot_coherent h .work now
  rw [update, Step.andThen] at unstopped ⊢
  split
  next r heq =>
    rw [heq] at unstopped
    obtain ⟨load', h'⟩ := worked heq
    exact settleSlot_coherent h' .jog now unstopped
  next fault heq =>
    rw [heq] at unstopped
    cases unstopped

theorem toggle_coherent (h : Coherent load t) : ∃ load', Coherent load' t.toggle.1 := by
  rw [toggle_eq]
  split
  next =>
    have stopped : Carries none { t.simulation.stop with enabled := false } :=
      ⟨rfl, nofun, (Carries.of_stop t.simulation).empty, fun _ => rfl⟩
    exact ⟨none, stopped.withAnyMachine _, fun waiting => absurd rfl waiting, h.idle⟩
  next disabled =>
    have hload := h.carries.off (Bool.eq_false_iff.2 disabled)
    subst hload
    have enabled : Carries none { t.simulation with enabled := true } :=
      ⟨h.carries.inMotion, nofun, h.carries.empty, fun _ => rfl⟩
    exact ⟨none, enabled.withAnyMachine _, h.waiting, h.idle⟩

theorem receive_coherent (h : Coherent load t) (message : Bytes) :
    Coherent load (t.receive message) := by
  have heard := receive_heard message t
  refine ⟨?_, ?_, heard.draining.trans h.idle⟩
  · rw [heard.simulation]
    exact h.carries.withMachine heard.machine.starts
  · rw [heard.queue]
    exact h.waiting

theorem cancelJogs_coherent (h : Coherent load t) (now : α)
    (unstopped : (cancelJogs now t).result = .ok ()) :
    ∃ load', Coherent load' (cancelJogs now t).state := by
  have left : t.queue.filter (!·.isJog) ≠ [] → t.queue ≠ [] := by
    intro left empty
    exact left (by rw [empty]; rfl)
  rw [cancelJogs_eq] at unstopped ⊢
  dsimp only at unstopped ⊢
  split
  next active =>
    obtain ⟨rfl, stopped⟩ := h.carries.stopJog active
    rw [if_pos active] at unstopped
    have logged := stopped.withAnyMachine
      (t.simulation.machine.logText .debug "Jog simulation cancelled.")
    exact drain_coherent
      (t := logText
        { t with
          queue := t.queue.filter (!·.isJog)
          simulation := { t.simulation with inMotion := false, jog := none } }
        .debug "Jog simulation cancelled.")
      logged h.idle now (fun waiting => h.enabled (left waiting)) unstopped
  next => exact ⟨load, h.carries, fun waiting => h.waiting (left waiting), h.idle⟩

theorem register_coherent (h : Coherent load t) (now : α) (command : Bytes)
    {r : Option LineError} (unstopped : (register now command t).result = .ok r) :
    ∃ load', Coherent load' (register now command t).state := by
  have registered := register_registered now command t
  have noted := noted_noted command t
  have carries : (t.noted command).simulation.Carries load := by
    rw [noted.simulation]
    exact h.carries.withMachine noted.starts
  have idle := noted.draining.trans h.idle
  generalize register now command t = outcome at registered unstopped ⊢
  cases registered with
  | counted r notCancel stays _ => exact ⟨load, carries, by rw [noted.queue]; exact h.waiting, idle⟩
  | moves q notCancel moves =>
    have on : (t.noted command).simulation.enabled = true := by
      rw [noted.simulation]
      exact simulates_of_entryFor? moves
    obtain ⟨_, drained⟩ := Step.result_of_mapResult unstopped
    exact drain_coherent (t := { t.noted command with queue := (t.noted command).queue ++ [q] })
      carries idle now (fun _ => on) drained
  | cancels cancel stays =>
    obtain ⟨_, drained⟩ := Step.result_of_mapResult unstopped
    exact cancelJogs_coherent h now drained

/-- What is in flight and what waits agree after every event, and so after every history. -/
theorem coherent_after (h : Coherent load t) {events : List (Event α)}
    (unstopped : Unstopped t events) : ∃ load', Coherent load' (t.after events) := by
  induction events generalizing t load with
  | nil => exact ⟨load, h⟩
  | cons e rest ih =>
    obtain ⟨here, later⟩ := unstopped
    obtain ⟨load', h'⟩ : ∃ load', Coherent load' (e.apply t).state := by
      cases e with
      | register now command =>
        obtain ⟨_, registered⟩ := Step.result_of_mapResult here
        exact register_coherent h now command registered
      | receive message => exact ⟨load, receive_coherent h message⟩
      | update now => exact update_coherent h now here
      | toggle => exact toggle_coherent h
    exact ih h' later

/-- The flag, the two slots, the queue, whether simulation is on and the flag of draining, seen
together. -/
structure Agrees (t : Tracker α) : Prop where
  /-- In motion is: exactly one slot is occupied, and not by a cancelled motion. -/
  inMotion_iff : t.inMotion = true ↔
    (∃ f, t.simulation.work = some f ∧ f.cancelled = false ∧ t.simulation.jog = none) ∨
    ∃ f, t.simulation.jog = some f ∧ f.cancelled = false ∧ t.simulation.work = none
  still : t.inMotion = false → t.simulation.work = none ∧ t.simulation.jog = none
  /-- The slot for jogs holds the motion of a jog, the line handed over last. -/
  jogs : ∀ f, t.simulation.jog = some f → ∃ q position planned,
    t.machine.starts.getLast? = some q ∧ isJog q.command = true ∧
      q.plan position t.simulation.tickMs = .ok (some (.ok planned)) ∧ planned.Advances f.motion
  waiting : t.queue ≠ [] → t.inMotion = true
  disabled : t.simulates = false →
    t.inMotion = false ∧ t.simulation.work = none ∧ t.simulation.jog = none ∧ t.queue = []
  idle : t.draining = false

omit [Scalar α] in
theorem isJog_of_slot {q : QueuedMotion α} (h : q.slot = .jog) : isJog q.command = true := by
  cases jog : isJog q.command with
  | true => rfl
  | false => simp [QueuedMotion.slot, QueuedMotion.isJog, jog] at h

theorem Coherent.agrees (h : Coherent load t) : Agrees t := by
  have flag : t.inMotion = load.isSome := h.carries.inMotion
  cases load with
  | none =>
    have work : t.simulation.work = none := h.carries.empty .work (by simp)
    have jog : t.simulation.jog = none := h.carries.empty .jog (by simp)
    have queue : t.queue = [] := by
      cases hqueue : t.queue with
      | nil => rfl
      | cons q rest => exact absurd rfl (h.waiting (by simp [hqueue]))
    exact
      { inMotion_iff := by simp [flag, work, jog]
        still := fun _ => ⟨work, jog⟩
        jogs := by simp [jog]
        waiting := fun waiting => absurd queue waiting
        disabled := fun _ => ⟨flag, work, jog, queue⟩
        idle := h.idle }
  | some slot =>
    have on : t.simulation.enabled = true := by
      cases on : t.simulation.enabled with
      | true => rfl
      | false => cases h.carries.off on
    obtain ⟨f, hf, live, flies⟩ := h.carries.held slot rfl
    refine
      { inMotion_iff := ⟨fun _ => ?_, fun _ => flag⟩
        still := fun still => by simp [flag] at still
        jogs := fun f' jog => ?_
        waiting := fun _ => flag
        disabled := fun off => by simp [simulates, on] at off
        idle := h.idle }
    · cases slot with
      | work => exact .inl ⟨f, hf, live, h.carries.empty .jog (by simp)⟩
      | jog => exact .inr ⟨f, hf, live, h.carries.empty .work (by simp)⟩
    · cases slot with
      | work =>
        have empty : t.simulation.jog = none := h.carries.empty .jog (by simp)
        rw [empty] at jog
        cases jog
      | jog =>
        cases jog.symm.trans hf
        obtain ⟨q, position, planned, last, goesTo, planning⟩ := flies
        exact ⟨q, position, planned, last, isJog_of_slot goesTo, planning⟩

theorem fresh_coherent (simulate : Bool) : Coherent none (fresh simulate : Tracker α) where
  carries := ⟨rfl, nofun, fun slot _ => by cases slot <;> rfl, fun _ => rfl⟩
  waiting waiting := absurd rfl waiting
  idle := rfl

/-- Whatever happens to a fresh tracker, its flags, slots and queue agree, as long as no event is
stopped half-way. -/
theorem motion_state_agrees {simulate : Bool} {events : List (Event α)}
    (unstopped : Unstopped (fresh simulate : Tracker α) events) :
    Agrees ((fresh simulate : Tracker α).after events) := by
  obtain ⟨_, coherent⟩ := coherent_after (fresh_coherent simulate) unstopped
  exact coherent.agrees

/-- A jog in flight, a line behind it, and time going on. -/
theorem motion_state_agrees_jog :
    let t : Tracker Float := fresh true
    let events : List (Event Float) :=
      [.register 0 (Bytes.ofText "$J=X10 F600\n"), .register 0 (Bytes.ofText "G1 X2 F100\n"),
        .receive (Bytes.ofText "ok"), .update 0.25]
    Unstopped t events ∧ (t.after events).simulation.jogActive = true ∧ (t.after events).queue ≠ [] ∧
      Agrees (t.after events) := by
  intro t events
  have unstopped : Unstopped t events := by decide +kernel
  exact ⟨unstopped, by decide +kernel, by decide +kernel, motion_state_agrees unstopped⟩

end Tracker

end GcodeSender
