/-
# `GcodeSender.Proofs.Tracker.Faults` — what stops an event

Messages and toggles are never stopped.  A command, or a reading of the clock,
can be, and the fault comes from one of two places:

    the command itself   it cannot be read (`Unreadable`), because of an
                         `Obstacle` in its text
    an arc that was sent    it has no length per tick, or a tick of it turns by an
                         infinite angle (`Breaks`)

For the second, a fault has to be traced back from the tick that met it to a
line.  `Traced` is the invariant that carries this: whatever is in flight was
planned for a line that was handed over.  `Answered` is what every operation
keeps, also where it is stopped: the invariant, and a line to blame for the
fault.  A line that was handed over was sent (`starts_sublist_sent`).
-/
import GcodeSender.Proofs.Gcode.Reading
import GcodeSender.Proofs.Tracker.Order
import GcodeSender.Proofs.Tracker.Flight

namespace GcodeSender

open Scalar Gcode Text

variable {α : Type} [Scalar α]

/-! ## Lines that cannot be simulated -/

/-- Ticks change nothing of a motion but how far it has come. -/
theorem Motion.Advances.arc {planned : Motion α} {m : ArcMotion α}
    (h : planned.Advances (.arc m)) : ∃ travelled, planned = .arc { m with travelled } := by
  generalize hm : Motion.arc m = motion at h
  induction h generalizing m with
  | refl => exact ⟨m.travelled, hm.symm⟩
  | @tick m' position a _ advance goes ih =>
    cases m' with
    | linear l =>
      cases advance
      cases hm
    | arc m' =>
      obtain ⟨travelled, rfl⟩ := ih rfl
      refine ⟨travelled, ?_⟩
      simp only [Motion.advance, ArcMotion.advance?] at advance
      split at advance
      next a' took =>
        cases advance
        split at took
        · cases took
        · cases took
          cases hm
          rfl
      · cases advance

namespace QueuedMotion

/-- Is the motion of a line an arc? -/
def IsArc (q : QueuedMotion α) : Prop :=
  q.isJog = false ∧ (q.modes.motion = .arcClockwise ∨ q.modes.motion = .arcCounterClockwise)

/-- A line that cannot be simulated, and the fault that it leads to. -/
inductive Breaks (q : QueuedMotion α) : Fault → Prop
  /-- The feed is above zero, and still the distance travelled in a tick is zero. -/
  | zeroStep : q.IsArc → atMost q.feed (nat 0) = false →
      same (stepLength q.feed defaultTickMs) (nat 0) = true → Breaks q .zeroStep
  /-- From somewhere, a tick of the planned arc turns by an infinite angle. -/
  | infiniteAngle {start position : Position α} {arc : ArcMotion α} : q.IsArc →
      q.plan start defaultTickMs = .ok (some (.ok (.arc arc))) →
      isInfinite (arc.nextAngle position) = true → Breaks q .infiniteAngle

theorem planArc_fault {start : Position α} {move : Move α} {modes : Modes} {feed tickMs : α}
    {fault : Fault} (h : planArc start move modes feed tickMs = .error fault) :
    fault = .zeroStep ∧ atMost feed (nat 0) = false ∧
      same (stepLength feed tickMs) (nat 0) = true := by
  unfold planArc at h
  dsimp only at h
  split at h
  · cases h
  · split at h
    · cases h
    · split at h
      · cases h
      next moves =>
        split at h
        next still =>
          cases h
          exact ⟨rfl, Bool.eq_false_iff.2 moves, still⟩
        · cases h

/-- Only the planning of an arc is stopped. -/
theorem Breaks.of_plan {q : QueuedMotion α} {position : Position α} {fault : Fault}
    (h : q.plan position defaultTickMs = .error fault) : q.Breaks fault := by
  unfold plan at h
  dsimp only at h
  split at h
  · cases h
  next work =>
    split at h
    · cases h
    · cases h
    all_goals
      next mode =>
        split at h
        next failed =>
          cases h
          obtain ⟨rfl, moves, still⟩ := planArc_fault failed
          exact .zeroStep ⟨Bool.eq_false_iff.2 work, by simp [mode]⟩ moves still
        · cases h

theorem isArc_of_plan {q : QueuedMotion α} {start : Position α} {tickMs : α} {arc : ArcMotion α}
    (h : q.plan start tickMs = .ok (some (.ok (.arc arc)))) : q.IsArc := by
  have straight : ∀ r : Except (Refusal α) (LinearMotion α),
      r.map Motion.linear ≠ .ok (.arc arc) := by
    intro r planned
    cases r <;> cases planned
  unfold plan at h
  dsimp only at h
  split at h
  · exact absurd (Option.some.inj (Except.ok.inj h)) (straight _)
  next work =>
    split at h
    · cases h
    · exact absurd (Option.some.inj (Except.ok.inj h)) (straight _)
    all_goals
      next mode => exact ⟨Bool.eq_false_iff.2 work, by simp [mode]⟩

/-- Only the ticks of an arc are stopped. -/
theorem Breaks.of_advance {q : QueuedMotion α} {start position : Position α}
    {planned motion : Motion α} {fault : Fault}
    (plans : q.plan start defaultTickMs = .ok (some (.ok planned)))
    (advances : planned.Advances motion) (h : motion.advance position = .error fault) :
    q.Breaks fault := by
  cases motion with
  | linear m => cases h
  | arc m =>
    obtain ⟨travelled, rfl⟩ := advances.arc
    simp only [Motion.advance, ArcMotion.advance?] at h
    split at h
    · cases h
    next infinite =>
      cases h
      split at infinite
      next turns => exact .infiniteAngle (isArc_of_plan plans) plans turns
      · cases infinite

end QueuedMotion

/-! ## Tracing what is in flight -/

namespace Simulation

/-- A motion is that of a line handed over, some ticks on. -/
def HandedOver (s : Simulation α) (motion : Motion α) : Prop :=
  ∃ q ∈ s.machine.starts, ∃ start planned,
    q.plan start defaultTickMs = .ok (some (.ok planned)) ∧ planned.Advances motion

/-- Every motion in flight, or left in its slot, is that of a line handed over. -/
structure Traced (s : Simulation α) : Prop where
  tickMs : s.tickMs = defaultTickMs
  flights : ∀ slot f, s.flight slot = some f → s.HandedOver f.motion

/-- An operation, however it ends, leaves everything in flight traced; where it is stopped, a line
that was handed over breaks.  `sim` is the simulation in the state of the operation. -/
structure Answered {σ ρ : Type} (sim : σ → Simulation α) (a : Step σ ρ) : Prop where
  traced : (sim a.state).Traced
  blame : ∀ fault, a.result = .error fault → ∃ q ∈ (sim a.state).machine.starts, q.Breaks fault

theorem HandedOver.withMachine {s : Simulation α} {motion : Motion α} (h : s.HandedOver motion)
    {m : Machine α} (same : m.starts = s.machine.starts) :
    HandedOver { s with machine := m } motion := by
  obtain ⟨q, started, planning⟩ := h
  exact ⟨q, same ▸ started, planning⟩

theorem HandedOver.noteStarted {s : Simulation α} {motion : Motion α} (h : s.HandedOver motion)
    (q : QueuedMotion α) :
    HandedOver { s with machine := s.machine.note (.motionStarted q) } motion := by
  obtain ⟨q', started, planning⟩ := h
  exact ⟨q', by simpa [Machine.note, Machine.starts] using .inl started, planning⟩

theorem HandedOver.tick {s : Simulation α} {motion : Motion α} {position : Position α}
    {a : Advance α} (h : s.HandedOver motion) (advance : motion.advance position = .ok a)
    (goes : a.goesOn = true) : s.HandedOver a.motion := by
  obtain ⟨q, started, start, planned, plans, advances⟩ := h
  exact ⟨q, started, start, planned, plans, advances.tick advance goes⟩

namespace Traced

variable {s : Simulation α}

theorem withMachine (h : s.Traced) {m : Machine α} (same : m.starts = s.machine.starts) :
    Traced { s with machine := m } where
  tickMs := h.tickMs
  flights slot f hf := (h.flights slot f hf).withMachine same

theorem noteStarted (h : s.Traced) (q : QueuedMotion α) :
    Traced { s with machine := s.machine.note (.motionStarted q) } where
  tickMs := h.tickMs
  flights slot f hf := (h.flights slot f hf).noteStarted q

theorem setFlight (h : s.Traced) (slot : Slot) {f : Flight α} (flies : s.HandedOver f.motion) :
    Traced (s.setFlight slot (some f)) where
  tickMs := by rw [tickMs_setFlight, h.tickMs]
  flights other g hg := by
    rw [HandedOver, machine_setFlight]
    by_cases here : other = slot
    · subst here
      rw [flight_setFlight_self] at hg
      cases hg
      exact flies
    · rw [flight_setFlight_ne s here] at hg
      exact h.flights other g hg

theorem setPosition (h : s.Traced) (t : Target α) :
    Traced { s with machine := s.machine.setPosition t } :=
  h.withMachine (by simp)

/-- Nothing is left in flight. -/
theorem stop (h : s.Traced) : s.stop.Traced where
  tickMs := h.tickMs
  flights slot f hf := by cases slot <;> cases hf

theorem stopJog (h : s.Traced) : Traced { s with inMotion := false, jog := none } where
  tickMs := h.tickMs
  flights slot f hf := by
    cases slot with
    | work => exact h.flights .work f hf
    | jog => cases hf

theorem endMotion (h : s.Traced) : s.endMotion.Traced :=
  h.stop.withMachine (by simp [Simulation.stop, Machine.note, Machine.starts])

theorem refuse (h : s.Traced) (refusal : Refusal α) : (s.refuse refusal).Traced := by
  rw [Simulation.refuse]
  split
  · exact h.withMachine (by simp)
  · exact h

end Traced

namespace Answered

variable {σ ρ ρ' : Type} {sim : σ → Simulation α}

theorem done (sim : σ → Simulation α) {s : σ} (h : (sim s).Traced) (r : ρ) :
    Answered sim (.done s r) where
  traced := h
  blame fault failed := by cases failed

theorem mapResult {a : Step σ ρ} (h : Answered sim a) (f : ρ → ρ') :
    Answered sim (a.mapResult f) where
  traced := h.traced
  blame fault failed := by
    obtain ⟨s, result⟩ := a
    cases result with
    | ok r => cases failed
    | error cause =>
      cases failed
      exact h.blame fault rfl

theorem andThen {a : Step σ ρ} {next : ρ → σ → Step σ ρ'} (h : Answered sim a)
    (goes : ∀ r, (sim a.state).Traced → Answered sim (next r a.state)) :
    Answered sim (a.andThen next) := by
  obtain ⟨s, result⟩ := a
  cases result with
  | ok r => exact goes r h.traced
  | error cause =>
    refine ⟨h.traced, fun fault failed => ?_⟩
    cases failed
    exact h.blame _ rfl

/-- What one step keeps, the loop keeps. -/
theorem settle {due : σ → Bool} {step : σ → Step σ Unit}
    (steps : ∀ s, (sim s).Traced → Answered sim (step s)) (limit : Nat) {s : σ}
    (h : (sim s).Traced) : Answered sim (settle due step limit s) := by
  induction limit generalizing s with
  | zero => exact done sim h ()
  | succ limit ih =>
    rw [GcodeSender.settle]
    split
    · have first := steps s h
      split
      next s' _ heq =>
        rw [heq] at first
        exact ih first.traced
      next => exact first
    · exact done sim h ()

end Answered

variable {s : Simulation α}

theorem tick_answered (h : s.Traced) (slot : Slot) : Answered id (tick slot s) := by
  have ticked := tick_ticked slot s
  generalize Simulation.tick slot s = outcome at ticked ⊢
  cases ticked with
  | empty _ => exact .done id h _
  | @cancelled f hf off =>
    have put := h.setFlight slot (f := { f with cancelled := true }) (h.flights slot f hf)
    exact .done id put _
  | fault cause hf on failed =>
    refine ⟨h, fun fault stopped => ?_⟩
    cases stopped
    obtain ⟨q, started, start, planned, plans, advances⟩ := h.flights slot _ hf
    exact ⟨q, started, .of_advance plans advances failed⟩
  | goesOn a hf on advance goes =>
    have flies := ((h.flights slot _ hf).tick advance goes).withMachine
      (m := s.machine.setPosition (.ofPosition a.position)) (by simp)
    exact .done id ((h.setPosition (.ofPosition a.position)).setFlight slot flies) _
  | ends a hf on advance stops => exact .done id (h.setPosition _).endMotion _

theorem begin_answered (h : s.Traced) {motion : Motion α} (flies : s.HandedOver motion)
    (slot : Slot) (now : α) : Answered id (s.begin motion slot now) := by
  have flying : Traced { s with inMotion := true } := ⟨h.tickMs, h.flights⟩
  have put := flying.setFlight slot (f := { motion, dueAt := now }) flies
  exact (tick_answered (put.withMachine (by simp)) slot).mapResult _

end Simulation

namespace Tracker

open Simulation (Answered)

variable {s : Simulation α}

/-- A line that is handed over: planning it breaks it, or its motion takes off. -/
theorem start_answered (h : s.Traced) (now : α) (q : QueuedMotion α) :
    Answered id (start now q s) := by
  have started : q ∈ (s.machine.note (.motionStarted q)).starts := by
    simp [Machine.note, Machine.starts]
  have noted := h.noteStarted q
  rw [start_eq]
  dsimp only
  split
  next fault failed =>
    refine ⟨noted, fun fault' stopped => ?_⟩
    cases stopped
    rw [h.tickMs] at failed
    exact ⟨q, started, .of_plan failed⟩
  next => exact .done id noted ()
  next planned plans =>
    refine Answered.mapResult ?_ _
    unfold Simulation.beginPlanned
    split
    next refusal => exact .done id (noted.refuse refusal) _
    next motion =>
      rw [h.tickMs] at plans
      refine Answered.mapResult (Simulation.begin_answered noted ?_ _ now) _
      exact ⟨q, started, _, motion, plans, .refl⟩

theorem startWaiting_answered (h : s.Traced) (now : α) (queue : List (QueuedMotion α)) :
    Answered Prod.fst (startWaiting now queue s) := by
  induction queue generalizing s with
  | nil => exact .done Prod.fst h ()
  | cons q rest ih =>
    rw [startWaiting]
    split
    · exact .done Prod.fst h ()
    · have first := start_answered h now q
      split
      next s' _ heq =>
        rw [heq] at first
        exact ih first.traced
      next s' fault heq =>
        rw [heq] at first
        refine ⟨first.traced, fun fault' stopped => ?_⟩
        cases stopped
        exact first.blame _ rfl

variable {t : Tracker α}

theorem drain_answered (h : t.simulation.Traced) (now : α) : Answered simulation (drain now t) := by
  rw [drain]
  split
  · exact .done Tracker.simulation h ()
  · have waiting := startWaiting_answered h now t.queue
    exact ⟨waiting.traced, waiting.blame⟩

theorem tick_answered (h : t.simulation.Traced) (slot : Slot) (now : α) :
    Answered simulation (tick slot now t) := by
  have ticked := Simulation.tick_answered h slot
  rw [tick]
  split
  next simulation ended heq =>
    rw [heq] at ticked
    dsimp only
    split
    · exact drain_answered ticked.traced now
    · exact .done Tracker.simulation (s := { t with simulation }) ticked.traced ()
  next simulation cause heq =>
    rw [heq] at ticked
    refine ⟨ticked.traced, fun fault stopped => ?_⟩
    cases stopped
    exact ticked.blame _ rfl

theorem update_answered (h : t.simulation.Traced) (now : α) :
    Answered simulation (t.update now) := by
  have slots : ∀ (slot : Slot) {t : Tracker α}, t.simulation.Traced →
      Answered simulation (t.settleSlot slot now) := fun slot _ h =>
    .settle (fun _ h => tick_answered h slot now) _ h
  exact (slots .work h).andThen fun _ traced => slots .jog traced

theorem cancelJogs_answered (h : t.simulation.Traced) (now : α) :
    Answered simulation (cancelJogs now t) := by
  rw [cancelJogs_eq]
  dsimp only
  split
  · refine drain_answered ?_ now
    exact h.stopJog.withMachine (Machine.starts_logText _ _ _)
  · exact .done Tracker.simulation (s := { t with queue := t.queue.filter (!·.isJog) }) h ()

theorem toggle_traced (h : t.simulation.Traced) : t.toggle.1.simulation.Traced := by
  rw [toggle_eq]
  split
  · have off : Simulation.Traced { t.simulation.stop with enabled := false } :=
      ⟨h.stop.tickMs, h.stop.flights⟩
    exact off.withMachine (by simp [machine, Simulation.stop])
  · have on : Simulation.Traced { t.simulation with enabled := true } := ⟨h.tickMs, h.flights⟩
    exact on.withMachine (by simp [machine])

theorem receive_traced (h : t.simulation.Traced) (message : Bytes) :
    (t.receive message).simulation.Traced := by
  have heard := receive_heard message t
  rw [heard.simulation]
  exact h.withMachine heard.machine.starts

/-- A command that is stopped could not be read, or a line broke. -/
theorem register_traced (h : t.simulation.Traced) (now : α) (command : Bytes) :
    (register now command t).state.simulation.Traced ∧
      ∀ fault, (register now command t).result = .error fault → Unreadable command fault ∨
        ∃ q ∈ (register now command t).state.machine.starts, q.Breaks fault := by
  have registered := register_registered now command t
  have noted := noted_noted command t
  have traced : (t.noted command).simulation.Traced := by
    rw [noted.simulation]
    exact h.withMachine noted.starts
  generalize register now command t = outcome at registered ⊢
  cases registered with
  | counted r notCancel stays reads =>
    exact ⟨traced, fun fault stopped => .inl ((reads fault).1 stopped)⟩
  | moves q notCancel moves =>
    have queued : (({ t.noted command with queue := (t.noted command).queue ++ [q] } :
      Tracker α)).simulation.Traced := traced
    have answered := (drain_answered queued now).mapResult fun _ => (none : Option LineError)
    exact ⟨answered.traced, fun fault stopped => .inr (answered.blame fault stopped)⟩
  | cancels cancel stays =>
    have answered := (cancelJogs_answered h now).mapResult fun _ => (none : Option LineError)
    exact ⟨answered.traced, fun fault stopped => .inr (answered.blame fault stopped)⟩

theorem fresh_traced (simulate : Bool) : (fresh simulate : Tracker α).simulation.Traced where
  tickMs := rfl
  flights slot f hf := by cases slot <;> cases hf

/-- One event: the invariant is kept, and a fault is that of the command or of a line that was
handed over. -/
theorem apply_traced (h : t.simulation.Traced) (e : Event α) :
    (e.apply t).state.simulation.Traced ∧
      ∀ fault, (e.apply t).result = .error fault →
        (∃ now command, e = .register now command ∧ Unreadable command fault) ∨
          ∃ q ∈ (e.apply t).state.machine.starts, q.Breaks fault := by
  cases e with
  | register now command =>
    obtain ⟨traced, blame⟩ := register_traced h now command
    refine ⟨traced, fun fault stopped => ?_⟩
    simp only [Event.apply, Step.mapResult] at stopped
    cases result : (register now command t).result with
    | ok r => simp [result, Except.map] at stopped
    | error cause =>
      obtain rfl : cause = fault := by simpa [result, Except.map] using stopped
      exact (blame cause result).imp_left fun unreadable => ⟨now, command, rfl, unreadable⟩
  | receive message =>
    refine ⟨receive_traced h message, fun fault stopped => ?_⟩
    cases stopped
  | update now =>
    have answered := update_answered h now
    exact ⟨answered.traced, fun fault stopped => .inr (answered.blame fault stopped)⟩
  | toggle =>
    refine ⟨toggle_traced h, fun fault stopped => ?_⟩
    cases stopped

theorem traced_after (h : t.simulation.Traced) (events : List (Event α)) :
    (t.after events).simulation.Traced := by
  induction events generalizing t with
  | nil => exact h
  | cons e rest ih => exact ih (apply_traced h e).1

/-! ## Commands that cannot be read -/

/-- A command that cannot be read has an obstacle in its text. -/
theorem Unreadable.obstacle {command : Bytes} {fault : Fault} (h : Unreadable command fault) :
    ∃ text, Utf8.decode? (if isJog command then command.drop jogMark.length else command) =
      some text ∧ Obstacle (trim (removeComments text)) fault := by
  obtain ⟨-, reading⟩ := h
  split at reading
  next jog =>
    rw [if_pos jog]
    exact parseLine_fault reading
  next line =>
    rw [if_neg line]
    exact parseLine_fault reading.2

/-- A command that cannot be read stops its registering, whatever the tracker: it has been counted
in the ledger, and that is all. -/
theorem register_unreadable {command : Bytes} {fault : Fault} (h : Unreadable command fault)
    (now : α) (t : Tracker α) :
    register now command t = .stopped { t with ledger := t.ledger.send command } fault := by
  obtain ⟨line, reading⟩ := h
  split at reading
  next jog =>
    have system := isSystem_of_isJog jog
    simp only [register, system, jog, if_true, registerJog, reading]
  next notJog =>
    obtain ⟨standard, reading⟩ := reading
    simp only [register, standard, line, Bool.false_eq_true, if_false, registerStandard, reading]

/-! ## Histories -/

/-- A message is never stopped. -/
theorem not_receive_of_stopped {e : Event α} {fault : Fault}
    (stopped : (e.apply t).result = .error fault) (message : Bytes) : e ≠ .receive message := by
  rintro rfl
  cases stopped

/-- What an event hands over or leaves waiting was listed before, or is sent by it. -/
theorem listed_of_apply (t : Tracker α) (e : Event α) (rest : List (Event α)) :
    (e.apply t).state.machine.starts ++ (e.apply t).state.queue ++ sent (e.apply t).state rest ⊆
      t.machine.starts ++ t.queue ++ sent t (e :: rest) := by
  have kept := (kept_sublist e t).subset
  rw [apply_starts, sent]
  intro q listed
  simp only [List.mem_append] at listed ⊢
  rcases listed with ((started | stays) | joins) | later
  · exact .inl (.inl started)
  · exact .inl (.inr (kept stays))
  · exact .inr (.inl joins)
  · exact .inr (.inr later)

theorem unstopped_of_traced (h : t.simulation.Traced) {events : List (Event α)}
    (readable : ∀ now command, .register now command ∈ events → ∀ fault, ¬ Unreadable command fault)
    (sound : ∀ q ∈ t.machine.starts ++ t.queue ++ sent t events, ∀ fault, ¬ q.Breaks fault) :
    Unstopped t events := by
  induction events generalizing t with
  | nil => trivial
  | cons e rest ih =>
    obtain ⟨traced, blame⟩ := apply_traced h e
    have listed := listed_of_apply t e rest
    refine ⟨?_, ih traced (fun now command later => readable now command (.tail _ later))
      fun q mem => sound q (listed mem)⟩
    cases result : (e.apply t).result with
    | ok _ => rfl
    | error fault =>
      rcases blame fault result with ⟨now, command, rfl, unreadable⟩ | ⟨q, started, breaks⟩
      · exact absurd unreadable (readable now command (.head _) fault)
      · exact absurd breaks (sound q (listed (by simp [started])) fault)

/-- Where every command can be read and no line that was sent breaks, no event is stopped. -/
theorem unstopped_of_sound {simulate : Bool} {events : List (Event α)}
    (readable : ∀ now command, .register now command ∈ events → ∀ fault, ¬ Unreadable command fault)
    (sound : ∀ q ∈ sent (fresh simulate) events, ∀ fault, ¬ q.Breaks fault) :
    Unstopped (fresh simulate : Tracker α) events :=
  unstopped_of_traced (fresh_traced simulate) readable sound

end Tracker

end GcodeSender
