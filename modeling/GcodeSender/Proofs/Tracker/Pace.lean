/-
# `GcodeSender.Proofs.Tracker.Pace` — how often the clock is read does not matter

A tick is due at a time of its own, and an update makes the ticks that have come
due since the last.  So an update now and another later come to what the later
one alone comes to, to the last notice in the journal (`update_update`), as long
as no line waits: a line that waits would start at the time of the update that
ends the motion before it.

    Settles now t   the loops of an update come to their ends of themselves

An update whose loops never end leaves nothing to compare; then two updates do
not end either, and this is part of the statement.  Where the loops end, the
limit that `settleSlot` puts on them is out of reach (`settleSlot_of_ends`), so
the statement is about what is due and nothing else.

With no line waiting a tracker ticks as its simulation does
(`tick_withSimulation`), and of a simulation that can be reached one slot alone
is taken.
-/
import GcodeSender.Proofs.Decimal.Order
import GcodeSender.Proofs.Motion.Reserve
import GcodeSender.Proofs.Tracker.Keeping

namespace GcodeSender

open Scalar Gcode

/-! ## The simulation -/

namespace Simulation

/-- Where the loop of ticks ends of itself, the allowance is not what ends it. -/
theorem settleSlot_of_ends {slot : Slot} {now : Float} {s : Simulation Float}
    (ends : Ends (due slot now) (tickSlot slot) s) :
    s.settleSlot slot now = settle (due slot now) (tickSlot slot) tickReserve s := by
  cases isDue : due slot now s with
  | false => exact (settle_rests isDue _).trans (settle_rests isDue _).symm
  | true => exact settle_of_endsWithin (reserve_le_tickAllowance isDue) (endsWithin_reserve ends)

/-- What is due at a time is due at a later time. -/
theorem due_of_le {slot : Slot} {t₁ t₂ : Float} (ordered : t₁ ≤ t₂) {s : Simulation Float}
    (h : due slot t₁ s = true) : due slot t₂ s = true := by
  rw [due] at h ⊢
  cases taken : s.flight slot with
  | none =>
    rw [taken] at h
    exact h
  | some f =>
    rw [taken] at h
    simp only [Bool.and_eq_true, Bool.not_eq_true', less, decide_eq_false_iff_not] at h ⊢
    exact ⟨h.1, fun later => h.2 (Decimal.lt_of_le_of_lt ordered later)⟩

variable {slot : Slot} {t₁ t₂ : Float} {s : Simulation Float}

/-- The loop to the earlier time ends, the loop from there to the later time ends, and the two come
to what the loop to the later time comes to. -/
theorem settleSlot_settleSlot (ordered : t₁ ≤ t₂) (ends : Ends (due slot t₂) (tickSlot slot) s) :
    Ends (due slot t₁) (tickSlot slot) s ∧
      Ends (due slot t₂) (tickSlot slot) (s.settleSlot slot t₁).state ∧
      (s.settleSlot slot t₁).state.settleSlot slot t₂ = s.settleSlot slot t₂ := by
  have sooner : ∀ s, due slot t₁ s = true → due slot t₂ s = true := fun _ => due_of_le ordered
  obtain ⟨first, later, same⟩ :=
    settle_settle sooner (fun _ _ _ => eq_of_tickSlot_stopped) (endsWithin_reserve ends)
  have ends₁ : Ends (due slot t₁) (tickSlot slot) s := ⟨_, first⟩
  have ends₂ : Ends (due slot t₂) (tickSlot slot) (s.settleSlot slot t₁).state := by
    rw [settleSlot_of_ends ends₁]
    exact ⟨_, later⟩
  refine ⟨ends₁, ends₂, ?_⟩
  rw [settleSlot_of_ends ends₂, settleSlot_of_ends ends₁, settleSlot_of_ends ends]
  exact same

/-- If the loop to the earlier time ends, and from there the loop to the later time, then so does the
loop to the later time alone. -/
theorem ends_of_settleSlot (ordered : t₁ ≤ t₂) (ends : Ends (due slot t₁) (tickSlot slot) s)
    (later : Ends (due slot t₂) (tickSlot slot) (s.settleSlot slot t₁).state) :
    Ends (due slot t₂) (tickSlot slot) s := by
  rw [settleSlot_of_ends ends] at later
  obtain ⟨m, more⟩ := later
  exact ⟨_, endsWithin_of_settle (fun _ => due_of_le ordered) (endsWithin_reserve ends) more⟩

/-- Nothing is due where the loop has ended and was not stopped. -/
theorem not_due_settleSlot (ends : Ends (due slot t₂) (tickSlot slot) s)
    (unstopped : (s.settleSlot slot t₂).result = .ok ()) :
    due slot t₂ (s.settleSlot slot t₂).state = false := by
  rw [settleSlot_of_ends ends] at unstopped ⊢
  exact rests_of_endsWithin (endsWithin_reserve ends) unstopped

end Simulation

/-! ## The tracker -/

namespace Tracker

open Simulation (due tickSlot Alone)

section
variable {α : Type} [Scalar α]

/-- Is a tick of a slot due? -/
def isDue (slot : Slot) (now : α) (t : Tracker α) : Bool := due slot now t.simulation

/-- An update comes to its end of itself: the loop over the work slot does, and behind it the loop
over the slot for jogs, however many ticks that takes. -/
def Settles (now : α) (t : Tracker α) : Prop :=
  ∃ n, endsWithin (isDue .work now) (tick .work now) n t = true ∧
    ((settle (isDue .work now) (tick .work now) n t).result = .ok () →
      Ends (isDue .jog now) (tick .jog now)
        (settle (isDue .work now) (tick .work now) n t).state)

omit [Scalar α] in
/-- The tracker with another simulation. -/
def withSimulation (t : Tracker α) (s : Simulation α) : Tracker α := { t with simulation := s }

variable {t : Tracker α}

/-- With no line waiting, a tick is a tick of the simulation. -/
theorem tick_withSimulation (empty : t.queue = []) (idle : t.draining = false) (slot : Slot) (now : α)
    (s : Simulation α) :
    tick slot now (t.withSimulation s) = (tickSlot slot s).mapState t.withSimulation := by
  have nothingStarts : ∀ s, drain now (t.withSimulation s) = .done (t.withSimulation s) () := by
    intro s
    obtain ⟨simulation, ledger, queue, draining, answeredOk, answeredError⟩ := t
    subst empty idle
    rfl
  have held : (t.withSimulation s).simulation = s := rfl
  rw [tick, held, tickSlot]
  obtain ⟨s', result⟩ := Simulation.tick slot s
  cases result with
  | error fault => rfl
  | ok ended =>
    cases ended with
    | false => rfl
    | true => exact nothingStarts s'

variable {slot : Slot} {now : α}

theorem settle_withSimulation (empty : t.queue = []) (idle : t.draining = false) (n : Nat) :
    settle (isDue slot now) (tick slot now) n t =
      (settle (due slot now) (tickSlot slot) n t.simulation).mapState t.withSimulation :=
  settle_lift (fun _ => rfl) (tick_withSimulation empty idle slot now) n t.simulation

theorem endsWithin_withSimulation (empty : t.queue = []) (idle : t.draining = false) (n : Nat) :
    endsWithin (isDue slot now) (tick slot now) n t =
      endsWithin (due slot now) (tickSlot slot) n t.simulation :=
  endsWithin_lift (fun _ => rfl) (tick_withSimulation empty idle slot now) n t.simulation

/-- With no line waiting and one slot taken, an update is the loop over that slot. -/
theorem update_alone (empty : t.queue = []) (idle : t.draining = false)
    (alone : Alone slot t.simulation) :
    t.update now = (t.simulation.settleSlot slot now).mapState t.withSimulation := by
  have settled : ∀ {t : Tracker α} {slot : Slot}, t.queue = [] → t.draining = false →
      t.settleSlot slot now = (t.simulation.settleSlot slot now).mapState t.withSimulation :=
    fun empty idle => settle_withSimulation empty idle _
  rw [← alone.update now, update, Simulation.update, settled empty idle]
  rcases Step.done_or_stopped (t.simulation.settleSlot .work now) with ⟨s, ended⟩ | ⟨s, fault, stopped⟩
  · rw [ended]
    exact settled (t := t.withSimulation s) empty idle
  · rw [stopped]
    rfl

/-- So it comes to its end if that loop does. -/
theorem settles_alone (empty : t.queue = []) (idle : t.draining = false)
    (alone : Alone slot t.simulation) :
    Settles now t ↔ Ends (due slot now) (tickSlot slot) t.simulation := by
  simp only [Settles, settle_withSimulation empty idle, endsWithin_withSimulation empty idle]
  have behind : ∀ s, Alone .work s →
      Ends (isDue .jog now) (tick .jog now) (t.withSimulation s) :=
    fun s workAlone =>
      have rests : isDue .jog now (t.withSimulation s) = false := workAlone.not_due (by decide) now
      ⟨0, endsWithin_rests rests 0⟩
  cases slot with
  | work =>
    constructor
    · rintro ⟨n, ends, -⟩
      exact ⟨n, ends⟩
    · rintro ⟨n, ends⟩
      exact ⟨n, ends, fun _ => behind _ (alone.settle _ _)⟩
  | jog =>
    have rests : due .work now t.simulation = false := alone.not_due (by decide) now
    have same : ∀ n, endsWithin (isDue .jog now) (tick .jog now) n t =
        endsWithin (due .jog now) (tickSlot .jog) n t.simulation :=
      endsWithin_withSimulation empty idle
    simp only [settle_rests rests, endsWithin_rests rests, true_and]
    constructor
    · rintro ⟨-, later⟩
      obtain ⟨n, ends⟩ := later rfl
      exact ⟨n, (same n).symm.trans ends⟩
    · rintro ⟨n, ends⟩
      exact ⟨0, fun _ => ⟨n, (same n).trans ends⟩⟩

end

section
variable {t : Tracker Float} (reached : Reached t) (empty : t.queue = [])
include reached empty

/-- What is still in flight behind an update that has come to its end is due later. -/
theorem due_later {now : Float} (settles : Settles now t)
    (unstopped : (t.update now).result = .ok ()) {slot : Slot} {f : Flight Float}
    (taken : (t.update now).state.simulation.flight slot = some f) : now < f.dueAt := by
  have live := ((reached.event (.update now)).awake.flying slot f taken).2
  obtain ⟨_, poised⟩ := reached.poised
  obtain ⟨other, alone⟩ := poised.placed.exists_alone
  have only : t.update now = (t.simulation.settleSlot other now).mapState t.withSimulation :=
    update_alone empty poised.idle alone
  rw [only] at taken unstopped
  have held : (t.simulation.settleSlot other now).state.flight slot = some f := taken
  have alone' : Alone other (t.simulation.settleSlot other now).state := alone.settle _ _
  obtain rfl : slot = other := by
    by_contra different
    cases (alone' slot different).symm.trans held
  -- neither due nor cancelled
  have rests := Simulation.not_due_settleSlot ((settles_alone empty poised.idle alone).1 settles)
    unstopped
  rw [due, held] at rests
  simpa [live, less] using rests

/-- An update at one time and another at a later time end if and only if the later one alone ends;
and then they leave what it leaves, position, motion, handles and journal.  What is still in flight
then is due later.  This holds of every tracker that can be reached, as long as no line waits. -/
theorem update_update {t₁ t₂ : Float} (ordered : t₁ ≤ t₂) :
    (Settles t₂ t ↔ Settles t₁ t ∧ Settles t₂ (t.update t₁).state) ∧
      (Settles t₂ t →
        (t.update t₁).state.update t₂ = t.update t₂ ∧
          ((t.update t₂).result = .ok () → ∀ slot f,
            (t.update t₂).state.simulation.flight slot = some f → t₂ < f.dueAt)) := by
  obtain ⟨_, poised⟩ := reached.poised
  obtain ⟨slot, alone⟩ := poised.placed.exists_alone
  have idle := poised.idle
  have first : t.update t₁ = (t.simulation.settleSlot slot t₁).mapState t.withSimulation :=
    update_alone empty idle alone
  have only : t.update t₂ = (t.simulation.settleSlot slot t₂).mapState t.withSimulation :=
    update_alone empty idle alone
  have alone₁ : Alone slot (t.simulation.settleSlot slot t₁).state := alone.settle _ _
  have second : (t.update t₁).state.update t₂ =
      ((t.simulation.settleSlot slot t₁).state.settleSlot slot t₂).mapState t.withSimulation := by
    rw [first]
    exact update_alone (t := t.withSimulation _) empty idle alone₁
  have settles₁ : Settles t₁ t ↔ Ends (due slot t₁) (tickSlot slot) t.simulation :=
    settles_alone empty idle alone
  have settles₂ : Settles t₂ t ↔ Ends (due slot t₂) (tickSlot slot) t.simulation :=
    settles_alone empty idle alone
  have settles₁₂ : Settles t₂ (t.update t₁).state ↔
      Ends (due slot t₂) (tickSlot slot) (t.simulation.settleSlot slot t₁).state := by
    rw [first]
    exact settles_alone (t := t.withSimulation _) empty idle alone₁
  refine ⟨?_, fun settles => ⟨?_, fun unstopped other f taken => ?_⟩⟩
  · rw [settles₁, settles₂, settles₁₂]
    constructor
    · intro ends
      obtain ⟨ends₁, ends₁₂, -⟩ := Simulation.settleSlot_settleSlot ordered ends
      exact ⟨ends₁, ends₁₂⟩
    · rintro ⟨ends₁, ends₁₂⟩
      exact Simulation.ends_of_settleSlot ordered ends₁ ends₁₂
  · obtain ⟨-, -, same⟩ := Simulation.settleSlot_settleSlot ordered (settles₂.1 settles)
    rw [second, only, same]
  · exact due_later reached empty settles unstopped taken

end

/-- Ten ticks of a line in flight, in one update and in two. -/
theorem update_update_in_flight :
    let t : Tracker Float := (fresh true).after [.register 0 (Bytes.ofText "G1 X10 F600\n")]
    t.queue = [] ∧ Settles 0.25 t ∧ (t.update 0.1).state.update 0.25 = t.update 0.25 ∧
      ∃ f, (t.update 0.25).state.simulation.work = some f ∧ 0.25 < f.dueAt := by
  intro t
  have empty : t.queue = [] := by decide +kernel
  have settles : Settles 0.25 t := by
    refine ⟨20, by decide +kernel, fun _ => ⟨0, by decide +kernel⟩⟩
  have reached : Reached t := (Reached.fresh true).after _
  have ordered : (0.1 : Float) ≤ 0.25 := by decide +kernel
  obtain ⟨same, later⟩ := (update_update reached empty ordered).2 settles
  have flying : (t.update 0.25).state.simulation.work.isSome = true := by decide +kernel
  obtain ⟨f, taken⟩ := Option.isSome_iff_exists.1 flying
  exact ⟨empty, settles, same, f, taken, later (by decide +kernel) .work f taken⟩

end Tracker

end GcodeSender
