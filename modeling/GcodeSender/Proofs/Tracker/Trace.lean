/-
# `GcodeSender.Proofs.Tracker.Trace` — what happens to motions in an update

What happens to motions is written down next to the model, function by function,
in a trace:

    begun n     the motion of the `n`-th line handed over is put into its slot
    ticked n    a tick is made of it

A motion is told by the number of its line, since each line begins one motion at
most and nothing is handed over while one is in flight.

The trace is true to the model: an update does nothing to its simulation but make
the ticks and put the motions into their slots that its trace names, in that
order, and hand over lines in between (`update_unfolds`).

Lines that are started one behind the other get single ticks, so a trace comes
`InTurn`: ticks of the motion in flight, and behind them single ones.
-/
import GcodeSender.Proofs.Tracker.Pace

namespace GcodeSender

open Scalar Gcode

/-- What happens to the motion of a line; lines are counted as they are handed over. -/
inductive Occurrence where
  | begun (line : Nat)
  | ticked (line : Nat)
  deriving DecidableEq, Repr

variable {α : Type} [Scalar α]

/-! ## Traces -/

/-- The trace of what follows a step, if the step is not stopped. -/
def Step.traced {σ ρ ι : Type} (a : Step σ ρ) (next : ρ → σ → List ι) : List ι :=
  match a.result with
  | .ok r => next r a.state
  | .error _ => []

/-- The trace of a loop, from those of its steps. -/
def settleTrace {σ ι : Type} (due : σ → Bool) (step : σ → Step σ Unit) (trace : σ → List ι) :
    Nat → σ → List ι
  | 0, _ => []
  | limit + 1, s =>
    if due s then trace s ++ (step s).traced fun _ => settleTrace due step trace limit else []

theorem settleTrace_rests {σ ι : Type} {due : σ → Bool} {s : σ} (rests : due s = false)
    (step : σ → Step σ Unit) (trace : σ → List ι) (limit : Nat) :
    settleTrace due step trace limit s = [] := by
  cases limit with
  | zero => rfl
  | succ limit => rw [settleTrace, if_neg (by simp [rests])]

namespace Simulation

/-- How many lines have been handed over: the number of the one handed over last. -/
def line (s : Simulation α) : Nat := s.machine.starts.length

def tickTrace (slot : Slot) (s : Simulation α) : List Occurrence :=
  if (s.flight slot).isSome then [.ticked s.line] else []

theorem line_tick (slot : Slot) (s : Simulation α) : (tick slot s).state.line = s.line := by
  rw [line, line, (Played.tick slot s).machine.starts, List.append_nil]

def beginTrace (motion : Motion α) (slot : Slot) (now : α) (s : Simulation α) : List Occurrence :=
  .begun s.line :: tickTrace slot (s.takeOff motion slot now)

/-- One thing that happens to a simulation in an update, and what of it happens to a motion. -/
inductive Happens (now : α) : Simulation α → List Occurrence → Simulation α → Prop
  | handedOver (s : Simulation α) (q : QueuedMotion α) :
      Happens now s [] { s with machine := s.machine.note (.motionStarted q) }
  | refused (s : Simulation α) (refusal : Refusal α) : Happens now s [] (s.refuse refusal)
  | begun (s : Simulation α) (motion : Motion α) (slot : Slot) :
      Happens now s [.begun s.line] (s.takeOff motion slot now)
  | ticked {s : Simulation α} {slot : Slot} {f : Flight α} (taken : s.flight slot = some f) :
      Happens now s [.ticked s.line] (tick slot s).state

/-- One thing after another. -/
inductive Unfolds (now : α) : Simulation α → List Occurrence → Simulation α → Prop
  | nil (s : Simulation α) : Unfolds now s [] s
  | cons {s s' s'' : Simulation α} {first rest : List Occurrence} :
      Happens now s first s' → Unfolds now s' rest s'' → Unfolds now s (first ++ rest) s''

namespace Unfolds

variable {now : α} {s s' s'' : Simulation α} {trace trace' : List Occurrence}

theorem of_happens (h : Happens now s trace s') : Unfolds now s trace s' := by
  rw [← List.append_nil trace]
  exact .cons h (.nil s')

theorem append (h : Unfolds now s trace s') (h' : Unfolds now s' trace' s'') :
    Unfolds now s (trace ++ trace') s'' := by
  induction h with
  | nil _ => exact h'
  | cons first _ ih =>
    rw [List.append_assoc]
    exact .cons first (ih h')

end Unfolds

/-- A tick is one thing, or none where nothing is in the slot. -/
theorem tick_unfolds (slot : Slot) (now : α) (s : Simulation α) :
    Unfolds now s (tickTrace slot s) (tick slot s).state := by
  rw [tickTrace]
  cases taken : s.flight slot with
  | none =>
    rw [tick_empty taken]
    exact .nil s
  | some f => exact .of_happens (.ticked taken)

theorem begin_unfolds (motion : Motion α) (slot : Slot) (now : α) (s : Simulation α) :
    Unfolds now s (beginTrace motion slot now s) (s.begin motion slot now).state :=
  .cons (.begun s motion slot) (tick_unfolds slot now (s.takeOff motion slot now))

end Simulation

namespace Tracker

open Simulation (Unfolds)

def startTrace (now : α) (q : QueuedMotion α) (s : Simulation α) : List Occurrence :=
  match q.plan s.machine.position s.tickMs with
  | .ok (some (.ok motion)) =>
    Simulation.beginTrace motion q.slot now
      { s with machine := s.machine.note (.motionStarted q) }
  | _ => []

def startWaitingTrace (now : α) : List (QueuedMotion α) → Simulation α → List Occurrence
  | [], _ => []
  | q :: rest, s =>
    if s.inMotion then []
    else startTrace now q s ++ (start now q s).traced fun _ => startWaitingTrace now rest

def drainTrace (now : α) (t : Tracker α) : List Occurrence :=
  if t.draining then [] else startWaitingTrace now t.queue t.simulation

def tickTrace (slot : Slot) (now : α) (t : Tracker α) : List Occurrence :=
  Simulation.tickTrace slot t.simulation ++
    (Simulation.tick slot t.simulation).traced fun ended simulation =>
      if ended then drainTrace now { t with simulation } else []

def settleSlotTrace (slot : Slot) (now : α) (t : Tracker α) : List Occurrence :=
  settleTrace (isDue slot now) (tick slot now) (tickTrace slot now)
    (t.simulation.tickAllowance slot now) t

/-- What happens to motions in an update. -/
def updateTrace (now : α) (t : Tracker α) : List Occurrence :=
  settleSlotTrace .work now t ++
    (t.settleSlot .work now).traced fun _ => settleSlotTrace .jog now

/-! ## The traces are true -/

theorem start_unfolds (now : α) (q : QueuedMotion α) (s : Simulation α) :
    Unfolds now s (startTrace now q s) (start now q s).state := by
  have handedOver : Simulation.Happens now s [] _ := .handedOver s q
  rw [startTrace, start_eq]
  dsimp only
  cases q.plan s.machine.position s.tickMs with
  | error fault => exact .of_happens handedOver
  | ok asked =>
    rcases asked with _ | refusal | motion
    · exact .of_happens handedOver
    · exact .cons handedOver (.of_happens (.refused _ refusal))
    · exact .cons handedOver (Simulation.begin_unfolds motion q.slot now _)

theorem startWaiting_unfolds (now : α) (queue : List (QueuedMotion α)) (s : Simulation α) :
    Unfolds now s (startWaitingTrace now queue s) (startWaiting now queue s).state.1 := by
  induction queue generalizing s with
  | nil => exact .nil s
  | cons q rest ih =>
    rw [startWaitingTrace, startWaiting]
    split
    · exact .nil s
    · have first := start_unfolds now q s
      rcases Step.done_or_stopped (start now q s) with ⟨s', started⟩ | ⟨s', fault, stopped⟩
      · rw [started] at first ⊢
        exact first.append (ih s')
      · rw [stopped] at first ⊢
        exact first.append (.nil s')

variable {slot : Slot} {now : α}

theorem drain_unfolds (now : α) (t : Tracker α) :
    Unfolds now t.simulation (drainTrace now t) (drain now t).state.simulation := by
  rw [drainTrace, drain]
  split
  · exact .nil _
  · exact startWaiting_unfolds now t.queue t.simulation

theorem tick_unfolds (slot : Slot) (now : α) (t : Tracker α) :
    Unfolds now t.simulation (tickTrace slot now t) (tick slot now t).state.simulation := by
  have first := Simulation.tick_unfolds slot now t.simulation
  rw [tickTrace, tick]
  generalize Simulation.tick slot t.simulation = outcome at first ⊢
  obtain ⟨s, result⟩ := outcome
  cases result with
  | error fault => exact first.append (.nil s)
  | ok ended =>
    cases ended with
    | false => exact first.append (.nil s)
    | true => exact first.append (drain_unfolds now { t with simulation := s })

theorem settleSlot_unfolds (slot : Slot) (now : α) (t : Tracker α) :
    Unfolds now t.simulation (settleSlotTrace slot now t)
      (t.settleSlot slot now).state.simulation := by
  show Unfolds now t.simulation (settleTrace (isDue slot now) (tick slot now) (tickTrace slot now) _ t)
    (settle (isDue slot now) (tick slot now) _ t).state.simulation
  generalize t.simulation.tickAllowance slot now = limit
  induction limit generalizing t with
  | zero => exact .nil _
  | succ limit ih =>
    rw [settleTrace, settle]
    split
    · have first := tick_unfolds slot now t
      rcases Step.done_or_stopped (tick slot now t) with ⟨t', done⟩ | ⟨t', fault, stopped⟩
      · rw [done] at first ⊢
        exact first.append (ih t')
      · rw [stopped] at first ⊢
        exact first.append (.nil _)
    · exact .nil _

/-- An update does what its trace says, and nothing else that concerns a motion. -/
theorem update_unfolds (now : α) (t : Tracker α) :
    Unfolds now t.simulation (updateTrace now t) (t.update now).state.simulation := by
  have first := settleSlot_unfolds .work now t
  rw [updateTrace, update]
  rcases Step.done_or_stopped (t.settleSlot .work now) with ⟨t', done⟩ | ⟨t', fault, stopped⟩
  · rw [done] at first ⊢
    exact first.append (settleSlot_unfolds .jog now t')
  · rw [stopped] at first ⊢
    exact first.append (.nil _)

/-! ## Traces in turn -/

/-- Motions that begin, each with one tick. -/
def singles (lines : List Nat) : List Occurrence :=
  lines.flatMap fun line => [.begun line, .ticked line]

/-- Ticks of one line, `n` at most, and behind them single ticks of lines that come later. -/
def InTurn (line n : Nat) (trace : List Occurrence) : Prop :=
  ∃ k ≤ n, ∃ lines, trace = List.replicate k (.ticked line) ++ singles lines ∧
    (line :: lines).Pairwise (· < ·)

theorem ticked_mem_singles {line : Nat} {lines : List Nat} :
    .ticked line ∈ singles lines ↔ line ∈ lines := by
  simp [singles]

theorem begun_mem_singles {line : Nat} {lines : List Nat} :
    .begun line ∈ singles lines ↔ line ∈ lines := by
  simp [singles]

theorem count_ticked_singles (line : Nat) (lines : List Nat) :
    (singles lines).count (.ticked line) = lines.count line := by
  induction lines with
  | nil => rfl
  | cons first rest ih =>
    have split : singles (first :: rest) = .begun first :: .ticked first :: singles rest := rfl
    rw [split, List.count_cons, List.count_cons, List.count_cons, ih]
    simp

namespace InTurn

variable {line n : Nat} {trace : List Occurrence}

theorem nil (line n : Nat) : InTurn line n [] :=
  ⟨0, Nat.zero_le n, [], rfl, List.pairwise_singleton _ _⟩

theorem tick (h : InTurn line n trace) : InTurn line (n + 1) (.ticked line :: trace) := by
  obtain ⟨k, le, lines, rfl, later⟩ := h
  exact ⟨k + 1, by omega, lines, rfl, later⟩

theorem mono {n' : Nat} (h : InTurn line n trace) (le : n ≤ n') : InTurn line n' trace := by
  obtain ⟨k, fewer, rest⟩ := h
  exact ⟨k, fewer.trans le, rest⟩

theorem count_le (h : InTurn line n trace) : trace.count (.ticked line) ≤ n := by
  obtain ⟨k, le, lines, rfl, later⟩ := h
  have absent : line ∉ lines := fun mem => lt_irrefl _ (List.rel_of_pairwise_cons later mem)
  rw [List.count_append, List.count_replicate_self, count_ticked_singles,
    List.count_eq_zero_of_not_mem absent]
  omega

theorem count_begun (h : InTurn line n trace) {i : Nat} (begun : .begun i ∈ trace) :
    line < i ∧ trace.count (.ticked i) = 1 := by
  obtain ⟨k, -, lines, rfl, later⟩ := h
  have mem : i ∈ lines := by simpa [begun_mem_singles, List.mem_replicate] using begun
  have lt : line < i := List.rel_of_pairwise_cons later mem
  have once : lines.Nodup := (List.pairwise_cons.1 later).2.imp fun lt => lt.ne
  have other : (Occurrence.ticked line == .ticked i) = false := by simpa using lt.ne
  refine ⟨lt, ?_⟩
  rw [List.count_append, List.count_replicate, count_ticked_singles,
    List.count_eq_one_of_mem once mem, other]
  rfl

theorem ticked (h : InTurn line n trace) {i : Nat} (ticked : .ticked i ∈ trace) :
    i = line ∨ .begun i ∈ trace := by
  obtain ⟨k, -, lines, rfl, -⟩ := h
  rcases List.mem_append.1 ticked with same | single
  · cases List.eq_of_mem_replicate same
    exact .inl rfl
  · rw [ticked_mem_singles] at single
    exact .inr (List.mem_append_right _ (begun_mem_singles.2 single))

end InTurn

/-! ## Lines that begin -/

theorem line_start (now : α) (q : QueuedMotion α) (s : Simulation α) :
    (start now q s).state.line = s.line + 1 := by
  rw [Simulation.line, Simulation.line, (start_played now q s).machine.starts, List.length_append,
    List.length_singleton]

/-- A line that is handed over begins one motion at most, and gives it one tick. -/
theorem startTrace_eq (now : α) (q : QueuedMotion α) (s : Simulation α) :
    startTrace now q s = [] ∨ startTrace now q s = singles [s.line + 1] := by
  rw [startTrace]
  split
  next motion _ =>
    right
    have number : ({ s with machine := s.machine.note (.motionStarted q) } : Simulation α).line =
        s.line + 1 := by
      simp [Simulation.line, Machine.note, Machine.starts]
    have taken : ∀ s : Simulation α, Simulation.tickTrace q.slot (s.takeOff motion q.slot now) =
        [.ticked s.line] := by
      intro s
      simp [Simulation.tickTrace, Simulation.line]
    rw [Simulation.beginTrace, taken, number]
    rfl
  next => exact .inl rfl

theorem startWaitingTrace_inTurn (now : α) (queue : List (QueuedMotion α)) (s : Simulation α) :
    InTurn s.line 0 (startWaitingTrace now queue s) := by
  induction queue generalizing s with
  | nil => exact .nil _ _
  | cons q rest ih =>
    rw [startWaitingTrace]
    split
    next => exact .nil _ _
    next =>
      have number := line_start now q s
      have behind : InTurn (s.line + 1) 0
          ((start now q s).traced fun _ => startWaitingTrace now rest) := by
        rw [← number]
        rcases Step.done_or_stopped (start now q s) with ⟨s', started⟩ | ⟨s', fault, stopped⟩
        · rw [started]
          exact ih s'
        · rw [stopped]
          exact .nil _ _
      generalize (start now q s).traced _ = trace at behind ⊢
      obtain ⟨k, none, lines, rfl, later⟩ := behind
      obtain rfl : k = 0 := by omega
      have sorted : (s.line :: (s.line + 1) :: lines).Pairwise (· < ·) := by
        refine List.pairwise_cons.2 ⟨fun i mem => ?_, later⟩
        rcases List.mem_cons.1 mem with rfl | mem
        · exact Nat.lt_succ_self _
        · exact (Nat.lt_succ_self _).trans (List.rel_of_pairwise_cons later mem)
      rcases startTrace_eq now q s with nothing | single
      · rw [nothing]
        exact ⟨0, le_rfl, lines, rfl, sorted.sublist ((List.sublist_cons_self _ _).cons_cons _)⟩
      · rw [single]
        exact ⟨0, le_rfl, (s.line + 1) :: lines, rfl, sorted⟩

theorem drainTrace_inTurn (now : α) (t : Tracker α) :
    InTurn t.simulation.line 0 (drainTrace now t) := by
  rw [drainTrace]
  split
  · exact .nil _ _
  · exact startWaitingTrace_inTurn now t.queue t.simulation

end Tracker

end GcodeSender
