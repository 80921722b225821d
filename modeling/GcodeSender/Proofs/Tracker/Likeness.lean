/-
# `GcodeSender.Proofs.Tracker.Likeness` — two trackers that go the same way

Nothing that a tracker does goes by its journal, and of a line that waits it goes
by four things only: whether it is a jog, the move that its words describe, and
the modes and the feed that it carries.  So two trackers that differ in their
journals, and in one waiting line that is the same in these four, stay like that
whatever happens to both.

    Machine.Alike m m'         the same but for the journal
    Simulation.Alike s s'      the same but for the journal of the machine
    Twin q q'                  two lines of which one stands for the other
    Replaced n n' l l'         the same lines, or in one place n' for n
    Tracker.Alike n n' t t'    the same but for the journal, and for n' in the place of n

Each function of the tracker keeps the likeness, with the same result
(`Step.Alike`); the loops by induction, the rest by going through what they do.
-/
import GcodeSender.Proofs.Tracker.History

namespace GcodeSender

open Scalar Gcode

/-! ## Outcomes that are alike -/

namespace Step

variable {σ τ σ' τ' ρ ρ' : Type} {r : σ → τ → Prop} {r' : σ' → τ' → Prop}

/-- The results are the same, and the states are related. -/
structure Alike (r : σ → τ → Prop) (a : Step σ ρ) (b : Step τ ρ) : Prop where
  state : r a.state b.state
  result : b.result = a.result

namespace Alike

theorem done {s : σ} {t : τ} (h : r s t) (x : ρ) : Alike r (.done s x) (.done t x) := ⟨h, rfl⟩

theorem stopped {s : σ} {t : τ} (h : r s t) (fault : Fault) :
    Alike r (.stopped s fault : Step σ ρ) (.stopped t fault) := ⟨h, rfl⟩

theorem mapResult {a : Step σ ρ} {b : Step τ ρ} (h : Alike r a b) (f : ρ → ρ') :
    Alike r (a.mapResult f) (b.mapResult f) := ⟨h.state, congrArg (Except.map f) h.result⟩

theorem mapState {a : Step σ ρ} {b : Step τ ρ} (h : Alike r a b) {f : σ → σ'} {g : τ → τ'}
    (maps : ∀ {s t}, r s t → r' (f s) (g t)) : Alike r' (a.mapState f) (b.mapState g) :=
  ⟨maps h.state, h.result⟩

theorem andThen {a : Step σ ρ} {b : Step τ ρ} (h : Alike r a b) {next : ρ → σ → Step σ ρ'}
    {next' : ρ → τ → Step τ ρ'} (nexts : ∀ {s t} x, r s t → Alike r (next x s) (next' x t)) :
    Alike r (a.andThen next) (b.andThen next') := by
  obtain ⟨s, result⟩ := a
  obtain ⟨t, result'⟩ := b
  obtain rfl : result' = result := h.result
  cases result' with
  | ok x => exact nexts x h.state
  | error fault => exact .stopped h.state fault

/-- Two loops that go by the same and step alike come to the same. -/
theorem settle {due : σ → Bool} {due' : τ → Bool} {step : σ → Step σ Unit} {step' : τ → Step τ Unit}
    (dues : ∀ {s t}, r s t → due' t = due s) (steps : ∀ {s t}, r s t → Alike r (step s) (step' t))
    (limit : Nat) {s : σ} {t : τ} (h : r s t) :
    Alike r (settle due step limit s) (settle due' step' limit t) := by
  induction limit generalizing s t with
  | zero => exact .done h ()
  | succ limit ih =>
    have first := steps h
    rw [GcodeSender.settle, GcodeSender.settle, dues h]
    split
    · generalize step s = a at first
      generalize step' t = b at first
      obtain ⟨s', result⟩ := a
      obtain ⟨t', result'⟩ := b
      obtain rfl : result' = result := first.result
      cases result' with
      | ok _ => exact ih first.state
      | error fault => exact .stopped first.state fault
    · exact .done h ()

end Alike

end Step

variable {α : Type} [Scalar α]

/-! ## Machines -/

namespace Machine

omit [Scalar α] in
/-- The same machine with another journal. -/
def Alike (m m' : Machine α) : Prop := ∃ journal, m' = { m with journal }

variable {m m' : Machine α}

namespace Alike

omit [Scalar α] in
theorem refl (m : Machine α) : Alike m m := ⟨m.journal, rfl⟩

omit [Scalar α] in
theorem modes (h : Alike m m') : m'.modes = m.modes := by
  obtain ⟨_, rfl⟩ := h
  rfl

theorem feedRate (h : Alike m m') : m'.feedRate = m.feedRate := by
  obtain ⟨_, rfl⟩ := h
  rfl

omit [Scalar α] in
theorem note (h : Alike m m') (n n' : Notice α) : Alike (m.note n) (m'.note n') := by
  obtain ⟨_, rfl⟩ := h
  exact ⟨_, rfl⟩

omit [Scalar α] in
theorem logText (h : Alike m m') (level : Level) (s : String) :
    Alike (m.logText level s) (m'.logText level s) := h.note _ _

theorem setPosition (h : Alike m m') (target : Target α) :
    Alike (m.setPosition target) (m'.setPosition target) := by
  obtain ⟨_, rfl⟩ := h
  rw [Machine.setPosition, Machine.setPosition]
  dsimp only
  split <;> exact ⟨_, rfl⟩

omit [Scalar α] in
theorem setRun (h : Alike m m') (run : RunState) : Alike (m.setRun run) (m'.setRun run) := by
  obtain ⟨_, rfl⟩ := h
  rw [Machine.setRun, Machine.setRun]
  dsimp only
  split <;> exact ⟨_, rfl⟩

theorem setFeed (h : Alike m m') (feed : α) : Alike (m.setFeed feed) (m'.setFeed feed) := by
  obtain ⟨journal, rfl⟩ := h
  have rate : Machine.feedRate { m with journal } = m.feedRate := rfl
  rw [Machine.setFeed, Machine.setFeed, rate]
  split <;> exact ⟨_, rfl⟩

theorem receive (h : Alike m m') (message : Bytes) :
    Alike (m.receive message) (m'.receive message) := by
  have positioned : Alike (m.receivePosition message) (m'.receivePosition message) := by
    rw [receivePosition, receivePosition]
    split
    · exact h.setPosition _
    · exact h
  have tokened : ∀ {m m' : Machine α} (token : Bytes), Alike m m' →
      Alike (m.receiveToken token) (m'.receiveToken token) := by
    intro m m' token h
    rw [receiveToken, receiveToken]
    split
    · exact h.setRun _
    · exact h.logText _ _
  rw [Machine.receive, Machine.receive]
  split
  · rw [receiveReport, receiveReport]
    split
    · exact tokened _ positioned
    · exact h.logText _ _
  · repeat' split
    all_goals exact h.logText _ _

end Alike

end Machine

/-! ## Simulations -/

namespace Simulation

omit [Scalar α] in
/-- The same simulation, its machine with another journal. -/
def Alike (s s' : Simulation α) : Prop :=
  ∃ journal, s' = { s with machine := { s.machine with journal } }

variable {s s' : Simulation α}

namespace Alike

omit [Scalar α] in
theorem refl (s : Simulation α) : Alike s s := ⟨s.machine.journal, rfl⟩

omit [Scalar α] in
theorem machine (h : Alike s s') : s.machine.Alike s'.machine := by
  obtain ⟨_, rfl⟩ := h
  exact ⟨_, rfl⟩

omit [Scalar α] in
theorem withMachine (h : Alike s s') {m m' : Machine α} (like : m.Alike m') :
    Alike { s with machine := m } { s' with machine := m' } := by
  obtain ⟨_, rfl⟩ := h
  obtain ⟨_, rfl⟩ := like
  exact ⟨_, rfl⟩

omit [Scalar α] in
theorem flight (h : Alike s s') (slot : Slot) : s'.flight slot = s.flight slot := by
  obtain ⟨_, rfl⟩ := h
  cases slot <;> rfl

omit [Scalar α] in
theorem setFlight (h : Alike s s') (slot : Slot) (f : Option (Flight α)) :
    Alike (s.setFlight slot f) (s'.setFlight slot f) := by
  obtain ⟨_, rfl⟩ := h
  cases slot <;> exact ⟨_, rfl⟩

omit [Scalar α] in
theorem endMotion (h : Alike s s') : Alike s.endMotion s'.endMotion := by
  obtain ⟨_, rfl⟩ := h
  exact ⟨_, rfl⟩

omit [Scalar α] in
theorem enabled (h : Alike s s') : s'.enabled = s.enabled := by
  obtain ⟨_, rfl⟩ := h
  rfl

omit [Scalar α] in
theorem inMotion (h : Alike s s') : s'.inMotion = s.inMotion := by
  obtain ⟨_, rfl⟩ := h
  rfl

omit [Scalar α] in
theorem tickMs (h : Alike s s') : s'.tickMs = s.tickMs := by
  obtain ⟨_, rfl⟩ := h
  rfl

omit [Scalar α] in
theorem position (h : Alike s s') : s'.machine.position = s.machine.position := by
  obtain ⟨_, rfl⟩ := h
  rfl

theorem due (h : Alike s s') (slot : Slot) (now : α) : due slot now s' = due slot now s := by
  rw [Simulation.due, Simulation.due, h.flight]

theorem tickAllowance (h : Alike s s') (slot : Slot) (now : α) :
    s'.tickAllowance slot now = s.tickAllowance slot now := by
  rw [Simulation.tickAllowance, Simulation.tickAllowance, h.flight]
  obtain ⟨_, rfl⟩ := h
  rfl

/-- A tick goes by what is in the slot, by where the machine is, and by no journal. -/
theorem tick (h : Alike s s') (slot : Slot) :
    Step.Alike Alike (tick slot s) (tick slot s') := by
  rw [Simulation.tick, Simulation.tick, h.flight]
  cases s.flight slot with
  | none => exact .done h _
  | some f =>
    dsimp only
    rw [h.position]
    by_cases on : s.enabled = true
    · rw [if_pos on, if_pos (h.enabled.trans on)]
      cases f.motion.advance s.machine.position with
      | error fault => exact .stopped h fault
      | ok a =>
        have moved := h.withMachine (h.machine.setPosition (.ofPosition a.position))
        have interval : s'.tickInterval = s.tickInterval := by
          rw [tickInterval, tickInterval, h.tickMs]
        dsimp only
        rw [interval]
        split
        · exact .done (moved.setFlight _ _) _
        · exact .done moved.endMotion _
    · rw [if_neg on, if_neg (h.enabled ▸ on)]
      exact .done (h.setFlight _ _) _

theorem begin (h : Alike s s') (motion : Motion α) (slot : Slot) (now : α) :
    Step.Alike Alike (s.begin motion slot now) (s'.begin motion slot now) := by
  have put : Alike ({ s with inMotion := true }.setFlight slot (some { motion, dueAt := now }))
      ({ s' with inMotion := true }.setFlight slot (some { motion, dueAt := now })) := by
    obtain ⟨_, rfl⟩ := h
    cases slot <;> exact ⟨_, rfl⟩
  exact ((put.withMachine (put.machine.note _ _)).tick slot).mapResult _

theorem beginPlanned (h : Alike s s') (planned : Except (Refusal α) (Motion α)) (slot : Slot)
    (now : α) :
    Step.Alike Alike (s.beginPlanned planned slot now) (s'.beginPlanned planned slot now) := by
  cases planned with
  | error refusal =>
    refine .done (s := s.refuse refusal) (t := s'.refuse refusal) ?_ false
    rw [Simulation.refuse, Simulation.refuse]
    split
    · exact h.withMachine (h.machine.note _ _)
    · exact h
  | ok motion => exact (h.begin motion slot now).mapResult _

end Alike

end Simulation

/-! ## Waiting lines -/

/-- Two lines of which one stands for the other: both jogs or neither, with words that describe the
same move, and with the same modes and feed. -/
structure Twin (q q' : QueuedMotion α) : Prop where
  isJog : q'.isJog = q.isJog
  move : (Move.ofWords q'.words : Move α) = Move.ofWords q.words
  modes : q'.modes = q.modes
  feed : q'.feed = q.feed

namespace Twin

variable {q q' : QueuedMotion α}

theorem refl (q : QueuedMotion α) : Twin q q := ⟨rfl, rfl, rfl, rfl⟩

theorem slot (h : Twin q q') : q'.slot = q.slot := by
  rw [QueuedMotion.slot, QueuedMotion.slot, h.isJog]

/-- Twins ask for the same motion. -/
theorem plan (h : Twin q q') (position : Position α) (tickMs : α) :
    q'.plan position tickMs = q.plan position tickMs := by
  rw [QueuedMotion.plan, QueuedMotion.plan, h.isJog, h.move, h.modes, h.feed]

end Twin

/-- The same lines, or in one place `n'` for `n`. -/
inductive Replaced (n n' : QueuedMotion α) : List (QueuedMotion α) → List (QueuedMotion α) → Prop
  | same (lines : List (QueuedMotion α)) : Replaced n n' lines lines
  | here (behind : List (QueuedMotion α)) : Replaced n n' (n :: behind) (n' :: behind)
  | behind (q : QueuedMotion α) {rest rest' : List (QueuedMotion α)} :
      Replaced n n' rest rest' → Replaced n n' (q :: rest) (q :: rest')

namespace Replaced

variable {n n' : QueuedMotion α} {lines lines' : List (QueuedMotion α)}

omit [Scalar α] in
theorem last (n n' : QueuedMotion α) (lines : List (QueuedMotion α)) :
    Replaced n n' (lines ++ [n]) (lines ++ [n']) := by
  induction lines with
  | nil => exact .here []
  | cons q _ ih => exact .behind q ih

omit [Scalar α] in
theorem append (h : Replaced n n' lines lines') (q : QueuedMotion α) :
    Replaced n n' (lines ++ [q]) (lines' ++ [q]) := by
  induction h with
  | same lines => exact .same _
  | here behind => exact .here _
  | behind q _ ih => exact .behind q ih

omit [Scalar α] in
theorem filter (h : Replaced n n' lines lines') (keeps : QueuedMotion α → Bool)
    (alike : keeps n' = keeps n) :
    Replaced n n' (lines.filter keeps) (lines'.filter keeps) := by
  induction h with
  | same lines => exact .same _
  | here rest =>
    rw [List.filter_cons, List.filter_cons, alike]
    split
    · exact .here _
    · exact .same _
  | behind q _ ih =>
    rw [List.filter_cons, List.filter_cons]
    split
    · exact .behind q ih
    · exact ih

end Replaced

/-! ## Trackers -/

namespace Tracker

variable {n n' : QueuedMotion α} {t t' : Tracker α}

omit [Scalar α] in
/-- The same tracker but for the journal, and for one line that waits: `n` here and `n'` there. -/
structure Alike (n n' : QueuedMotion α) (t t' : Tracker α) : Prop where
  simulation : t.simulation.Alike t'.simulation
  ledger : t'.ledger = t.ledger
  queue : Replaced n n' t.queue t'.queue
  draining : t'.draining = t.draining
  answeredOk : t'.answeredOk = t.answeredOk
  answeredError : t'.answeredError = t.answeredError

/-- Twins are started alike. -/
theorem start_alike {s s' : Simulation α} (h : s.Alike s') {q q' : QueuedMotion α} (twin : Twin q q')
    (now : α) : Step.Alike Simulation.Alike (start now q s) (start now q' s') := by
  have noted := h.withMachine (h.machine.note (.motionStarted q) (.motionStarted q'))
  have plan : q'.plan s'.machine.position s'.tickMs = q.plan s.machine.position s.tickMs := by
    rw [twin.plan, h.position, h.tickMs]
  rw [start_eq, start_eq, plan, twin.slot]
  dsimp only
  cases q.plan s.machine.position s.tickMs with
  | error fault => exact .stopped noted fault
  | ok asked =>
    cases asked with
    | none => exact .done noted ()
    | some planned => exact (noted.beginPlanned planned q.slot now).mapResult _

/-- The outcomes of starting lines that wait: the machines are alike, and so are the lines left. -/
def Left (n n' : QueuedMotion α) (a b : Simulation α × List (QueuedMotion α)) : Prop :=
  a.1.Alike b.1 ∧ Replaced n n' a.2 b.2

/-- Lines are started alike if the first are twins and the others are. -/
theorem startWaiting_cons_alike {q q' : QueuedMotion α} {rest rest' : List (QueuedMotion α)}
    (twin : Twin q q') (lines : Replaced n n' (q :: rest) (q' :: rest'))
    (others : Replaced n n' rest rest') (now : α)
    (later : ∀ {s s' : Simulation α}, s.Alike s' →
      Step.Alike (Left n n') (startWaiting now rest s) (startWaiting now rest' s'))
    {s s' : Simulation α} (h : s.Alike s') :
    Step.Alike (Left n n') (startWaiting now (q :: rest) s) (startWaiting now (q' :: rest') s') := by
  have first := start_alike h twin now
  rw [startWaiting, startWaiting, h.inMotion]
  split
  · exact .done ⟨h, lines⟩ ()
  · generalize start now q s = a at first
    generalize start now q' s' = b at first
    obtain ⟨s, result⟩ := a
    obtain ⟨s', result'⟩ := b
    obtain rfl : result' = result := first.result
    cases result' with
    | ok _ => exact later first.state
    | error fault => exact .stopped ⟨first.state, others⟩ fault

/-- Waiting lines are started alike, as far as each queue goes. -/
theorem startWaiting_alike (twin : Twin n n') (now : α) {queue queue' : List (QueuedMotion α)}
    (lines : Replaced n n' queue queue') {s s' : Simulation α} (h : s.Alike s') :
    Step.Alike (Left n n') (startWaiting now queue s) (startWaiting now queue' s') := by
  have equal : ∀ (queue : List (QueuedMotion α)) {s s' : Simulation α}, s.Alike s' →
      Step.Alike (Left n n') (startWaiting now queue s) (startWaiting now queue s') := by
    intro queue
    induction queue with
    | nil => exact fun h => .done ⟨h, .same []⟩ ()
    | cons q rest ih =>
      exact fun h => startWaiting_cons_alike (.refl q) (.same _) (.same rest) now ih h
  induction lines generalizing s s' with
  | same queue => exact equal queue h
  | here rest => exact startWaiting_cons_alike twin (.here rest) (.same rest) now (equal rest) h
  | behind q rest ih => exact startWaiting_cons_alike (.refl q) (.behind q rest) rest now ih h

namespace Alike

omit [Scalar α] in
theorem refl (n n' : QueuedMotion α) (t : Tracker α) : Alike n n' t t :=
  ⟨.refl _, rfl, .same _, rfl, rfl, rfl⟩

omit [Scalar α] in
theorem machine (h : Alike n n' t t') : t.machine.Alike t'.machine := h.simulation.machine

omit [Scalar α] in
theorem withSimulation (h : Alike n n' t t') {s s' : Simulation α} (like : s.Alike s') :
    Alike n n' { t with simulation := s } { t' with simulation := s' } :=
  ⟨like, h.ledger, h.queue, h.draining, h.answeredOk, h.answeredError⟩

omit [Scalar α] in
theorem withQueue (h : Alike n n' t t') {lines lines' : List (QueuedMotion α)}
    (like : Replaced n n' lines lines') :
    Alike n n' { t with queue := lines } { t' with queue := lines' } :=
  ⟨h.simulation, h.ledger, like, h.draining, h.answeredOk, h.answeredError⟩

omit [Scalar α] in
theorem withLedger (h : Alike n n' t t') (ledger : Ledger) :
    Alike n n' { t with ledger } { t' with ledger } :=
  ⟨h.simulation, rfl, h.queue, h.draining, h.answeredOk, h.answeredError⟩

omit [Scalar α] in
theorem mapMachine (h : Alike n n' t t') {f g : Machine α → Machine α}
    (maps : (f t.machine).Alike (g t'.machine)) : Alike n n' (t.mapMachine f) (t'.mapMachine g) :=
  h.withSimulation (h.simulation.withMachine maps)

omit [Scalar α] in
theorem logText (h : Alike n n' t t') (level : Level) (s : String) :
    Alike n n' (t.logText level s) (t'.logText level s) := h.mapMachine (h.machine.logText _ _)

theorem drain (twin : Twin n n') (h : Alike n n' t t') (now : α) :
    Step.Alike (Alike n n') (drain now t) (drain now t') := by
  rw [Tracker.drain, Tracker.drain, h.draining]
  split
  · exact .done h ()
  · refine (startWaiting_alike twin now h.queue h.simulation).mapState fun related => ?_
    exact ⟨related.1, h.ledger, related.2, rfl, h.answeredOk, h.answeredError⟩

theorem enqueue (twin : Twin n n') (h : Alike n n' t t') (q : QueuedMotion α) (now : α) :
    Step.Alike (Alike n n') (enqueue now q t) (enqueue now q t') :=
  drain twin (h.withQueue (h.queue.append q)) now

/-- Here is where a line comes to wait that has a twin. -/
theorem enqueue_twin (twin : Twin n n') (t : Tracker α) (now : α) :
    Step.Alike (Alike n n') (Tracker.enqueue now n t) (Tracker.enqueue now n' t) :=
  drain twin ((refl n n' t).withQueue (.last n n' t.queue)) now

theorem tick (twin : Twin n n') (h : Alike n n' t t') (slot : Slot) (now : α) :
    Step.Alike (Alike n n') (tick slot now t) (tick slot now t') := by
  have ticked := h.simulation.tick slot
  rw [Tracker.tick, Tracker.tick]
  generalize Simulation.tick slot t.simulation = a at ticked
  generalize Simulation.tick slot t'.simulation = b at ticked
  obtain ⟨s, result⟩ := a
  obtain ⟨s', result'⟩ := b
  obtain rfl : result' = result := ticked.result
  have next := h.withSimulation ticked.state
  cases result' with
  | error fault => exact .stopped next fault
  | ok ended =>
    dsimp only
    split
    · exact drain twin next now
    · exact .done next ()

theorem settleSlot (twin : Twin n n') (h : Alike n n' t t') (slot : Slot) (now : α) :
    Step.Alike (Alike n n') (t.settleSlot slot now) (t'.settleSlot slot now) := by
  rw [Tracker.settleSlot, Tracker.settleSlot, h.simulation.tickAllowance]
  exact .settle (fun h => h.simulation.due slot now) (fun h => tick twin h slot now) _ h

theorem update (twin : Twin n n') (h : Alike n n' t t') (now : α) :
    Step.Alike (Alike n n') (t.update now) (t'.update now) :=
  (settleSlot twin h .work now).andThen fun _ h => settleSlot twin h .jog now

omit [Scalar α] in
theorem toggle (h : Alike n n' t t') : Alike n n' t.toggle.1 t'.toggle.1 := by
  have off : ∀ (s s' : Simulation α), s.Alike s' →
      Simulation.Alike { s.stop with enabled := false } { s'.stop with enabled := false } := by
    rintro s _ ⟨_, rfl⟩
    exact ⟨_, rfl⟩
  have on : ∀ (s s' : Simulation α), s.Alike s' →
      Simulation.Alike { s with enabled := true } { s' with enabled := true } := by
    rintro s _ ⟨_, rfl⟩
    exact ⟨_, rfl⟩
  rw [toggle_eq, toggle_eq, simulates, simulates, h.simulation.enabled]
  split
  · exact ((h.withSimulation (off _ _ h.simulation)).withQueue (.same [])).logText _ _
  · exact (h.withSimulation (on _ _ h.simulation)).logText _ _

theorem cancelJogs (twin : Twin n n') (h : Alike n n' t t') (now : α) :
    Step.Alike (Alike n n') (cancelJogs now t) (cancelJogs now t') := by
  have left : Replaced n n' (t.queue.filter (!·.isJog)) (t'.queue.filter (!·.isJog)) :=
    h.queue.filter _ (congrArg Bool.not twin.isJog)
  have active : t'.simulation.jogActive = t.simulation.jogActive := by
    rw [Simulation.jogActive, Simulation.jogActive]
    exact congrArg Option.isSome (h.simulation.flight .jog)
  have stilled : ∀ (s s' : Simulation α), s.Alike s' →
      Simulation.Alike { s with inMotion := false, jog := none }
        { s' with inMotion := false, jog := none } := by
    rintro s _ ⟨_, rfl⟩
    exact ⟨_, rfl⟩
  rw [cancelJogs_eq, cancelJogs_eq, active]
  dsimp only
  split
  · exact drain twin
      (((h.withQueue left).withSimulation (stilled _ _ h.simulation)).logText _ _) now
  · exact .done (h.withQueue left) ()

omit [Scalar α] in
theorem answer (h : Alike n n' t t') : Alike n n' t.answer t'.answer := by
  rw [Tracker.answer, Tracker.answer, h.ledger]
  dsimp only
  split
  · exact h.withLedger _
  · exact (h.withLedger _).logText _ _

theorem receive (h : Alike n n' t t') (message : Bytes) :
    Alike n n' (t.receive message) (t'.receive message) := by
  have ok : Alike n n' { t with answeredOk := t.answeredOk + 1 }
      { t' with answeredOk := t'.answeredOk + 1 } :=
    { h with answeredOk := congrArg (· + 1) h.answeredOk }
  have error : Alike n n' { t with answeredError := t.answeredError + 1 }
      { t' with answeredError := t'.answeredError + 1 } :=
    { h with answeredError := congrArg (· + 1) h.answeredError }
  unfold Tracker.receive
  dsimp only
  split
  · exact ok.answer
  · split
    · exact (error.logText _ _).answer
    · split
      · exact h
      · exact h.mapMachine (h.machine.receive _)

omit [Scalar α] in
theorem send (h : Alike n n' t t') (command : Bytes) :
    Alike n n' { t with ledger := t.ledger.send command }
      { t' with ledger := t'.ledger.send command } :=
  h.ledger ▸ h.withLedger _

end Alike

/-! ## Commands -/

/-- The words of a line are taken up by two machines alike. -/
theorem applyWords_alike (words : List Word) {m m' : Machine α} (h : m.Alike m') :
    (applyWords words m).1.Alike (applyWords words m').1 ∧
      (applyWords words m').2 = (applyWords words m).2 := by
  rw [applyWords, applyWords]
  generalize false = selected
  induction words generalizing m m' selected with
  | nil => exact ⟨h, rfl⟩
  | cons w rest ih =>
    cases letter : w.letter with
    | g =>
      simp only [List.foldl_cons, letter]
      obtain ⟨_, rfl⟩ := h
      exact ih ⟨_, rfl⟩ _
    | f =>
      simp only [List.foldl_cons, letter]
      exact ih (h.setFeed _) _
    | x | y | z | r | i | j | other =>
      simp only [List.foldl_cons, letter]
      exact ih h _

theorem takeUp_alike (words : List Word) {m m' : Machine α} (h : m.Alike m') :
    (takeUp words m).Alike (takeUp words m') := by
  obtain ⟨taken, selected⟩ := applyWords_alike words h
  rw [takeUp, takeUp, selected]
  split
  · exact taken.note _ _
  · exact taken

namespace Alike

omit [Scalar α] in
theorem simulates (h : Alike n n' t t') : t'.simulates = t.simulates := h.simulation.enabled

theorem registerStandard (twin : Twin n n') (h : Alike n n' t t') (now : α) (command : Bytes) :
    Step.Alike (Alike n n') (registerStandard now command t) (registerStandard now command t') := by
  cases read : parseLine command with
  | error fault =>
    rw [Tracker.registerStandard, Tracker.registerStandard, read]
    exact .stopped h fault
  | ok answer =>
    cases answer with
    | error refusal =>
      rw [Tracker.registerStandard, Tracker.registerStandard, read]
      exact .done (h.logText _ _) _
    | ok words =>
      have taken := takeUp_alike words h.machine
      have next : Alike n n' (t.mapMachine (takeUp words)) (t'.mapMachine (takeUp words)) :=
        h.mapMachine taken
      rw [registerStandard_words read, registerStandard_words read]
      dsimp only
      rw [h.simulates, taken.modes, taken.feedRate]
      split
      · exact (next.enqueue twin _ now).mapResult _
      · exact .done next none

theorem registerJog (twin : Twin n n') (h : Alike n n' t t') (now : α) (command : Bytes) :
    Step.Alike (Alike n n') (registerJog now command t) (registerJog now command t') := by
  rw [Tracker.registerJog, Tracker.registerJog]
  split
  · exact .stopped h _
  · exact .done (h.logText _ _) _
  · rw [h.machine.modes, h.machine.feedRate, h.simulates]
    dsimp only
    split
    · exact (h.enqueue twin _ now).mapResult _
    · exact .done h none

theorem register (twin : Twin n n') (h : Alike n n' t t') (now : α) (command : Bytes) :
    Step.Alike (Alike n n') (register now command t) (register now command t') := by
  have counted := h.send command
  unfold Tracker.register
  dsimp only
  split
  · split
    · exact registerJog twin counted now command
    · exact .done counted none
  · split
    · split
      · exact (h.cancelJogs twin now).mapResult _
      · exact .done h none
    · exact registerStandard twin counted now command

/-- Whatever happens to both. -/
theorem apply (twin : Twin n n') (h : Alike n n' t t') (e : Event α) :
    Step.Alike (Alike n n') (e.apply t) (e.apply t') := by
  cases e with
  | register now command => exact (h.register twin now command).mapResult _
  | receive message => exact .done (h.receive message) ()
  | update now => exact h.update twin now
  | toggle => exact .done h.toggle ()

end Alike

end Tracker

end GcodeSender
