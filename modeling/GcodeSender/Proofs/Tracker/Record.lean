/-
# `GcodeSender.Proofs.Tracker.Record` — simulation leaves the record alone

What a tracker knows for certain it has from the commands and the messages:

    modes, feed           from the commands
    run state             from the status reports
    ledger, answers       from both

This is its record.  The simulated motion reads the record and writes the
position, the queue and the journal, so two trackers that agree on their record
go on agreeing, whatever is in flight in either of them:

    record_register       the first half of a command says it all
    record_receive        a message
    record_update         ticks leave it
    record_apply          so one event keeps an agreement
    record_after          and so does a history

The position is guessed between reports, and a report overrules the guess.
-/
import GcodeSender.Proofs.Machine.Report
import GcodeSender.Proofs.Tracker.Account

namespace GcodeSender

open Scalar Gcode

variable {α : Type}

/-! ## The machine's part -/

namespace Machine

/-- Agreement on modes, feed and run state. -/
structure Agrees (m m' : Machine α) : Prop where
  modes : m.modes = m'.modes
  feed : m.feed = m'.feed
  run : m.run = m'.run

theorem Agrees.symm {m m' : Machine α} (h : m.Agrees m') : m'.Agrees m :=
  ⟨h.modes.symm, h.feed.symm, h.run.symm⟩

theorem Agrees.trans {m m' m'' : Machine α} (h : m.Agrees m') (h' : m'.Agrees m'') :
    m.Agrees m'' :=
  ⟨h.modes.trans h'.modes, h.feed.trans h'.feed, h.run.trans h'.run⟩

@[simp] theorem run_setRun (m : Machine α) (run : RunState) : (m.setRun run).run = run := by
  rw [setRun]
  split
  next same => exact same
  next => rfl

variable [Scalar α] {m m' : Machine α}

theorem Agrees.applyCode (h : Agrees m m') (code : α) :
    (m.applyCode code).2 = (m'.applyCode code).2 ∧
      Agrees (m.applyCode code).1 (m'.applyCode code).1 := by
  simp only [Machine.applyCode, h.modes]
  exact ⟨trivial, rfl, h.feed, h.run⟩

theorem Agrees.setFeed (h : Agrees m m') (feed : α) :
    Agrees (m.setFeed feed) (m'.setFeed feed) := by
  have modes : ∀ m : Machine α, (m.setFeed feed).modes = m.modes := by
    intro m
    rw [Machine.setFeed]
    dsimp only
    split <;> rfl
  exact ⟨by rw [modes, modes, h.modes], rfl, by rw [run_setFeed, run_setFeed, h.run]⟩

theorem run_receivePosition (message : Bytes) (m : Machine α) :
    (m.receivePosition message).run = m.run := by
  rw [receivePosition]
  split
  · exact (Played.setPosition m _).run
  · rfl

/-- The run state after a message depends on the run state before it. -/
theorem run_receive (h : m.run = m'.run) (message : Bytes) :
    (m.receive message).run = (m'.receive message).run := by
  rw [receive, receive]
  split
  next =>
    rw [receiveReport, receiveReport]
    split
    next =>
      rw [receiveToken, receiveToken]
      cases RunState.ofToken? (Report.stateToken message) with
      | some run => simp only [run_setRun]
      | none =>
        show (m.receivePosition message).run = (m'.receivePosition message).run
        rw [run_receivePosition, run_receivePosition, h]
    next => exact h
  next =>
    split
    · exact h
    · split
      · exact h
      · split <;> exact h

/-- Machines that agree before a message agree after it. -/
theorem Agrees.receive (h : Agrees m m') (message : Bytes) :
    Agrees (m.receive message) (m'.receive message) := by
  have informed := Informed.receive m message
  have informed' := Informed.receive m' message
  refine ⟨?_, ?_, run_receive h.run message⟩
  · exact informed.modes.trans (h.modes.trans informed'.modes.symm)
  · exact informed.feed.trans (h.feed.trans informed'.feed.symm)

end Machine

/-! ## The record -/

/-- What is known of a machine from the commands and the messages. -/
structure Record (α : Type) where
  modes : Modes
  feed : Option α
  run : RunState
  ledger : Ledger
  answeredOk : Nat
  answeredError : Nat
  deriving DecidableEq, Repr

namespace Tracker

/-- The record of a tracker. -/
def record (t : Tracker α) : Record α where
  modes := t.machine.modes
  feed := t.machine.feed
  run := t.machine.run
  ledger := t.ledger
  answeredOk := t.answeredOk
  answeredError := t.answeredError

/-- Agreement on the record, part by part. -/
theorem record_eq_iff {t t' : Tracker α} :
    t.record = t'.record ↔
      t.machine.Agrees t'.machine ∧ t.ledger = t'.ledger ∧ t.answeredOk = t'.answeredOk ∧
        t.answeredError = t'.answeredError := by
  constructor
  · intro h
    injection h with modes feed run ledger ok error
    exact ⟨⟨modes, feed, run⟩, ledger, ok, error⟩
  · rintro ⟨⟨modes, feed, run⟩, ledger, ok, error⟩
    simp only [record, modes, feed, run, ledger, ok, error]

theorem Played.record {ls : List (QueuedMotion α)} {t t' : Tracker α} (h : Played ls t t') :
    t'.record = t.record :=
  have machine := h.simulation.machine
  record_eq_iff.2 ⟨⟨machine.modes, machine.feed, machine.run⟩, h.ledger, h.answeredOk,
    h.answeredError⟩

variable [Scalar α] {t t' : Tracker α}

/-! ### Commands -/

theorem applyWords_agrees (words : List Word) {m m' : Machine α} (h : m.Agrees m') :
    (applyWords words m).2 = (applyWords words m').2 ∧
      (applyWords words m).1.Agrees (applyWords words m').1 := by
  rw [applyWords, applyWords]
  generalize false = selected
  induction words generalizing m m' selected with
  | nil => exact ⟨rfl, h⟩
  | cons w rest ih =>
    cases letter : w.letter with
    | g =>
      obtain ⟨same, agrees⟩ := h.applyCode (ofNumeral w.value)
      simp only [List.foldl_cons, letter, same]
      exact ih agrees _
    | f =>
      simp only [List.foldl_cons, letter]
      exact ih (h.setFeed (ofNumeral w.value)) selected
    | x | y | z | r | i | j | other =>
      simp only [List.foldl_cons, letter]
      exact ih h selected

theorem takeUp_agrees (words : List Word) {m m' : Machine α} (h : m.Agrees m') :
    (takeUp words m).Agrees (takeUp words m') := by
  obtain ⟨same, agrees⟩ := applyWords_agrees words h
  rw [takeUp, takeUp, same]
  split
  · exact ⟨agrees.modes, agrees.feed, agrees.run⟩
  · exact agrees

/-- A command is counted, read and logged on the record alone. -/
theorem record_noted (h : t.record = t'.record) (command : Bytes) :
    (t.noted command).record = (t'.noted command).record := by
  obtain ⟨agrees, ledger, ok, error⟩ := record_eq_iff.1 h
  have counted : t.ledger.send command = t'.ledger.send command := by rw [ledger]
  rw [record_eq_iff, noted, noted]
  dsimp only
  split
  next => exact ⟨agrees, ledger, ok, error⟩
  next =>
    split
    next => split <;> exact ⟨⟨agrees.modes, agrees.feed, agrees.run⟩, counted, ok, error⟩
    next =>
      split
      next => exact ⟨agrees, counted, ok, error⟩
      next =>
        split
        next => exact ⟨agrees, counted, ok, error⟩
        next => exact ⟨⟨agrees.modes, agrees.feed, agrees.run⟩, counted, ok, error⟩
        next words _ => exact ⟨takeUp_agrees words agrees, counted, ok, error⟩

/-- The motion that a command begins, queues or withdraws does not reach the record. -/
theorem record_register (now : α) (command : Bytes) (t : Tracker α) :
    (register now command t).state.record = (t.noted command).record := by
  have registered := register_registered now command t
  generalize register now command t = outcome at registered ⊢
  cases registered with
  | counted r notCancel stays _ => rfl
  | moves q notCancel moves =>
    obtain ⟨ls, played⟩ := drain_played now { t.noted command with
      queue := (t.noted command).queue ++ [q] }
    exact played.record
  | cancels cancel stays =>
    subst cancel
    obtain ⟨ls, played⟩ := cancelJogs_played now t
    exact played.record

/-! ### Messages and time -/

omit [Scalar α] in
theorem record_answer (h : t.record = t'.record) : t.answer.record = t'.answer.record := by
  obtain ⟨agrees, ledger, ok, error⟩ := record_eq_iff.1 h
  rw [record_eq_iff, answer, answer]
  dsimp only
  rw [ledger]
  split <;> exact ⟨⟨agrees.modes, agrees.feed, agrees.run⟩, rfl, ok, error⟩

theorem record_receive (h : t.record = t'.record) (message : Bytes) :
    (t.receive message).record = (t'.receive message).record := by
  obtain ⟨agrees, ledger, ok, error⟩ := record_eq_iff.1 h
  simp only [receive]
  split
  next => exact record_answer (record_eq_iff.2 ⟨agrees, ledger, congrArg (· + 1) ok, error⟩)
  next =>
    split
    next =>
      refine record_answer (record_eq_iff.2 ⟨?_, ledger, ok, congrArg (· + 1) error⟩)
      exact ⟨agrees.modes, agrees.feed, agrees.run⟩
    next =>
      split
      next => exact h
      next => exact record_eq_iff.2 ⟨agrees.receive message.trim, ledger, ok, error⟩

theorem record_update (now : α) (t : Tracker α) : (t.update now).state.record = t.record := by
  obtain ⟨ls, played⟩ := update_played now t
  exact played.record

omit [Scalar α] in
theorem record_toggle (t : Tracker α) : t.toggle.1.record = t.record := by
  rw [toggle_eq]
  split <;> rfl

/-! ### Histories -/

/-- Trackers that agree on their record agree on it after the same event. -/
theorem record_apply (h : t.record = t'.record) (e : Event α) :
    (e.apply t).state.record = (e.apply t').state.record := by
  cases e with
  | register now command =>
    show (register now command t).state.record = (register now command t').state.record
    rw [record_register, record_register]
    exact record_noted h command
  | receive message => exact record_receive h message
  | update now =>
    show (t.update now).state.record = (t'.update now).state.record
    rw [record_update, record_update, h]
  | toggle =>
    show t.toggle.1.record = t'.toggle.1.record
    rw [record_toggle, record_toggle, h]

theorem record_after (h : t.record = t'.record) (events : List (Event α)) :
    (t.after events).record = (t'.after events).record := by
  induction events generalizing t t' with
  | nil => exact h
  | cons e rest ih => exact ih (record_apply h e)

/-- A report is neither an answer nor blank. -/
theorem receive_report {message : Bytes} (bracket : message.trim.startsWith [0x3C] = true)
    (t : Tracker α) : t.receive message = t.mapMachine (·.receive message.trim) := by
  obtain ⟨rest, hrest⟩ := List.isPrefixOf_iff_prefix.1 bracket
  have ok : Bytes.ofText "ok" = [0x6F, 0x6B] := by decide +kernel
  have error : Bytes.ofText "error" = [0x65, 0x72, 0x72, 0x6F, 0x72] := by decide +kernel
  simp [receive, ← hrest, ok, error, Bytes.startsWith]

theorem position_receive_report {message : Bytes} {p : Position Numeral}
    (bracket : message.trim.startsWith [0x3C] = true)
    (wellFormed : Report.isStatusReport message.trim = true)
    (triple : Report.firstTriple? message.trim = some p) (t : Tracker Float) :
    let position := (t.receive message).machine.position
    (position.x == p.x.toFloat) = true ∧ (position.y == p.y.toFloat) = true ∧
      (position.z == p.z.toFloat) = true := by
  rw [receive_report bracket]
  exact Machine.position_receive t.machine bracket wellFormed triple

/-- Whether motion is simulated makes no difference to the record, after any history; and a report
puts the machine where it says, whatever was in flight. -/
theorem simulation_keeps_record (events : List (Event Float)) :
    let simulated := (fresh true).after events
    let plain := (fresh false).after events
    simulated.record = plain.record ∧
      (∀ earlier message p, events = earlier ++ [.receive message] →
        message.trim.startsWith [0x3C] = true → Report.isStatusReport message.trim = true →
        Report.firstTriple? message.trim = some p →
        ∀ t ∈ [simulated, plain], (t.machine.position.x == p.x.toFloat) = true ∧
          (t.machine.position.y == p.y.toFloat) = true ∧
          (t.machine.position.z == p.z.toFloat) = true) ∧
      ∀ head rest x y z, 0x2E ∉ head → Report.NoFigure rest →
        Report.firstTriple? (head ++ 0x3A :: (Report.tripleText x y z ++ rest)) =
          some ⟨x.value, y.value, z.value⟩ := by
  intro simulated plain
  have start : (fresh true : Tracker Float).record = (fresh false).record := rfl
  refine ⟨record_after start events, ?_, ?_⟩
  · intro earlier message p last bracket wellFormed triple t mem
    have received : ∀ simulate : Bool, (fresh simulate).after events =
        ((fresh simulate).after earlier).receive message := by
      intro simulate
      rw [last, after_append]
      rfl
    rcases List.mem_pair.1 mem with rfl | rfl
    · rw [show simulated = _ from received true]
      exact position_receive_report bracket wellFormed triple _
    · rw [show plain = _ from received false]
      exact position_receive_report bracket wellFormed triple _
  · intro head rest x y z noPoint ends
    exact Report.firstTriple?_report noPoint x y z ends

/-- A report that comes while a line is in flight. -/
theorem simulation_keeps_record_in_flight :
    let report := Bytes.ofText "<Run|MPos:1.500,-2.000,3.250|FS:600,0>\r\n"
    let events : List (Event Float) :=
      [.register 0 (Bytes.ofText "G1 X10 F600\n"), .update 0.1, .receive report]
    let simulated := (fresh true).after events
    let plain := (fresh false).after events
    simulated.inMotion = true ∧ simulated.record = plain.record ∧
      ∀ t ∈ [simulated, plain], (t.machine.position.x == 1.5) = true ∧
        (t.machine.position.y == -2) = true ∧ (t.machine.position.z == 3.25) = true := by
  intro report events simulated plain
  let p : Position Numeral :=
    ⟨.decimal false 1500 (-3), .decimal true 2000 (-3), .decimal false 3250 (-3)⟩
  obtain ⟨record, position, -⟩ := simulation_keeps_record events
  have reported := position
    [.register 0 (Bytes.ofText "G1 X10 F600\n"), .update 0.1] report p rfl
    (by decide +kernel) (by decide +kernel) (by decide +kernel)
  have written : p.x.toFloat = 1.5 ∧ p.y.toFloat = -2 ∧ p.z.toFloat = 3.25 := by decide +kernel
  rw [written.1, written.2.1, written.2.2] at reported
  exact ⟨by decide +kernel, record, reported⟩

end Tracker

end GcodeSender
