/-
# `GcodeSender.Proofs.Tracker.Intake` — commands and messages, apart from motion

Registering a command has two halves.  First it is counted, read and logged
(`noted`): the ledger, the modes, the feed and the journal change, and nothing
that concerns motion.  Then a line that moves joins the queue (`entryFor?`), or
the cancelling byte takes the jogs out of it.

    Registered      all outcomes: counted, moves, cancels
    Noted c t t'    what the first half changes and what it leaves alone
    Heard t t'      what a message leaves alone

`entryFor?` is where the modes and the feed of a line are fixed: those in force
after its own G and F words, for a jog those of the jog alone.
-/
import GcodeSender.Proofs.Tracker.Play

namespace GcodeSender

open Scalar Gcode

variable {α : Type} [Scalar α]

/-! ## Words and the state that persists -/

namespace Machine

omit [Scalar α] in
@[simp] theorem starts_announceModes (m : Machine α) : m.announceModes.starts = m.starts := by
  simp [announceModes]

@[simp] theorem starts_setFeed (m : Machine α) (feed : α) : (m.setFeed feed).starts = m.starts := by
  unfold setFeed
  dsimp only
  split
  · rfl
  · exact starts_announce m _ _

@[simp] theorem position_setFeed (m : Machine α) (feed : α) :
    (m.setFeed feed).position = m.position := by
  rw [setFeed]
  dsimp only
  split <;> rfl

@[simp] theorem run_setFeed (m : Machine α) (feed : α) : (m.setFeed feed).run = m.run := by
  rw [setFeed]
  dsimp only
  split <;> rfl

end Machine

namespace Tracker

/-- G and F words concern neither the position nor the run state, and start nothing. -/
theorem applyWords_kept (words : List Word) (m : Machine α) :
    (applyWords words m).1.position = m.position ∧ (applyWords words m).1.run = m.run ∧
      (applyWords words m).1.starts = m.starts := by
  rw [applyWords]
  generalize false = selected
  induction words generalizing m selected with
  | nil => exact ⟨rfl, rfl, rfl⟩
  | cons w rest ih =>
    cases letter : w.letter with
    | g =>
      simp only [List.foldl_cons, letter]
      exact ih (m.applyCode (ofNumeral w.value)).1 _
    | f =>
      simp only [List.foldl_cons, letter]
      obtain ⟨position, run, starts⟩ := ih (m.setFeed (ofNumeral w.value)) selected
      exact ⟨by simp [position], by simp [run], by simp [starts]⟩
    | x | y | z | r | i | j | other =>
      simp only [List.foldl_cons, letter]
      exact ih m selected

/-- The machine after the G and F words of a line, announced. -/
def takeUp (words : List Word) (m : Machine α) : Machine α :=
  if (applyWords words m).2 then (applyWords words m).1.announceModes else (applyWords words m).1

theorem modes_takeUp (words : List Word) (m : Machine α) :
    (takeUp words m).modes = (applyWords words m).1.modes := by
  rw [takeUp]
  split <;> rfl

theorem feedRate_takeUp (words : List Word) (m : Machine α) :
    (takeUp words m).feedRate = (applyWords words m).1.feedRate := by
  rw [takeUp]
  split <;> rfl

theorem takeUp_kept (words : List Word) (m : Machine α) :
    (takeUp words m).position = m.position ∧ (takeUp words m).run = m.run ∧
      (takeUp words m).starts = m.starts := by
  obtain ⟨position, run, starts⟩ := applyWords_kept words m
  rw [takeUp]
  split
  · exact ⟨position, run, by rw [Machine.starts_announceModes, starts]⟩
  · exact ⟨position, run, starts⟩

/-! ## The two halves of a command -/

/-- The line as it is queued if it moves: with the modes and the feed in force for it. -/
def entryFor? (t : Tracker α) (command : Bytes) : Option (QueuedMotion α) :=
  if !t.simulates || isRealtime command then none
  else if isJog command then
    match parseLine (command.drop jogMark.length) with
    | .ok (.ok words) =>
      let (modes, feed) := jogSettings words t.machine.modes t.machine.feedRate
      some ⟨command, words, modes, feed⟩
    | _ => none
  else if isSystem command then none
  else
    match parseLine command with
    | .ok (.ok words) =>
      let machine := (applyWords words t.machine).1
      if hasAxisWords words then some ⟨command, words, machine.modes, machine.feedRate⟩ else none
    | _ => none

theorem simulates_of_entryFor? {t : Tracker α} {command : Bytes} {q : QueuedMotion α}
    (h : t.entryFor? command = some q) : t.simulates = true := by
  cases on : t.simulates with
  | true => rfl
  | false => simp [entryFor?, on] at h

/-- The tracker after a command was counted, read and logged, and before anything moves. -/
def noted (command : Bytes) (t : Tracker α) : Tracker α :=
  let counted := { t with ledger := t.ledger.send command }
  let refuse (what : String) (refusal : LineError) : Tracker α :=
    counted.logText .error (what ++ refusal.message)
  if isRealtime command then t
  else if isJog command then
    match parseLine (command.drop jogMark.length) with
    | .ok (.error refusal) => refuse ("Invalid jog command " ++ command.literal ++ ": ") refusal
    | _ => counted
  else if isSystem command then counted
  else
    match parseLine command with
    | .error _ => counted
    | .ok (.error refusal) => refuse ("Command " ++ command.literal ++ " not registered: ") refusal
    | .ok (.ok words) => counted.mapMachine (takeUp words)

/-- Reading a command is stopped by a fault. -/
def Unreadable (command : Bytes) (fault : Fault) : Prop :=
  isRealtime command = false ∧
    if isJog command then parseLine (command.drop jogMark.length) = .error fault
    else isSystem command = false ∧ parseLine command = .error fault

/-- All that registering a command can come to. -/
inductive Registered (now : α) (command : Bytes) (t : Tracker α) :
    Step (Tracker α) (Option LineError) → Prop
  /-- It does not move: the line was refused, is about something else, or nothing is simulated. -/
  | counted (r : Except Fault (Option LineError)) : command ≠ [jogCancel] →
      t.entryFor? command = none → (∀ fault, r = .error fault ↔ Unreadable command fault) →
      Registered now command t ⟨t.noted command, r⟩
  | moves (q : QueuedMotion α) : command ≠ [jogCancel] → t.entryFor? command = some q →
      Registered now command t ((enqueue now q (t.noted command)).mapResult fun _ => none)
  | cancels : command = [jogCancel] → t.entryFor? command = none →
      Registered now command t ((cancelJogs now t).mapResult fun _ => none)

theorem isSystem_of_isJog {command : Bytes} (h : isJog command = true) :
    isSystem command = true := by
  rw [isJog, Bytes.startsWith, jogMark] at h
  obtain ⟨rest, rfl⟩ := List.isPrefixOf_iff_prefix.1 h
  rfl

theorem not_isRealtime_of_isSystem {command : Bytes} (h : isSystem command = true) :
    isRealtime command = false := by
  cases realtime : isRealtime command with
  | false => rfl
  | true =>
    simp only [isRealtime, Bool.or_eq_true, decide_eq_true_eq] at realtime
    rcases realtime with rfl | rfl <;> cases h

theorem not_cancel_of_not_isRealtime {command : Bytes} (h : isRealtime command = false) :
    command ≠ [jogCancel] := by
  rintro rfl
  cases h

section
variable {now : α} {command : Bytes} {t : Tracker α}

theorem Registered.of_counted {t' : Tracker α} {r : Except Fault (Option LineError)}
    (hnoted : t.noted command = t') (h : command ≠ [jogCancel])
    (hnone : t.entryFor? command = none)
    (reads : ∀ fault, r = .error fault ↔ Unreadable command fault) :
    Registered now command t ⟨t', r⟩ := hnoted ▸ .counted r h hnone reads

theorem Registered.of_moves {t' : Tracker α} {q : QueuedMotion α}
    (hnoted : t.noted command = t') (h : command ≠ [jogCancel])
    (hsome : t.entryFor? command = some q) :
    Registered now command t ((enqueue now q t').mapResult fun _ => none) :=
  hnoted ▸ .moves q h hsome

/-- A jog that could be read, with the modes and the feed of its own. -/
theorem registerJog_words {words : List Word}
    (read : parseLine (command.drop jogMark.length) = .ok (.ok words)) :
    registerJog now command t =
      let (modes, feed) := jogSettings words t.machine.modes t.machine.feedRate
      if t.simulates then (enqueue now ⟨command, words, modes, feed⟩ t).mapResult fun _ => none
      else .done t none := by
  rw [registerJog, read]

/-- A standard line that could be read: its words are taken up first, and then it is queued. -/
theorem registerStandard_words {words : List Word} (read : parseLine command = .ok (.ok words)) :
    registerStandard now command t =
      let taken := takeUp words t.machine
      let t' := t.mapMachine (takeUp words)
      if hasAxisWords words && t.simulates then
        (enqueue now ⟨command, words, taken.modes, taken.feedRate⟩ t').mapResult fun _ => none
      else .done t' none := by
  rw [registerStandard, read]
  rfl

theorem registerJog_registered (jog : isJog command = true) :
    Registered now command t
      (registerJog now command { t with ledger := t.ledger.send command }) := by
  have line := not_isRealtime_of_isSystem (isSystem_of_isJog jog)
  have notCancel := not_cancel_of_not_isRealtime line
  rw [registerJog]
  split
  next fault hread =>
    exact .of_counted (by simp [noted, line, jog, hread]) notCancel
      (by simp [entryFor?, line, jog, hread]) (by simp [Unreadable, line, jog, hread])
  next refusal hread =>
    exact .of_counted (by simp [noted, line, jog, hread]) notCancel
      (by simp [entryFor?, line, jog, hread]) (by simp [Unreadable, line, jog, hread])
  next words hread =>
    have hnoted : t.noted command = { t with ledger := t.ledger.send command } := by
      simp [noted, line, jog, hread]
    dsimp only
    split
    next on =>
      replace on : t.simulates = true := on
      exact .of_moves hnoted notCancel (by simp [entryFor?, on, line, jog, hread, machine])
    next off =>
      replace off : t.simulates = false := Bool.eq_false_iff.2 off
      exact .of_counted hnoted notCancel (by simp [entryFor?, off])
        (by simp [Unreadable, jog, hread])

theorem registerStandard_registered (standard : isSystem command = false)
    (line : isRealtime command = false) :
    Registered now command t
      (registerStandard now command { t with ledger := t.ledger.send command }) := by
  have notCancel := not_cancel_of_not_isRealtime line
  have notJog : isJog command = false := by
    cases jog : isJog command with
    | false => rfl
    | true => exact absurd (isSystem_of_isJog jog) (by simp [standard])
  cases hread : parseLine command with
  | error fault =>
    rw [registerStandard, hread]
    exact .of_counted (by simp [noted, line, notJog, standard, hread]) notCancel
      (by simp [entryFor?, line, notJog, standard, hread])
      (by simp [Unreadable, line, notJog, standard, hread])
  | ok answer =>
    cases answer with
    | error refusal =>
      rw [registerStandard, hread]
      exact .of_counted (by simp [noted, line, notJog, standard, hread]) notCancel
        (by simp [entryFor?, line, notJog, standard, hread])
        (by simp [Unreadable, line, notJog, standard, hread])
    | ok words =>
      have hnoted : t.noted command =
          mapMachine (takeUp words) { t with ledger := t.ledger.send command } := by
        simp [noted, line, notJog, standard, hread]
      rw [registerStandard_words hread]
      dsimp only
      split
      next moves =>
        obtain ⟨axes, on⟩ := Bool.and_eq_true_iff.1 moves
        replace on : t.simulates = true := on
        refine .of_moves hnoted notCancel ?_
        simp [entryFor?, on, line, notJog, standard, hread, axes, modes_takeUp, feedRate_takeUp,
          machine]
      next stays =>
        refine .of_counted hnoted notCancel ?_ (by simp [Unreadable, notJog, hread])
        simp only [Bool.and_eq_true, not_and, Bool.not_eq_true] at stays
        by_cases axes : hasAxisWords words = true
        · replace stays : t.simulates = false := stays axes
          simp [entryFor?, stays]
        · simp [entryFor?, line, notJog, standard, hread, axes]

end

theorem register_registered (now : α) (command : Bytes) (t : Tracker α) :
    Registered now command t (register now command t) := by
  unfold register
  dsimp only
  split
  next system =>
    have line := not_isRealtime_of_isSystem system
    split
    next jog => exact registerJog_registered jog
    next notJog =>
      exact .of_counted (by simp [noted, line, notJog, system])
        (not_cancel_of_not_isRealtime line) (by simp [entryFor?, line, notJog, system])
        (by simp [Unreadable, notJog, system])
  next standard =>
    split
    next realtime =>
      have hnone : t.entryFor? command = none := by simp [entryFor?, realtime]
      split
      next cancel => exact .cancels cancel hnone
      next query =>
        exact .of_counted (by simp [noted, realtime]) query hnone (by simp [Unreadable, realtime])
    next line =>
      exact registerStandard_registered (by simpa using standard) (by simpa using line)

/-- The first half of a command: counted in the ledger, read and logged. -/
structure Noted (command : Bytes) (t t' : Tracker α) : Prop where
  ledger : t'.ledger = t.ledger.send command
  simulation : t'.simulation = { t.simulation with machine := t'.machine }
  position : t'.machine.position = t.machine.position
  run : t'.machine.run = t.machine.run
  starts : t'.machine.starts = t.machine.starts
  queue : t'.queue = t.queue
  draining : t'.draining = t.draining
  answeredOk : t'.answeredOk = t.answeredOk
  answeredError : t'.answeredError = t.answeredError

theorem noted_noted (command : Bytes) (t : Tracker α) : Noted command t (t.noted command) := by
  have counted : Noted command t { t with ledger := t.ledger.send command } :=
    ⟨rfl, rfl, rfl, rfl, rfl, rfl, rfl, rfl, rfl⟩
  have logged : ∀ s : String, Noted command t
      (Tracker.logText { t with ledger := t.ledger.send command } .error s) := fun s =>
    ⟨rfl, rfl, rfl, rfl, Machine.starts_logText _ _ _, rfl, rfl, rfl, rfl⟩
  rw [noted]
  dsimp only
  split
  next realtime =>
    have uncounted : t.ledger.send command = t.ledger := by simp [Ledger.send, realtime]
    exact ⟨uncounted.symm, rfl, rfl, rfl, rfl, rfl, rfl, rfl, rfl⟩
  next =>
    split
    · split
      · exact logged _
      · exact counted
    · split
      · exact counted
      · split
        · exact counted
        · exact logged _
        next words _ =>
          obtain ⟨position, run, starts⟩ := takeUp_kept words t.machine
          exact ⟨rfl, rfl, position, run, starts, rfl, rfl, rfl, rfl⟩

end Tracker

/-! ## Messages -/

namespace Machine

/-- Position, run state and journal may have changed; modes and feed stay, and nothing was handed
over. -/
structure Informed (m m' : Machine α) : Prop where
  modes : m'.modes = m.modes
  feed : m'.feed = m.feed
  starts : m'.starts = m.starts

namespace Informed

omit [Scalar α] in
theorem refl (m : Machine α) : Informed m m := ⟨rfl, rfl, rfl⟩

omit [Scalar α] in
theorem trans {m m' m'' : Machine α} (h : Informed m m') (h' : Informed m' m'') :
    Informed m m'' :=
  ⟨h'.modes.trans h.modes, h'.feed.trans h.feed, h'.starts.trans h.starts⟩

omit [Scalar α] in
theorem logText (m : Machine α) (level : Level) (s : String) : Informed m (m.logText level s) :=
  ⟨rfl, rfl, starts_logText m level s⟩

omit [Scalar α] in
theorem setRun (m : Machine α) (run : RunState) : Informed m (m.setRun run) := by
  rw [Machine.setRun]
  split
  · exact refl m
  · exact ⟨rfl, rfl, starts_announce _ _ _⟩

theorem setPosition (m : Machine α) (t : Target α) : Informed m (m.setPosition t) :=
  have played := Played.setPosition m t
  ⟨played.modes, played.feed, starts_setPosition m t⟩

theorem receiveReport (m : Machine α) (report : Bytes) : Informed m (m.receiveReport report) := by
  have positioned : Informed m (m.receivePosition report) := by
    rw [receivePosition]
    split
    · exact setPosition m _
    · exact refl m
  have tokened : ∀ (m : Machine α) (token : Bytes), Informed m (m.receiveToken token) := by
    intro m token
    rw [receiveToken]
    split
    · exact setRun m _
    · exact logText m _ _
  rw [Machine.receiveReport]
  split
  · exact positioned.trans (tokened _ _)
  · exact logText m _ _

theorem receive (m : Machine α) (message : Bytes) : Informed m (m.receive message) := by
  rw [Machine.receive]
  split
  · exact receiveReport m message
  · split
    · exact logText m _ _
    · split
      · exact logText m _ _
      · split <;> exact logText m _ _

end Informed

end Machine

namespace Tracker

/-- A message was taken up: what concerns motion stays, and so do modes and feed. -/
structure Heard (t t' : Tracker α) : Prop where
  machine : Machine.Informed t.machine t'.machine
  simulation : t'.simulation = { t.simulation with machine := t'.machine }
  queue : t'.queue = t.queue
  draining : t'.draining = t.draining

omit [Scalar α] in
theorem Heard.trans {t t' t'' : Tracker α} (h : Heard t t') (h' : Heard t' t'') : Heard t t'' where
  machine := h.machine.trans h'.machine
  simulation := by rw [h'.simulation, h.simulation]
  queue := h'.queue.trans h.queue
  draining := h'.draining.trans h.draining

omit [Scalar α] in
theorem logText_heard (t : Tracker α) (level : Level) (s : String) : Heard t (t.logText level s) :=
  ⟨.logText _ _ _, rfl, rfl, rfl⟩

omit [Scalar α] in
theorem answer_heard (t : Tracker α) : Heard t t.answer := by
  have popped : ∀ ledger : Ledger, Heard t { t with ledger } := fun _ => ⟨.refl _, rfl, rfl, rfl⟩
  rw [answer]
  dsimp only
  split
  · exact popped _
  · exact (popped _).trans (logText_heard _ _ _)

theorem receive_heard (message : Bytes) (t : Tracker α) : Heard t (receive message t) := by
  unfold receive
  dsimp only
  split
  next =>
    have counted : Heard t { t with answeredOk := t.answeredOk + 1 } := ⟨.refl _, rfl, rfl, rfl⟩
    exact counted.trans (answer_heard _)
  next =>
    split
    next =>
      have counted : Heard t { t with answeredError := t.answeredError + 1 } :=
        ⟨.refl _, rfl, rfl, rfl⟩
      exact (counted.trans (logText_heard _ _ _)).trans (answer_heard _)
    next =>
      split
      · exact ⟨.refl _, rfl, rfl, rfl⟩
      · exact ⟨.receive _ _, rfl, rfl, rfl⟩

end Tracker

end GcodeSender
