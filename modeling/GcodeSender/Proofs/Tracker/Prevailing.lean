/-
# `GcodeSender.Proofs.Tracker.Prevailing` — the modes and the feed in force

A mode stays in force until another of its group is selected, and the feed until
another is set.  Both are done by the words of standard lines only:

    a G word     selects the mode of its group that its number stands for
    an F word    sets the feed
    any other    neither

What is in force is therefore read off the words of all standard lines that
could be read, one line behind the other: of every group the mode selected last,
and the feed set last.

`Heeds words m m'` says so of a machine before and after `words`.  It composes, the
words one behind the other, so whatever has no words changes neither: a jog, any
other system line, a realtime byte, a line that is refused, a message, a tick,
and a line that waited and is played, which brings back none of the modes it
carries.
-/
import GcodeSender.Proofs.Tracker.Record

namespace GcodeSender

open Scalar Gcode

/-! ## Last one in -/

namespace Gcode.Modes

/-- Of every group, the mode selected last is in force. -/
theorem get_foldl_set (selected : List Mode) (m : Modes) (g : ModeGroup) :
    (selected.foldl set m).get g = ((selected.filter (·.group = g)).getLast?).getD (m.get g) := by
  induction selected generalizing m with
  | nil => rfl
  | cons s rest ih =>
    rw [List.foldl_cons, ih]
    by_cases same : s.group = g
    · subst same
      rw [List.filter_cons_of_pos (by simp), List.getLast?_cons, get_set_group, Option.getD_some]
    · rw [List.filter_cons_of_neg (by simp [same]), get_set_of_ne m (Ne.symm same)]

end Gcode.Modes

variable {α : Type} [Scalar α]

/-! ## What words select -/

/-- The mode that a word selects. -/
def Gcode.Word.mode? (α : Type) [Scalar α] (w : Word) : Option Mode :=
  if w.letter = .g then modeOf? (ofNumeral w.value : α) else none

/-- The feed that a word sets. -/
def Gcode.Word.feed? (w : Word) : Option α :=
  if w.letter = .f then some (ofNumeral w.value) else none

namespace Machine

/-- The words between two machines account for the modes and the feed: each mode selected replaced
the one of its group, and the feed is the last one set. -/
structure Heeds (words : List Word) (m m' : Machine α) : Prop where
  modes : m'.modes = (words.filterMap (Word.mode? α)).foldl Modes.set m.modes
  feed : m'.feed = ((words.filterMap Word.feed?).getLast?).or m.feed

namespace Heeds

variable {words more : List Word} {m m' m'' : Machine α}

theorem of_same (modes : m'.modes = m.modes) (feed : m'.feed = m.feed) : Heeds [] m m' :=
  ⟨modes, feed⟩

theorem trans (h : Heeds words m m') (h' : Heeds more m' m'') : Heeds (words ++ more) m m'' where
  modes := by rw [h'.modes, h.modes, List.filterMap_append, List.foldl_append]
  feed := by rw [h'.feed, h.feed, List.filterMap_append, List.getLast?_append, Option.or_assoc]

/-- A G word selects its mode, if there is one with its number. -/
theorem applyCode {w : Word} (letter : w.letter = .g) (m : Machine α) :
    Heeds [w] m (m.applyCode (ofNumeral w.value)).1 := by
  have unset : w.feed? = (none : Option α) := by simp [Word.feed?, letter]
  have selects : w.mode? α = modeOf? (ofNumeral w.value : α) := by simp [Word.mode?, letter]
  cases mode : modeOf? (ofNumeral w.value : α) with
  | none =>
    rw [mode] at selects
    simp only [Machine.applyCode, Modes.apply, mode]
    exact ⟨by simp [selects], by simp [unset]⟩
  | some s =>
    rw [mode] at selects
    have among : ModeGroup.all.contains s.group = true := by cases s <;> rfl
    simp only [Machine.applyCode, Modes.apply, mode, among, if_true]
    exact ⟨by simp [selects], by simp [unset]⟩

/-- An F word sets the feed, also where it is the one in force. -/
theorem setFeed {w : Word} (letter : w.letter = .f) (m : Machine α) :
    Heeds [w] m (m.setFeed (ofNumeral w.value)) := by
  have sets : w.feed? = some (ofNumeral w.value : α) := by simp [Word.feed?, letter]
  have unselected : w.mode? α = none := by simp [Word.mode?, letter]
  refine ⟨?_, by simp [sets, Machine.setFeed]⟩
  rw [Machine.setFeed]
  dsimp only
  split <;> simp [unselected, announce, note]

/-- Any other word does neither. -/
theorem other {w : Word} (notG : w.letter ≠ .g) (notF : w.letter ≠ .f) (m : Machine α) :
    Heeds [w] m m := by
  have unset : w.feed? = (none : Option α) := by simp [Word.feed?, notF]
  have unselected : w.mode? α = none := by simp [Word.mode?, notG]
  exact ⟨by simp [unselected], by simp [unset]⟩

end Heeds

end Machine

namespace Tracker

open Machine (Heeds)

theorem applyWords_heeds (words : List Word) (m : Machine α) :
    Heeds words m (applyWords words m).1 := by
  rw [applyWords]
  generalize false = selected
  induction words generalizing m selected with
  | nil => exact .of_same rfl rfl
  | cons w rest ih =>
    cases letter : w.letter with
    | g =>
      simp only [List.foldl_cons, letter]
      exact (Heeds.applyCode letter m).trans (ih _ _)
    | f =>
      simp only [List.foldl_cons, letter]
      exact (Heeds.setFeed letter m).trans (ih _ _)
    | x | y | z | r | i | j | other =>
      simp only [List.foldl_cons, letter]
      exact (Heeds.other (by simp [letter]) (by simp [letter]) m).trans (ih _ _)

theorem takeUp_heeds (words : List Word) (m : Machine α) : Heeds words m (takeUp words m) := by
  have applied := applyWords_heeds words m
  rw [takeUp]
  split
  · exact ⟨applied.modes, applied.feed⟩
  · exact applied

/-! ## Standard lines -/

/-- The words of a standard line; a command of another kind has none, and neither has a line that is
refused or cannot be read. -/
def standardWords (command : Bytes) : List Word :=
  if isSystem command || isRealtime command then []
  else
    match parseLine command with
    | .ok (.ok words) => words
    | _ => []

/-- The words of the standard line that an event registers. -/
def Event.words : Event α → List Word
  | .register _ command => standardWords command
  | .receive _ | .update _ | .toggle => []

/-- The first half of a command is where its words count. -/
theorem noted_heeds (command : Bytes) (t : Tracker α) :
    Heeds (standardWords command) t.machine (t.noted command).machine := by
  have kept : ∀ {t' : Tracker α}, t'.machine.modes = t.machine.modes →
      t'.machine.feed = t.machine.feed → standardWords command = [] →
      Heeds (standardWords command) t.machine t'.machine := by
    intro t' modes feed nothing
    rw [nothing]
    exact .of_same modes feed
  rw [noted]
  dsimp only
  split
  next realtime => exact kept rfl rfl (by simp [standardWords, realtime])
  next line =>
    split
    next jog =>
      have system := isSystem_of_isJog jog
      split <;> exact kept rfl rfl (by simp [standardWords, system])
    next =>
      split
      next system => exact kept rfl rfl (by simp [standardWords, system])
      next standard =>
        split
        next hread => exact kept rfl rfl (by simp [standardWords, hread])
        next hread => exact kept rfl rfl (by simp [standardWords, hread])
        next words hread =>
          have read : standardWords command = words := by
            simp [standardWords, hread, standard, line]
          rw [read]
          exact takeUp_heeds words t.machine

theorem heeds_of_record {words : List Word} {m : Machine α} {t t' : Tracker α}
    (h : Heeds words m t.machine) (same : t'.record = t.record) : Heeds words m t'.machine := by
  obtain ⟨agrees, -⟩ := record_eq_iff.1 same
  exact ⟨agrees.modes.trans h.modes, agrees.feed.trans h.feed⟩

/-- Every event heeds the words of its standard line, and whatever has none changes neither the
modes nor the feed. -/
theorem apply_heeds (e : Event α) (t : Tracker α) :
    Heeds e.words t.machine (e.apply t).state.machine := by
  have here : Heeds [] t.machine t.machine := .of_same rfl rfl
  cases e with
  | register now command =>
    exact heeds_of_record (noted_heeds command t) (record_register now command t)
  | receive message =>
    have heard := receive_heard message t
    exact .of_same heard.machine.modes heard.machine.feed
  | update now => exact heeds_of_record here (record_update now t)
  | toggle => exact heeds_of_record here (record_toggle t)

/-! ## Histories -/

theorem after_heeds (events : List (Event α)) (t : Tracker α) :
    Heeds (events.flatMap Event.words) t.machine (t.after events).machine := by
  induction events generalizing t with
  | nil => exact .of_same rfl rfl
  | cons e rest ih => exact (apply_heeds e t).trans (ih (e.apply t).state)

/-- After any history, each group of modes is at the mode that the last G word of that group selects
in the standard lines that could be read, or as it was at first; and the feed is that of the last F
word of those lines, or zero. -/
theorem last_words_prevail (simulate : Bool) (events : List (Event α)) :
    let machine := ((fresh simulate).after events).machine
    let words := events.flatMap Event.words
    (∀ g : ModeGroup, machine.modes.get g =
      (((words.filterMap (Word.mode? α)).filter (·.group = g)).getLast?).getD
        (({} : Modes).get g)) ∧
      machine.feedRate = ((words.filterMap Word.feed?).getLast?).getD (nat 0) := by
  intro machine words
  have heeds : Heeds words (fresh simulate : Tracker α).machine machine :=
    after_heeds events (fresh simulate)
  constructor
  · intro g
    rw [heeds.modes, Modes.get_foldl_set]
    rfl
  · have unset : (fresh simulate : Tracker α).machine.feed = none := rfl
    rw [Machine.feedRate, heeds.feed, unset, Option.or_none]

-- a jog with modes and a feed of its own, a line that is refused, and a code that selects nothing
example :
    let events : List (Event Float) :=
      [.register 0 (Bytes.ofText "G91 G2 F100\n"), .register 0 (Bytes.ofText "$J=G90 G20 X5 F9\n"),
        .register 0 (Bytes.ofText "G90 F7 X\n"), .register 0 (Bytes.ofText "G0 G17 F250\n"),
        .update 0.05]
    let machine := ((fresh true).after events).machine
    machine.modes = ⟨.incremental, .incremental, .millimeter, .rapid⟩ ∧
      (machine.feedRate == 250) = true := by
  decide +kernel

end Tracker

end GcodeSender
