/-
# `GcodeSender.Proofs.Tracker.Observers` — whoever listens knows the machine

A subscriber that starts with the values of a fresh machine, and writes down
each value that is announced, has a copy of the machine.  The copy is up to
date after every event: positions, run state and modes are the very values of
the machine.  The feed is the same number: a feed that equals the one in force
is taken over without a word, so the copy may hold another zero.

    Copy, Copy.take    the subscriber's values, and one update written down
    Copy.hear          the updates of a journal written down
    Shows c m          the copy `c` shows the machine `m`

The flag `changed` is the second way to follow a machine: where a display has
lowered it and finds it down later, position and run state are what they were
(`turns_quiet`).

Both are proved of one turn of the machine, hence of every sequence of turns.
-/
import Mathlib
import GcodeSender.Proofs.Tracker.Turns

namespace GcodeSender

open Scalar Gcode

/-! ## Equal numbers -/

namespace Scalar

variable {α : Type} [Scalar α]

/-- The numbers are the same, or neither is a number. -/
def Alike (a b : α) : Prop := same a b = true ∨ same a a = false ∧ same b b = false

theorem Alike.refl (a : α) : Alike a a := by
  rw [Alike]
  cases same a a <;> simp

end Scalar

/-- A number that is the same as another is the same as itself. -/
theorem Scalar.same_left {a b : Float} (h : same a b = true) : same a a = true :=
  Float.beq_self_iff.2 (Float.beq_iff_ne_nan_and_eq.1 h).1

theorem Scalar.same_trans {a b c : Float} (h : same a b = true) (h' : same b c = true) :
    same a c = true := by
  obtain ⟨number, -, sameAB⟩ := Float.beq_iff_ne_nan_and_eq.1 h
  obtain ⟨-, number', sameBC⟩ := Float.beq_iff_ne_nan_and_eq.1 h'
  refine Float.beq_iff_ne_nan_and_eq.2 ⟨number, number', ?_⟩
  -- the two zeros are the same number, and of the three numbers the middle one may be either
  rcases sameAB with rfl | ⟨rfl, middle⟩ | ⟨rfl, middle⟩
  · exact sameBC
  · rcases sameBC with rfl | ⟨-, rfl⟩ | ⟨-, rfl⟩
    · exact .inr (.inl ⟨rfl, middle⟩)
    · exact .inr (.inl ⟨rfl, rfl⟩)
    · exact .inl rfl
  · rcases sameBC with rfl | ⟨-, rfl⟩ | ⟨-, rfl⟩
    · exact .inr (.inr ⟨rfl, middle⟩)
    · exact .inl rfl
    · exact .inr (.inr ⟨rfl, rfl⟩)

/-- A number that is alike to one is alike to every number the same as that one. -/
theorem Scalar.Alike.trans_same {a b c : Float} (h : Alike a b) (h' : same b c = true) :
    Alike a c := by
  rcases h with h | ⟨-, hb⟩
  · exact .inl (same_trans h h')
  · rw [same_left h'] at hb
    cases hb

/-! ## Subscribers -/

/-- What a subscriber has written down. -/
structure Copy (α : Type) where
  position : Position α
  axes : Axis → α
  feed : α
  run : RunState
  modes : Modes

namespace Copy

variable {α : Type}

/-- The values of a machine. -/
def of [Scalar α] (m : Machine α) : Copy α :=
  ⟨m.position, m.position.get, m.feedRate, m.run, m.modes⟩

/-- Write down an update: the value under its topic is overwritten. -/
def take (c : Copy α) (u : Update α) : Copy α :=
  match u.topic, u.value with
  | .position, .position p => { c with position := p }
  | .axis a, .coordinate x => { c with axes := Function.update c.axes a x }
  | .feedRate, .feed x => { c with feed := x }
  | .runState, .run s => { c with run := s }
  | .modes, .modes m => { c with modes := m }
  | _, _ => c

/-- Write down the updates of a journal, in the order in which they arose. -/
def hear (c : Copy α) (j : Journal α) : Copy α := j.updates.foldl take c

@[simp] theorem hear_update (c : Copy α) (j : Journal α) (u : Update α) :
    c.hear (j.note (.update u)) = (c.hear j).take u := by
  simp [hear, Journal.updates]

theorem hear_silent (c : Copy α) (j : Journal α) {n : Notice α} (h : ∀ u, n ≠ .update u) :
    c.hear (j.note n) = c.hear j := by
  cases n with
  | update u => exact absurd rfl (h u)
  | _ => simp [hear, Journal.updates]

end Copy

/-- The copy shows the machine: position, run state and modes as they are, and the feed as a
number. -/
structure Shows (c : Copy Float) (m : Machine Float) : Prop where
  position : c.position = m.position
  axes : c.axes = m.position.get
  feed : Alike c.feed m.feedRate
  run : c.run = m.run
  modes : c.modes = m.modes

theorem Shows.of (m : Machine Float) : Shows (.of m) m := ⟨rfl, rfl, .refl _, rfl, rfl⟩

namespace Machine

/-- The copy of a subscriber who has listened since the machine was fresh. -/
def copy (m : Machine Float) : Copy Float := (Copy.of fresh).hear m.journal

@[simp] theorem copy_announce (m : Machine Float) (topic : Topic) (value : Payload Float) :
    (m.announce topic value).copy = m.copy.take { topic, value } := by
  simp [copy, announce, note]

/-- Every coordinate is announced, and the whole. -/
theorem copy_announcePosition (m : Machine Float) :
    m.announcePosition.copy = { m.copy with position := m.position, axes := m.position.get } := by
  have axes : Function.update (Function.update (Function.update m.copy.axes .x m.position.x)
      .y m.position.y) .z m.position.z = m.position.get := by
    funext a
    cases a <;> rfl
  have heard : m.announcePosition.copy = { m.copy with
      position := m.position
      axes := Function.update (Function.update (Function.update m.copy.axes .x m.position.x)
        .y m.position.y) .z m.position.z } := by
    simp only [announcePosition, Axis.all, List.foldl_cons, List.foldl_nil, copy_announce]
    rfl
  rw [heard, axes]

end Machine

/-! ## One turn -/

namespace Shows

variable {m : Machine Float}

theorem note (h : Shows m.copy m) {n : Notice Float} (silent : ∀ u, n ≠ .update u) :
    Shows (m.note n).copy (m.note n) := by
  have same : (m.note n).copy = m.copy := Copy.hear_silent _ _ silent
  rw [same]
  exact ⟨h.position, h.axes, h.feed, h.run, h.modes⟩

theorem setPosition (h : Shows m.copy m) (t : Target Float) :
    Shows (m.setPosition t).copy (m.setPosition t) := by
  rw [Machine.setPosition]
  split
  · rw [Machine.copy_announcePosition]
    exact ⟨rfl, rfl, h.feed, h.run, h.modes⟩
  · exact h

theorem setRun (h : Shows m.copy m) (run : RunState) :
    Shows (m.setRun run).copy (m.setRun run) := by
  rw [Machine.setRun]
  split
  · exact h
  · rw [Machine.copy_announce]
    exact ⟨h.position, h.axes, h.feed, rfl, h.modes⟩

end Shows

/-- The copy while the words of a line are taken up: once one has selected a mode, the modes lag
behind, for they are announced when the line has been read to its end. -/
structure ShowsUnless (selected : Bool) (c : Copy Float) (m : Machine Float) : Prop where
  position : c.position = m.position
  axes : c.axes = m.position.get
  feed : Alike c.feed m.feedRate
  run : c.run = m.run
  modes : selected = false → c.modes = m.modes

/-- A code that selects no mode changes none. -/
theorem Gcode.Modes.apply_unselected {modes : Modes} {code : Float} {groups : List ModeGroup}
    (h : (modes.apply code groups).2 = false) : (modes.apply code groups).1 = modes := by
  rw [Modes.apply] at h ⊢
  split at h
  · split at h
    · cases h
    next outside => rw [if_neg outside]
  · rfl

namespace ShowsUnless

variable {m : Machine Float} {selected : Bool}

theorem applyCode (h : ShowsUnless selected m.copy m) (code : Float) :
    ShowsUnless (selected || (m.applyCode code).2) (m.applyCode code).1.copy
      (m.applyCode code).1 := by
  refine ⟨h.position, h.axes, h.feed, h.run, fun none => ?_⟩
  obtain ⟨before, now⟩ := Bool.or_eq_false_iff.1 none
  have kept : (m.applyCode code).1.modes = m.modes := Modes.apply_unselected now
  rw [kept]
  exact h.modes before

/-- A feed that is the same as the one in force goes unannounced, and the copy stays alike. -/
theorem setFeed (h : ShowsUnless selected m.copy m) (feed : Float) :
    ShowsUnless selected (m.setFeed feed).copy (m.setFeed feed) := by
  by_cases unchanged : same m.feedRate feed = true
  · have stored : m.setFeed feed = { m with feed := some feed } := by
      rw [Machine.setFeed, if_pos unchanged]
    rw [stored]
    exact ⟨h.position, h.axes, h.feed.trans_same unchanged, h.run, h.modes⟩
  · have stored : m.setFeed feed =
        { m.announce .feedRate (.feed feed) with feed := some feed } := by
      rw [Machine.setFeed, if_neg unchanged]
    have heard : (m.setFeed feed).copy = { m.copy with feed } := by
      rw [stored]
      exact m.copy_announce .feedRate (.feed feed)
    rw [heard, stored]
    exact ⟨h.position, h.axes, .refl feed, h.run, h.modes⟩

end ShowsUnless

namespace Tracker

theorem applyWords_shows (words : List Word) {m : Machine Float} (h : ShowsUnless false m.copy m) :
    ShowsUnless (applyWords words m).2 (applyWords words m).1.copy (applyWords words m).1 := by
  rw [applyWords]
  generalize false = selected at h ⊢
  induction words generalizing m selected with
  | nil => exact h
  | cons w rest ih =>
    cases letter : w.letter with
    | g =>
      simp only [List.foldl_cons, letter]
      exact ih _ (h.applyCode (ofNumeral w.value))
    | f =>
      simp only [List.foldl_cons, letter]
      exact ih _ (h.setFeed (ofNumeral w.value))
    | x | y | z | r | i | j | other =>
      simp only [List.foldl_cons, letter]
      exact ih _ h

/-- The modes are announced where one was selected, and have not changed elsewhere. -/
theorem shows_takeUp (words : List Word) {m : Machine Float} (h : Shows m.copy m) :
    Shows (takeUp words m).copy (takeUp words m) := by
  have applied := applyWords_shows words ⟨h.position, h.axes, h.feed, h.run, fun _ => h.modes⟩
  rw [takeUp]
  split
  · rw [Machine.announceModes, Machine.copy_announce]
    exact ⟨applied.position, applied.axes, applied.feed, applied.run, rfl⟩
  next none =>
    exact ⟨applied.position, applied.axes, applied.feed, applied.run,
      applied.modes (Bool.eq_false_iff.2 none)⟩

end Tracker

/-- A copy that shows the machine shows it after every sequence of turns. -/
theorem Machine.Turns.shows {m m' : Machine Float} (turns : m.Turns m') (h : Shows m.copy m) :
    Shows m'.copy m' := by
  induction turns with
  | refl => exact h
  | tail _ turn ih =>
    cases turn with
    | note n silent => exact ih.note silent
    | position t => exact ih.setPosition t
    | run run => exact ih.setRun run
    | words words => exact Tracker.shows_takeUp words ih

/-! ## The flag -/

section Flag
variable {α : Type} [Scalar α] {m m' : Machine α}

theorem Machine.changed_setFeed (m : Machine α) (feed : α) :
    (m.setFeed feed).changed = m.changed := by
  rw [Machine.setFeed]
  split <;> rfl

theorem Tracker.changed_takeUp (words : List Word) (m : Machine α) :
    (takeUp words m).changed = m.changed := by
  have applied : (applyWords words m).1.changed = m.changed := by
    rw [applyWords]
    generalize false = selected
    induction words generalizing m selected with
    | nil => rfl
    | cons w rest ih =>
      cases letter : w.letter with
      | g =>
        simp only [List.foldl_cons, letter]
        exact ih (m.applyCode (ofNumeral w.value)).1 _
      | f =>
        simp only [List.foldl_cons, letter]
        exact (ih (m.setFeed (ofNumeral w.value)) selected).trans (m.changed_setFeed _)
      | x | y | z | r | i | j | other =>
        simp only [List.foldl_cons, letter]
        exact ih m selected
  rw [takeUp]
  split <;> exact applied

/-- A turn that leaves the flag down found it down, and moved nothing. -/
theorem Machine.Turn.quiet (turn : Turn m m') (down : m'.changed = false) :
    m.changed = false ∧ m'.position = m.position ∧ m'.run = m.run := by
  cases turn with
  | note n silent => exact ⟨down, rfl, rfl⟩
  | position t =>
    rw [setPosition] at down ⊢
    split at down
    · cases down
    next same =>
      rw [if_neg same]
      exact ⟨down, rfl, rfl⟩
  | run run =>
    rw [setRun] at down ⊢
    split at down
    next same => exact ⟨down, by simp [same]⟩
    · cases down
  | words words =>
    obtain ⟨position, run, -⟩ := Tracker.takeUp_kept words m
    exact ⟨Tracker.changed_takeUp words m ▸ down, position, run⟩

/-- Where the flag is down in the end, it was down all the time, and nothing moved. -/
theorem Machine.Turns.quiet (turns : m.Turns m') (down : m'.changed = false) :
    m.changed = false ∧ m'.position = m.position ∧ m'.run = m.run := by
  induction turns with
  | refl => exact ⟨down, rfl, rfl⟩
  | tail _ turn ih =>
    obtain ⟨before, position, run⟩ := turn.quiet down
    obtain ⟨first, position', run'⟩ := ih before
    exact ⟨first, position.trans position', run.trans run'⟩

end Flag

/-! ## Histories with a display -/

/-- What happens around a tracker: its owner does something to it, or a display shows the state and
lowers the flag. -/
inductive Occasion (α : Type) where
  | event (e : Tracker.Event α)
  | shown
  deriving DecidableEq, Repr

namespace Occasion

variable {α : Type} [Scalar α]

def apply : Occasion α → Tracker α → Tracker α
  | .event e, t => (e.apply t).state
  | .shown, t => t.mapMachine (·.clearChanged)

/-- The tracker after these occasions. -/
def after (t : Tracker α) (occasions : List (Occasion α)) : Tracker α :=
  occasions.foldl (fun t o => o.apply t) t

end Occasion

namespace Tracker

theorem shows_after_occasions {t : Tracker Float} (h : Shows t.machine.copy t.machine)
    (occasions : List (Occasion Float)) :
    Shows (Occasion.after t occasions).machine.copy (Occasion.after t occasions).machine := by
  induction occasions generalizing t with
  | nil => exact h
  | cons o rest ih =>
    refine ih ?_
    cases o with
    | event e => exact (apply_turns e t).shows h
    | shown => exact ⟨h.position, h.axes, h.feed, h.run, h.modes⟩

/-- Who has listened from the start knows the machine, whatever has happened, also where an event
was stopped half-way.  And who has lowered the flag and finds it down knows that position and run
state are those of that moment. -/
theorem observers_never_stale (simulate : Bool) (occasions : List (Occasion Float)) :
    let t := Occasion.after (fresh simulate) occasions
    Shows t.machine.copy t.machine ∧
      ∀ since : List (Event Float),
        let now := (Occasion.shown.apply t).after since
        now.machine.changed = false →
          now.machine.position = t.machine.position ∧ now.machine.run = t.machine.run := by
  intro t
  have start : Shows (fresh (α := Float) simulate).machine.copy (fresh simulate).machine :=
    Shows.of Machine.fresh
  refine ⟨shows_after_occasions start occasions, ?_⟩
  intro since now down
  have turns := after_turns since (Occasion.shown.apply t)
  exact (turns.quiet down).2

/-- A report was shown; the same report and an acknowledgement leave the flag down. -/
theorem observers_never_stale_same_report :
    let report := Bytes.ofText "<Run|MPos:1.000,-2.500,3.000|FS:0,0>"
    let t := Occasion.after (fresh (α := Float) false) [.event (.receive report)]
    let now := (Occasion.shown.apply t).after [.receive report, .receive (Bytes.ofText "ok")]
    now.machine.changed = false ∧ now.machine.position = t.machine.position ∧
      now.machine.run = t.machine.run := by
  intro report t now
  have down : now.machine.changed = false := by decide +kernel
  exact ⟨down, (observers_never_stale false [.event (.receive report)]).2 _ down⟩

end Tracker

end GcodeSender
