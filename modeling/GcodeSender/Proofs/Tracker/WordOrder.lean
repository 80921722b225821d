/-
# `GcodeSender.Proofs.Tracker.WordOrder` — the order of the words on a line does not matter

The words of a line are gone through three times, each time from left to right:

    applyWords      a standard line    selects modes and sets the feed, for good
    jogSettings     a jog              the same, for that jog only
    Move.ofWords    a line that moves  collects the target, the radius and the centre

Two words are independent if they do not get in each other's way (`Word.Independent`):
whichever of them comes first, each of the three makes the same of both.  So it
makes the same of all orders of a line whose words are independent
(`foldl_eq_of_perm`).

A line that moves is queued only after all its words were taken up.  So a G or an
F word counts for the axis words in front of it, too, whether the motion starts
now or has to wait.  Written in another order, the line leaves the tracker as it
does in this one, but for the line itself, where it waits, and its name in the
journal; and that makes no difference to whatever happens later
(`Tracker.Alike`).
-/
import GcodeSender.Proofs.Tracker.Books
import GcodeSender.Proofs.Tracker.Likeness
import GcodeSender.Proofs.Tracker.Malformed
import GcodeSender.Proofs.Tracker.Prevailing

namespace GcodeSender

open Scalar Gcode

/-! ## Independent words -/

namespace Gcode

variable {α : Type} [Scalar α]

/-- What a word says: its letter, the character it was written with, and its number. -/
def Word.sense (α : Type) [Scalar α] (w : Word) : Letter × Char × α :=
  (w.letter, w.raw, ofNumeral w.value)

theorem Word.of_sense {w v : Word} (same : w.sense α = v.sense α) :
    w.letter = v.letter ∧ (ofNumeral w.value : α) = ofNumeral v.value := by
  injection same with letter rest
  injection rest with _ value
  exact ⟨letter, value⟩

/-- Two words that do not get in each other's way: they have different letters, unless nothing is done
with their letter or it is G; and of two G words not both select a mode of one group. -/
structure Word.Independent (α : Type) [Scalar α] (w v : Word) : Prop where
  letters : w.letter = v.letter → w.letter = .g ∨ w.letter = .other
  groups : ∀ mode ∈ w.mode? α, ∀ mode' ∈ v.mode? α, mode.group ≠ mode'.group

instance (w v : Word) : Decidable (w.Independent α v) :=
  decidable_of_iff
    ((w.letter = v.letter → w.letter = .g ∨ w.letter = .other) ∧
      ∀ mode ∈ w.mode? α, ∀ mode' ∈ v.mode? α, mode.group ≠ mode'.group)
    ⟨fun h => ⟨h.1, h.2⟩, fun h => ⟨h.1, h.2⟩⟩

/-- What goes by the senses of the words, and makes the same of independent words in either order,
makes the same of all orders of a line. -/
theorem foldl_eq_of_perm {β : Type} {take : β → Word → β}
    (sees : ∀ {w v : Word}, w.sense α = v.sense α → ∀ b, take b w = take b v)
    (commutes : ∀ {w v : Word}, w.Independent α v → ∀ b, take (take b w) v = take (take b v) w)
    {words words' : List Word} (perm : (words'.map (Word.sense α)).Perm (words.map (Word.sense α)))
    (apart : words.Pairwise (Word.Independent α)) (b : β) :
    words'.foldl take b = words.foldl take b := by
  -- the same by the senses alone, so that the two lines are orders of one list
  have factors : Function.FactorsThrough (fun w b => take b w) (Word.sense α) :=
    fun _ _ same => funext (sees same)
  let takeSense (b : β) (s : Letter × Char × α) : β :=
    Function.extend (Word.sense α) (fun w b => take b w) (fun _ b => b) s b
  have spelled : ∀ b w, takeSense b (w.sense α) = take b w := fun b w =>
    congrFun (factors.extend_apply _ w) b
  have folded : ∀ words : List Word,
      words.foldl take b = (words.map (Word.sense α)).foldl takeSense b := by
    intro words
    simp only [List.foldl_map, spelled]
  let Commute (w v : Word) : Prop := ∀ b, take (take b w) v = take (take b v) w
  have symmetric : Std.Symm Commute := ⟨fun _ _ h b => (h b).symm⟩
  have inEither : ∀ ⦃w⦄, w ∈ words → ∀ ⦃v⦄, v ∈ words → Commute w v :=
    (apart.imp (S := Commute) commutes).forall_of_forall fun _ _ _ => rfl
  rw [folded, folded]
  refine (perm.symm.foldl_eq' (fun s here s' there b => ?_) b).symm
  obtain ⟨w, mem, rfl⟩ := List.mem_map.1 here
  obtain ⟨v, mem', rfl⟩ := List.mem_map.1 there
  simp only [spelled]
  exact inEither mem mem' b

/-! ## Three ways to take up words -/

/-- Modes of different groups are selected in either order. -/
theorem Modes.set_comm {mode mode' : Mode} (differ : mode.group ≠ mode'.group) (m : Modes) :
    (m.set mode).set mode' = (m.set mode').set mode := by
  cases mode <;> cases mode' <;> first | rfl | exact absurd rfl differ

/-- A code selects a mode or does not, whatever the modes are. -/
theorem Modes.apply_eq (m : Modes) (code : α) (groups : List ModeGroup) :
    m.apply code groups =
      (((modeOf? code).filter (groups.contains ·.group)).elim m m.set,
        ((modeOf? code).filter (groups.contains ·.group)).isSome) := by
  rw [Modes.apply]
  cases modeOf? code with
  | none => rfl
  | some mode =>
    dsimp only
    split
    next among =>
      rw [Option.filter_some, if_pos among]
      rfl
    next unchanged =>
      rw [Option.filter_some, if_neg unchanged]
      rfl

theorem Modes.apply_comm {code code' : α} (groups : List ModeGroup)
    (differ : ∀ mode ∈ modeOf? code, ∀ mode' ∈ modeOf? code', mode.group ≠ mode'.group) (m : Modes) :
    ((m.apply code groups).1.apply code' groups).1 =
      ((m.apply code' groups).1.apply code groups).1 := by
  simp only [Modes.apply_eq]
  cases selected : (modeOf? code).filter (groups.contains ·.group) with
  | none => rfl
  | some mode =>
    cases selected' : (modeOf? code').filter (groups.contains ·.group) with
    | none => rfl
    | some mode' =>
      exact Modes.set_comm
        (differ _ (Option.mem_filter_iff.1 selected).1 _ (Option.mem_filter_iff.1 selected').1) m

/-- Independent words give their modes in different groups. -/
theorem Word.Independent.differ {w v : Word} (h : w.Independent α v) (letter : w.letter = .g)
    (letter' : v.letter = .g) :
    ∀ mode ∈ modeOf? (ofNumeral w.value : α), ∀ mode' ∈ modeOf? (ofNumeral v.value : α),
      mode.group ≠ mode'.group := by
  have groups := h.groups
  rwa [Word.mode?, Word.mode?, if_pos letter, if_pos letter'] at groups

/-- The words of a move are collected in any order. -/
theorem Move.add_comm {w v : Word} (h : w.Independent α v) (m : Move α) :
    (m.add w).add v = (m.add v).add w := by
  have letters := h.letters
  unfold Move.add
  generalize w.letter = letter at letters ⊢
  generalize v.letter = letter' at letters ⊢
  -- of two words with one letter nothing is collected, and words with two letters go to two places
  cases letter <;> cases letter' <;> first | rfl | simp at letters

end Gcode

variable {α : Type} [Scalar α]

namespace Machine

/-- The modes and the feed are apart from each other. -/
theorem setFeed_applyCode (m : Machine α) (code feed : α) :
    (m.applyCode code).1.setFeed feed = ((m.setFeed feed).applyCode code).1 ∧
      ((m.setFeed feed).applyCode code).2 = (m.applyCode code).2 := by
  have rate : (m.applyCode code).1.feedRate = m.feedRate := rfl
  rw [setFeed, setFeed, rate]
  split <;> exact ⟨rfl, rfl⟩

/-- Codes for different groups are applied in either order. -/
theorem applyCode_comm {code code' : α}
    (differ : ∀ mode ∈ modeOf? code, ∀ mode' ∈ modeOf? code', mode.group ≠ mode'.group)
    (m : Machine α) :
    ((m.applyCode code).1.applyCode code').1 = ((m.applyCode code').1.applyCode code).1 := by
  simp only [applyCode, Modes.apply_comm ModeGroup.all differ]

/-- Whether a code selects a mode depends on the code alone. -/
theorem applyCode_selects (m m' : Machine α) (code : α) :
    (m.applyCode code).2 = (m'.applyCode code).2 := by
  simp only [applyCode, Modes.apply_eq]

end Machine

namespace Tracker

/-- One word of a standard line is taken up. -/
def takeWord : Machine α × Bool → Word → Machine α × Bool
  | (m, selected), w =>
    match w.letter with
    | .g => ((m.applyCode (ofNumeral w.value)).1, selected || (m.applyCode (ofNumeral w.value)).2)
    | .f => (m.setFeed (ofNumeral w.value), selected)
    | _ => (m, selected)

theorem applyWords_eq (words : List Word) (m : Machine α) :
    applyWords words m = words.foldl takeWord (m, false) := rfl

/-- One word of a jog is taken up. -/
def takeJogWord : Modes × α → Word → Modes × α
  | (modes, feed), w =>
    match w.letter with
    | .g => ((modes.apply (ofNumeral w.value : α) ModeGroup.jog).1, feed)
    | .f => (modes, ofNumeral w.value)
    | _ => (modes, feed)

theorem jogSettings_eq (words : List Word) (modes : Modes) (feed : α) :
    jogSettings words modes feed = words.foldl takeJogWord (modes, feed) := rfl

section Words
variable {w v : Word}

theorem takeWord_comm (h : w.Independent α v) (b : Machine α × Bool) :
    takeWord (takeWord b w) v = takeWord (takeWord b v) w := by
  obtain ⟨m, selected⟩ := b
  cases letter : w.letter with
  | g =>
    cases letter' : v.letter with
    | g =>
      have order := Machine.applyCode_comm (h.differ letter letter') m
      simp only [takeWord, letter, letter', order,
        Machine.applyCode_selects (m.applyCode _).1 m, Bool.or_right_comm]
    | f =>
      obtain ⟨order, selects⟩ := m.setFeed_applyCode (ofNumeral w.value) (ofNumeral v.value)
      simp only [takeWord, letter, letter', order, selects]
    | x | y | z | r | i | j | other => simp only [takeWord, letter, letter']
  | f =>
    cases letter' : v.letter with
    | g =>
      obtain ⟨order, selects⟩ := m.setFeed_applyCode (ofNumeral v.value) (ofNumeral w.value)
      simp only [takeWord, letter, letter', order, selects]
    | f => simpa [letter, letter'] using h.letters
    | x | y | z | r | i | j | other => simp only [takeWord, letter, letter']
  | x | y | z | r | i | j | other => simp only [takeWord, letter]

theorem takeJogWord_comm (h : w.Independent α v) (b : Modes × α) :
    takeJogWord (takeJogWord b w) v = takeJogWord (takeJogWord b v) w := by
  obtain ⟨modes, feed⟩ := b
  cases letter : w.letter with
  | g =>
    cases letter' : v.letter with
    | g =>
      have order := Modes.apply_comm ModeGroup.jog (h.differ letter letter') modes
      simp only [takeJogWord, letter, letter', order]
    | x | y | z | f | r | i | j | other => simp only [takeJogWord, letter, letter']
  | f =>
    cases letter' : v.letter with
    | f => simpa [letter, letter'] using h.letters
    | g | x | y | z | r | i | j | other => simp only [takeJogWord, letter, letter']
  | x | y | z | r | i | j | other => simp only [takeJogWord, letter]

end Words

/-! ## Lines in another order -/

section Orders
variable {words words' : List Word}
  (perm : (words'.map (Word.sense α)).Perm (words.map (Word.sense α)))
  (apart : words.Pairwise (Word.Independent α))
include perm

theorem hasAxisWords_of_perm : hasAxisWords words' = hasAxisWords words := by
  have senses : ∀ words : List Word,
      hasAxisWords words = (words.map (Word.sense α)).any (·.1.isAxis) := by
    intro words
    rw [hasAxisWords, List.any_map]
    rfl
  rw [senses, senses, perm.any_eq]

include apart

theorem ofWords_of_perm : (Move.ofWords words' : Move α) = Move.ofWords words := by
  refine foldl_eq_of_perm (fun same m => ?_) (fun h m => Move.add_comm h m) perm apart _
  obtain ⟨letter, value⟩ := Word.of_sense same
  rw [Move.add, Move.add, letter, value]

theorem applyWords_of_perm (m : Machine α) : applyWords words' m = applyWords words m := by
  rw [applyWords_eq, applyWords_eq]
  refine foldl_eq_of_perm (fun same b => ?_) (fun h b => takeWord_comm h b) perm apart _
  obtain ⟨letter, value⟩ := Word.of_sense same
  rw [takeWord, takeWord, letter, value]

theorem jogSettings_of_perm (modes : Modes) (feed : α) :
    jogSettings words' modes feed = jogSettings words modes feed := by
  rw [jogSettings_eq, jogSettings_eq]
  refine foldl_eq_of_perm (fun same b => ?_) (fun h b => takeJogWord_comm h b) perm apart _
  obtain ⟨letter, value⟩ := Word.of_sense same
  rw [takeJogWord, takeJogWord, letter, value]

end Orders

/-- The words of a line or of a jog that could be read. -/
def wordsOf? (command : Bytes) : Option (List Word) :=
  (textOf? command).bind fun text =>
    match parseLine text with
    | .ok (.ok words) => some words
    | .ok (.error _) | .error _ => none

theorem wordsOf?_eq_some {command : Bytes} {words : List Word} (h : wordsOf? command = some words) :
    ∃ text, textOf? command = some text ∧ parseLine text = .ok (.ok words) := by
  obtain ⟨text, reads, cut⟩ := Option.bind_eq_some_iff.1 h
  refine ⟨text, reads, ?_⟩
  split at cut
  next words' read =>
    obtain rfl := Option.some.inj cut
    exact read
  · cases cut
  · cases cut

/-- A command that could be read is counted, and is then a jog or a standard line. -/
theorem register_readable {command : Bytes} {words : List Word} (h : wordsOf? command = some words)
    (now : α) (t : Tracker α) :
    (isJog command = true ∧ parseLine (command.drop jogMark.length) = .ok (.ok words) ∧
        register now command t = registerJog now command (t.counting command)) ∨
      (isJog command = false ∧ parseLine command = .ok (.ok words) ∧
        register now command t = registerStandard now command (t.counting command)) := by
  obtain ⟨text, reads, cut⟩ := wordsOf?_eq_some h
  rw [← send_eq_counting reads t]
  obtain ⟨line, ⟨jog, rfl⟩ | ⟨work, standard, rfl⟩⟩ := textOf?_cases reads
  · exact .inl ⟨jog, cut, by simp only [register, isSystem_of_isJog jog, jog, if_true]⟩
  · refine .inr ⟨work, cut, ?_⟩
    simp only [register, standard, line, Bool.false_eq_true, if_false]

/-- `command'` has the words of `command` in another order, and the words are independent.  Both are
jogs or neither, and they are equally long; blanks and comments, and how the numbers are spelled, may
differ. -/
structure Reordered (α : Type) [Scalar α] (command command' : Bytes) (words words' : List Word) :
    Prop where
  cut : wordsOf? command = some words
  cut' : wordsOf? command' = some words'
  isJog : isJog command' = isJog command
  length : command'.length = command.length
  perm : (words'.map (Word.sense α)).Perm (words.map (Word.sense α))
  apart : words.Pairwise (Word.Independent α)

section Reordered
variable {command command' : Bytes} {words words' : List Word}
  (h : Reordered α command command' words words')
include h

theorem Reordered.twin (modes : Modes) (feed : α) :
    Twin ⟨command, words, modes, feed⟩ ⟨command', words', modes, feed⟩ :=
  ⟨h.isJog, ofWords_of_perm h.perm h.apart, rfl, rfl⟩

theorem takeUp_reordered (m : Machine α) : takeUp words' m = takeUp words m := by
  rw [takeUp, takeUp, applyWords_of_perm h.perm h.apart]

/-- Registering either of the two comes to the same, but for the line that is queued. -/
theorem register_reordered (now : α) (t : Tracker α) :
    ∃ (modes : Modes) (feed : α),
      Step.Alike (Alike ⟨command, words, modes, feed⟩ ⟨command', words', modes, feed⟩)
        (register now command t) (register now command' t) := by
  have counted : t.counting command' = t.counting command := by rw [counting, counting, h.length]
  obtain ⟨jog, cut, registered⟩ | ⟨work, cut, registered⟩ := register_readable h.cut now t
  · obtain ⟨-, cut', registered'⟩ | ⟨work, -⟩ := register_readable h.cut' now t
    · rw [registered, registered', registerJog_words cut, registerJog_words cut', counted,
        jogSettings_of_perm h.perm h.apart]
      obtain ⟨modes, feed⟩ :=
        jogSettings words (t.counting command).machine.modes (t.counting command).machine.feedRate
      refine ⟨modes, feed, ?_⟩
      dsimp only
      split
      · exact (Alike.enqueue_twin (h.twin _ _) _ now).mapResult _
      · exact .done (.refl _ _ _) none
    · rw [h.isJog, jog] at work
      cases work
  · obtain ⟨jog, -⟩ | ⟨-, cut', registered'⟩ := register_readable h.cut' now t
    · rw [h.isJog, work] at jog
      cases jog
    · rw [registered, registered', registerStandard_words cut, registerStandard_words cut', counted,
        hasAxisWords_of_perm h.perm]
      refine ⟨(takeUp words t.machine).modes, (takeUp words t.machine).feedRate, ?_⟩
      dsimp only [mapMachine]
      rw [takeUp_reordered h]
      split
      · exact (Alike.enqueue_twin (h.twin _ _) _ now).mapResult _
      · exact .done (.refl _ _ _) none

end Reordered

/-- Trackers that are alike stay so over any number of entries. -/
theorem Alike.keep {n n' : QueuedMotion α} (twin : Twin n n') (entries : List (Entry α))
    {t t' : Tracker α} (h : Alike n n' t t') : Alike n n' (t.keep entries) (t'.keep entries) := by
  induction entries generalizing t t' with
  | nil => exact h
  | cons entry rest ih =>
    refine ih ?_
    cases entry with
    | event e => exact (h.apply twin e).state
    | clear =>
      show Alike n n' t.clearLedger t'.clearLedger
      rw [clearLedger, clearLedger, h.ledger]
      exact h.withLedger _

/-- The order of the words on a line does not matter, if they are independent.  Registered in either
order, the line is answered the same, and leaves the same modes and feed, ledger and counts,
position and run state, and motions in flight; and the same lines wait, but for the new one, which
waits with the words in its own order and with the modes and the feed of the other.  All this stays
so, and whatever happens later comes out the same. -/
theorem word_order_immaterial {command command' : Bytes} {words words' : List Word}
    (h : Reordered α command command' words words') (now : α) (t : Tracker α) :
    ∃ (modes : Modes) (feed : α),
      let entry : QueuedMotion α := ⟨command, words, modes, feed⟩
      let entry' : QueuedMotion α := ⟨command', words', modes, feed⟩
      let s := (register now command t).state
      let s' := (register now command' t).state
      (register now command' t).result = (register now command t).result ∧
        ∀ later : List (Entry α), Alike entry entry' (s.keep later) (s'.keep later) ∧
          ∀ e : Event α, (e.apply (s'.keep later)).result = (e.apply (s.keep later)).result := by
  obtain ⟨modes, feed, registered⟩ := register_reordered h now t
  have twin := h.twin modes feed
  refine ⟨modes, feed, registered.result, fun later => ?_⟩
  have kept := registered.state.keep twin later
  exact ⟨kept, fun e => (kept.apply twin e).result⟩

/-- With a motion in flight: a line whose codes stand behind its axis words, and one with the codes in
front, where two numbers are spelled differently; and the same as jogs. -/
theorem word_order_immaterial_codes_last :
    let axesFirst := Bytes.ofText "X1 Y2.0 F100 G91 G1\n"
    let codesFirst := Bytes.ofText "G01 G91 F100 Y2. X1\n"
    let words : List Word :=
      [⟨.x, 'X', .decimal false 1 0⟩, ⟨.y, 'Y', .decimal false 20 (-1)⟩,
        ⟨.f, 'F', .decimal false 100 0⟩, ⟨.g, 'G', .decimal false 91 0⟩,
        ⟨.g, 'G', .decimal false 1 0⟩]
    let words' : List Word :=
      [⟨.g, 'G', .decimal false 1 0⟩, ⟨.g, 'G', .decimal false 91 0⟩,
        ⟨.f, 'F', .decimal false 100 0⟩, ⟨.y, 'Y', .decimal false 2 0⟩,
        ⟨.x, 'X', .decimal false 1 0⟩]
    let t : Tracker Float := (fresh true).after [.register 0 (Bytes.ofText "G0 G1 X8 F60\n")]
    t.inMotion = true ∧
      ∀ mark ∈ [[], jogMark],
        Reordered Float (mark ++ axesFirst) (mark ++ codesFirst) words words' ∧
        ∃ (modes : Modes) (feed : Float),
          Alike ⟨mark ++ axesFirst, words, modes, feed⟩ ⟨mark ++ codesFirst, words', modes, feed⟩
            (register 0 (mark ++ axesFirst) t).state (register 0 (mark ++ codesFirst) t).state := by
  intro axesFirst codesFirst words words' t
  refine ⟨by decide +kernel, fun mark mem => ?_⟩
  have reordered : Reordered Float (mark ++ axesFirst) (mark ++ codesFirst) words words' := by
    simp only [List.mem_cons, List.not_mem_nil, or_false] at mem
    rcases mem with rfl | rfl
    all_goals
      exact ⟨by decide +kernel, by decide +kernel, by decide +kernel, by decide +kernel,
        by decide +kernel, by decide +kernel⟩
  obtain ⟨modes, feed, -, kept⟩ := word_order_immaterial reordered 0 t
  exact ⟨reordered, modes, feed, (kept []).1⟩

end Tracker

end GcodeSender
