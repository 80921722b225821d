/-
# `GcodeSender.Proofs.Tracker.Malformed` — a line that cannot be read does nothing

Two kinds of command are read for their words, a standard line and a jog; the
text that is read of a jog is what stands behind its mark (`textOf?`).  A text
that cannot be cut into words is refused or, where the cutting meets a fault,
stops the event:

    cut              result      the tracker
    into words       none        has taken them up
    refused          the refusal is counting, and has logged it
    fault            the fault   is counting

All words are cut before the first is taken up.  So a line with a bad word does
nothing, wherever the bad word stands: the line is counted, and that is all
(`OnlyCounted`).  Written words in front of the bad one do not save the line
(`isLegible_behind_words`).
-/
import GcodeSender.Proofs.Gcode.Rendering
import GcodeSender.Proofs.Tracker.Account
import GcodeSender.Proofs.Tracker.Faults

namespace GcodeSender

open Scalar Gcode Text

/-! ## Texts that cannot be cut -/

namespace Gcode

/-- Can a text be cut into words? -/
def isLegible (text : Bytes) : Bool :=
  match parseLine text with
  | .ok (.ok _) => true
  | .ok (.error _) | .error _ => false

/-- A text that cannot be cut, and that the number in front of it does not run into. -/
structure Spoils (bad : List Char) : Prop where
  ends : Ends bad
  plain : ∀ c ∈ bad, c ≠ '(' ∧ c ≠ ';'
  last : ∀ c ∈ bad.getLast?, isBlank c = false
  uncut : ∃ stop, wordsOf bad = .error stop

theorem Spoils.ne_nil {bad : List Char} (h : Spoils bad) : bad ≠ [] := by
  rintro rfl
  obtain ⟨stop, uncut⟩ := h.uncut
  simp [wordsOf, nextLetter?] at uncut

/-- A text is as illegible behind written words as it is by itself. -/
theorem isLegible_behind_words (w : Written) (more : List Written) {bad tail : List Char}
    (spoils : Spoils bad) (blank : ∀ c ∈ tail, isBlank c = true) :
    isLegible (.ofText (.ofList (render (w :: more) ++ (bad ++ tail)))) = false := by
  obtain ⟨stop, uncut⟩ := spoils.uncut
  have uncommented : removeComments (render (w :: more) ++ (bad ++ tail)) =
      render (w :: more) ++ (bad ++ tail) := by
    refine removeComments_render_append _ fun c mem => ?_
    rcases List.mem_append.1 mem with inBad | inTail
    · exact spoils.plain c inBad
    · exact Gcode.uncommented (.inl (blank c inTail))
  have trimmed : trim (render (w :: more) ++ (bad ++ tail)) = render (w.unled :: more) ++ bad := by
    refine trim_render_append w more ?_ blank
    rw [List.getLast?_append_of_ne_nil _ spoils.ne_nil]
    exact spoils.last
  have cut := wordsOf_render_append (w.unled :: more) spoils.ends
  rw [uncut] at cut
  simp only [isLegible, parseLine, Utf8.decode?_ofText, String.toList_ofList, parseText, uncommented,
    trimmed, cut]
  cases stop <;> rfl

end Gcode

namespace Tracker

variable {α : Type} [Scalar α]

/-! ## Commands that are read -/

/-- The text of a command that is read for its words. -/
def textOf? (command : Bytes) : Option Bytes :=
  if isRealtime command then none
  else if isJog command then some (command.drop jogMark.length)
  else if isSystem command then none
  else some command

/-- Is a command read for its words, and cannot be cut into any? -/
def isMalformed (command : Bytes) : Bool := (textOf? command).any (!isLegible ·)

theorem textOf?_cases {command text : Bytes} (h : textOf? command = some text) :
    isRealtime command = false ∧
      (isJog command = true ∧ text = command.drop jogMark.length ∨
        isJog command = false ∧ isSystem command = false ∧ text = command) := by
  unfold textOf? at h
  split at h
  · cases h
  next line =>
    refine ⟨Bool.eq_false_iff.2 line, ?_⟩
    split at h
    next jog => exact .inl ⟨jog, (Option.some.inj h).symm⟩
    next work =>
      split at h
      · cases h
      next standard =>
        exact .inr ⟨Bool.eq_false_iff.2 work, Bool.eq_false_iff.2 standard, (Option.some.inj h).symm⟩

theorem textOf?_jog (text : Bytes) : textOf? (jogMark ++ text) = some text := by
  have line : isRealtime (jogMark ++ text) = false := by simp [isRealtime, jogMark]
  have jog : isJog (jogMark ++ text) = true := by simp [isJog, jogMark, Bytes.startsWith]
  rw [textOf?, line, jog, if_neg (by decide), if_pos rfl, List.drop_left]

/-- A text that begins neither with the mark of a system line nor as a query is a standard line. -/
theorem textOf?_standard {c : Char} (rest : List Char) (noMark : c ≠ '$') (noQuery : c ≠ '?') :
    textOf? (.ofText (.ofList (c :: rest))) = some (.ofText (.ofList (c :: rest))) := by
  have read := Utf8.decode?_ofText (.ofList (c :: rest))
  rw [String.toList_ofList] at read
  generalize text : Bytes.ofText (.ofList (c :: rest)) = command at read ⊢
  have line : isRealtime command = false := by
    refine Bool.eq_false_iff.2 fun single => ?_
    simp only [isRealtime, Bool.or_eq_true, decide_eq_true_eq] at single
    rcases single with rfl | rfl
    · exact noQuery (Utf8.eq_of_ofText_eq_cons (by decide) text)
    · have broken : Utf8.decode? [jogCancel] = none := by
        simp [Utf8.decode?, Utf8.pieces, Utf8.pieceAt, Utf8.lead?, jogCancel]
      rw [broken] at read
      cases read
  have standard : isSystem command = false := by
    refine Bool.eq_false_iff.2 fun system => ?_
    obtain ⟨more, rfl⟩ := List.isPrefixOf_iff_prefix.1 system
    exact noMark (Utf8.eq_of_ofText_eq_cons (by decide) text)
  have work : isJog command = false := by
    refine Bool.eq_false_iff.2 fun jog => ?_
    rw [isSystem_of_isJog jog] at standard
    cases standard
  rw [textOf?, line, work, standard]
  rfl

/-- Written words begin with a blank or with a letter, so with neither of these. -/
theorem textOf?_behind_words (w : Written) (more : List Written) (rest : List Char) :
    textOf? (.ofText (.ofList (render (w :: more) ++ rest))) =
      some (.ofText (.ofList (render (w :: more) ++ rest))) := by
  rw [render, List.flatMap_cons, List.append_assoc, List.append_assoc]
  cases gap : w.gap with
  | nil =>
    have letter := w.initial_spec.1
    have other : ∀ c, isWordLetter c = false → w.initial ≠ c := by
      rintro c none rfl
      rw [none] at letter
      cases letter
    exact textOf?_standard _ (other '$' (by decide)) (other '?' (by decide))
  | cons c behind =>
    have blank : isBlank c = true := w.isBlank_of_mem_gap (gap ▸ List.mem_cons_self)
    have other : ∀ c', isBlank c' = false → c ≠ c' := by
      rintro _ none rfl
      rw [none] at blank
      cases blank
    exact textOf?_standard _ (other '$' (by decide)) (other '?' (by decide))

/-! ## Counting a line -/

/-- The tracker with one more line pending. -/
def counting (command : Bytes) (t : Tracker α) : Tracker α :=
  { t with
    ledger := { t.ledger with
      pending := t.ledger.pending ++ [command.length]
      total := t.ledger.total + command.length } }

/-- The command was counted, with its length in bytes behind the others.  The modes, the feed, the
position and the run state, the motions waiting and in flight, and the updates are as before; at most
one more entry was logged. -/
structure OnlyCounted (command : Bytes) (t t' : Tracker α) : Prop where
  ledger : t'.ledger =
    { t.ledger with
      pending := t.ledger.pending ++ [command.length]
      total := t.ledger.total + command.length }
  rest : { t' with ledger := t.ledger }.mapMachine ({ · with journal := t.machine.journal }) = t
  updates : t'.machine.journal.updates = t.machine.journal.updates
  logged : t'.machine.journal = t.machine.journal ∨
    ∃ entry, t'.machine.journal = t.machine.journal.note (.log entry)

omit [Scalar α] in
theorem onlyCounted_counting (command : Bytes) (t : Tracker α) :
    OnlyCounted command t (t.counting command) :=
  ⟨rfl, rfl, rfl, .inl rfl⟩

omit [Scalar α] in
theorem onlyCounted_logText (command : Bytes) (t : Tracker α) (level : Level) (s : String) :
    OnlyCounted command t ((t.counting command).logText level s) where
  ledger := rfl
  rest := rfl
  updates := by
    show (t.machine.journal.note _).updates = _
    simp [Journal.updates]
  logged := .inr ⟨_, rfl⟩

section Register
variable {command text : Bytes} (reads : textOf? command = some text) (now : α) (t : Tracker α)
include reads

omit [Scalar α] in
theorem send_eq_counting : { t with ledger := t.ledger.send command } = t.counting command := by
  rw [counting, Ledger.send_line (textOf?_cases reads).1]

/-- A refused line is counted and its refusal is logged. -/
theorem register_refused {refusal : LineError} (refused : parseLine text = .ok (.error refusal)) :
    ∃ what : String, register now command t =
      .done ((t.counting command).logText .error (what ++ refusal.message)) (some refusal) := by
  rw [← send_eq_counting reads t]
  obtain ⟨line, ⟨jog, rfl⟩ | ⟨-, standard, rfl⟩⟩ := textOf?_cases reads
  · have system := isSystem_of_isJog jog
    exact ⟨"Invalid jog command " ++ command.literal ++ ": ",
      by simp only [register, system, jog, if_true, registerJog, refused]⟩
  · exact ⟨"Command " ++ text.literal ++ " not registered: ",
      by simp only [register, standard, line, Bool.false_eq_true, if_false, registerStandard, refused]⟩

/-- A line that meets a fault is counted. -/
theorem register_faulted {fault : Fault} (faulted : parseLine text = .error fault) :
    register now command t = .stopped (t.counting command) fault := by
  rw [← send_eq_counting reads t]
  refine register_unreadable ?_ now t
  obtain ⟨line, ⟨jog, rfl⟩ | ⟨work, standard, rfl⟩⟩ := textOf?_cases reads
  · exact ⟨line, by rwa [if_pos jog]⟩
  · exact ⟨line, by rw [if_neg (Bool.eq_false_iff.1 work)]; exact ⟨standard, faulted⟩⟩

/-- One that cannot be cut is refused or meets a fault. -/
theorem register_illegible (illegible : isLegible text = false) :
    OnlyCounted command t (register now command t).state ∧
      ((∃ refusal, (register now command t).result = .ok (some refusal)) ∨
        ∃ fault, (register now command t).result = .error fault) := by
  cases read : parseLine text with
  | error fault =>
    rw [register_faulted reads now t read]
    exact ⟨onlyCounted_counting command t, .inr ⟨fault, rfl⟩⟩
  | ok answer =>
    cases answer with
    | error refusal =>
      obtain ⟨what, done⟩ := register_refused reads now t read
      rw [done]
      exact ⟨onlyCounted_logText command t _ _, .inl ⟨refusal, rfl⟩⟩
    | ok words =>
      rw [isLegible, read] at illegible
      cases illegible

end Register

/-- A command that cannot be cut into words is refused or meets a fault, and in both cases is only
counted.  A text that cannot be cut makes such a command of the line or the jog in which it stands,
behind however many written words. -/
theorem malformed_only_counted (t : Tracker α) (now : α) :
    (∀ command, isMalformed command = true →
      OnlyCounted command t (register now command t).state ∧
        ((∃ refusal, (register now command t).result = .ok (some refusal)) ∨
          ∃ fault, (register now command t).result = .error fault)) ∧
    ∀ (w : Written) (more : List Written) (bad tail : List Char), Spoils bad →
      (∀ c ∈ tail, isBlank c = true) →
      let text := Bytes.ofText (.ofList (render (w :: more) ++ (bad ++ tail)))
      isMalformed text = true ∧ isMalformed (jogMark ++ text) = true := by
  constructor
  · intro command malformed
    obtain ⟨text, reads, illegible⟩ := (Option.any_eq_true _ _).1 malformed
    exact register_illegible reads now t (by simpa using illegible)
  · intro w more bad tail spoils blank text
    have illegible : isLegible text = false := isLegible_behind_words w more spoils blank
    have standard : textOf? text = some text := textOf?_behind_words w more (bad ++ tail)
    rw [isMalformed, isMalformed, standard, textOf?_jog, Option.any_some, illegible]
    exact ⟨rfl, rfl⟩

/-- With a motion in flight and another one waiting: a refused line, a refused jog, and a line that
meets a fault, each behind words that would select a mode or set a feed; and a word that is none
behind two that are written together. -/
theorem malformed_only_counted_in_flight :
    let t : Tracker Float := (fresh true).after
      [.register 0 (Bytes.ofText "G1 X10 F600\n"), .register 0 (Bytes.ofText "G1 X20\n")]
    let refused := Bytes.ofText "G90 G20 F1 X3 Ynope\n"
    let jog := Bytes.ofText "$J=G91 X1 Fbad\n"
    let faulted := Bytes.ofText "G20 F1 N" ++ List.replicate 309 0x39 ++ Bytes.ofText "\n"
    t.inMotion = true ∧ t.queue.length = 1 ∧
      (∀ line ∈ [refused, jog, faulted],
        isMalformed line = true ∧ OnlyCounted line t (register 0.1 line t).state) ∧
      isMalformed (jogMark ++ Bytes.ofText "g20X3 Ynope\n") = true := by
  intro t refused jog faulted
  obtain ⟨onlyCounted, behind⟩ := malformed_only_counted t 0.1
  have malformed : ∀ line ∈ [refused, jog, faulted], isMalformed line = true := by decide +kernel
  let g20 : Written :=
    { gap := [], letter := .g, lower := true, blanks := [],
      number := ⟨false, ['2', '0'], none, by decide, by decide⟩,
      followed := by decide, blank := by decide, fits := ⟨rfl, by decide, by simp⟩ }
  let x3 : Written :=
    { gap := [], letter := .x, lower := false, blanks := [],
      number := ⟨false, ['3'], none, by decide, by decide⟩,
      followed := by decide, blank := by decide, fits := trivial }
  have spoils : Spoils [' ', 'Y', 'n', 'o', 'p', 'e'] :=
    { ends := .cons (by decide) (by decide) _
      plain := by simp
      last := fun c mem => by
        obtain rfl : 'e' = c := by simpa using mem
        decide
      uncut := ⟨.refused (.badNumber 'Y'), by decide +kernel⟩ }
  have text : String.ofList (render [g20, x3] ++ ([' ', 'Y', 'n', 'o', 'p', 'e'] ++ ['\n'])) =
      "g20X3 Ynope\n" := by decide +kernel
  exact ⟨by decide +kernel, by decide +kernel,
    fun line mem => ⟨malformed line mem, (onlyCounted line (malformed line mem)).1⟩,
    text ▸ (behind g20 [x3] _ ['\n'] spoils (List.all_eq_true.1 rfl)).2⟩

end Tracker

end GcodeSender
