/-
# `GcodeSender.Proofs.Gcode.Jogging` — when a jog is taken for the jog that was asked

A jog command is written from numbers and read, when it is registered, as a
line of G-code.  The two agree exactly where every amount is legible
(`taken_iff_legible`): then the line is cut into its words without a refusal,
and the motion that they describe has the given axes and no others, each at
exactly the given number, in the given distance mode and at exactly the given
feed.

| an amount | is read as |
| :-- | :-- |
| legible | its word, at its number |
| a whole number that no machine number is | its word, at the nearest machine number |
| real, below 10⁻⁴ | its word at a number of one or more, and an E word that nothing heeds |
| real, from 10¹⁶ | nothing: the line is refused at the E |
| infinite, or no number | nothing: the line is refused at its own letter |

The words that nothing heeds are left out of the account by `heeded`: they
change neither the modes, nor the feed, nor the move.
-/
import GcodeSender.Proofs.Gcode.Amount
import GcodeSender.Tracker

namespace GcodeSender

open Text Decimal.Binary64

namespace Gcode

/-! ## Words that count -/

/-- The words that the machine state follows. -/
def heeded (ws : List Word) : List Word := ws.filter (·.letter ≠ .other)

theorem heeded_append (ws ws' : List Word) : heeded (ws ++ ws') = heeded ws ++ heeded ws' :=
  List.filter_append ..

theorem heeded_singleton {letter : Letter} (counts : letter ≠ .other) (raw : Char) (n : Numeral) :
    heeded [⟨letter, raw, n⟩] = [⟨letter, raw, n⟩] := by
  simp [heeded, counts]

/-- A fold that passes over a kind of words is the fold over the others. -/
theorem foldl_heeded {β : Type} {f : β → Word → β}
    (passes : ∀ b w, w.letter = .other → f b w = b) (b : β) (ws : List Word) :
    (heeded ws).foldl f b = ws.foldl f b := by
  rw [heeded, List.foldl_filter]
  congr 1
  funext b w
  by_cases other : w.letter = .other
  · rw [if_neg (by simp [other]), passes b w other]
  · rw [if_pos (by simp [other])]

theorem ofWords_heeded (ws : List Word) :
    (Move.ofWords (heeded ws) : Move Float) = Move.ofWords ws :=
  foldl_heeded (fun m w other => by rw [Move.add, other]) _ ws

theorem jogSettings_heeded (ws : List Word) (modes : Modes) (feed : Float) :
    Tracker.jogSettings (heeded ws) modes feed = Tracker.jogSettings ws modes feed :=
  foldl_heeded (fun s w other => by simp only [other]) _ ws

/-! ## Amounts behind a letter -/

/-- Does a number with sign and point stand behind the letter? -/
def Letter.IsDecimal (letter : Letter) : Prop := letter ≠ .other ∧ letter.form = .decimal

theorem Letter.IsDecimal.spec {letter : Letter} (h : letter.IsDecimal) :
    isWordLetter letter.capital = true ∧ upper letter.capital = letter.capital ∧
      formOf? (upper letter.capital) = some .decimal ∧ Letter.ofUpper letter.capital = letter := by
  obtain ⟨counts, decimal⟩ := h
  cases letter with
  | other => exact absurd rfl counts
  | g => cases decimal
  | _ => decide

/-- Behind a letter that asks for a number with sign and point, nothing else is taken. -/
theorem wordsOf_no_number {c : Char} (letter : isWordLetter c = true)
    (asks : formOf? (upper c) = some .decimal) (gap rest : List Char) (negative : Bool)
    (passed : ∀ d ∈ gap, isWordLetter d = false ∧ d ≠ '\n') (ends : Ends rest)
    (first : ∀ d ∈ rest.head?, isBlank d = false ∧ d ≠ '-') (nonempty : rest ≠ []) :
    ∃ stop, wordsOf (gap ++ c :: ((if negative then ['-'] else []) ++ rest)) = .error stop := by
  suffices refused : readNumber (upper c) .decimal ((if negative then ['-'] else []) ++ rest)
      = .refused (.badNumber (upper c)) from ⟨_, wordsOf_refused letter asks passed refused⟩
  have none := magnitudeAt?_of_ends ends
  obtain ⟨d, more, rfl⟩ := List.exists_cons_of_ne_nil nonempty
  obtain ⟨noBlank, noMinus⟩ := first d rfl
  cases negative with
  | true =>
    have stays : ('-' :: d :: more).dropWhile isBlank = '-' :: d :: more :=
      List.dropWhile_cons_of_neg (by decide)
    simp [readNumber, stays, none true]
  | false =>
    have stays : (d :: more).dropWhile isBlank = d :: more :=
      List.dropWhile_cons_of_neg (by simp [noBlank])
    simp [readNumber, stays, none false, noMinus]

namespace Jog

theorem passed_space : ∀ d ∈ [' '], isWordLetter d = false ∧ d ≠ '\n' := fun d mem => by
  obtain rfl := List.mem_singleton.1 mem
  exact ⟨isWordLetter_of_isBlank rfl, by decide⟩

/-- A number that is spelled behind its letter is a word. -/
theorem wordsOf_decimal (n : Spelling) {letter : Letter} (h : letter.IsDecimal) {rest : List Char}
    (ends : Ends rest) :
    wordsOf (' ' :: letter.capital :: (n.text ++ rest))
      = (wordsOf rest).map (⟨letter, letter.capital, n.value⟩ :: ·) := by
  obtain ⟨isLetter, raised, asks, kind⟩ := h.spec
  have taken := @wordsOf_append n letter.capital .decimal isLetter asks trivial [' '] [] rest
    passed_space (by simp) ends
  simpa only [raised, kind, List.singleton_append, List.nil_append] using taken

/-- How the text of an amount is read behind its letter: the line is refused, or the one word that
counts has a number that is the amount exactly where the amount is legible. -/
theorem wordsOf_amount (a : Amount) {letter : Letter} (h : letter.IsDecimal) {rest : List Char}
    (ends : Ends rest) :
    (¬ a.Legible ∧
        ∃ stop, wordsOf (' ' :: letter.capital :: (a.text.toList ++ rest)) = .error stop) ∨
      ∃ n ws, (a.Is n.toFloat ↔ a.Legible) ∧ heeded ws = [⟨letter, letter.capital, n⟩] ∧
        wordsOf (' ' :: letter.capital :: (a.text.toList ++ rest))
          = (wordsOf rest).map (ws ++ ·) := by
  have counted := fun n => heeded_singleton h.1 letter.capital n
  cases a.shape with
  | plain n text exact_iff =>
    refine .inr ⟨n.value, [⟨letter, letter.capital, n.value⟩], exact_iff, counted _, ?_⟩
    rw [text, wordsOf_decimal n h ends]
    rfl
  | small n n' text inexact illegible =>
    have mark := @wordsOf_append n' 'e' .decimal (by decide) (by decide) trivial [] [] rest
      (by simp) (by simp) ends
    -- the mark of the exponent is itself a letter, and the exponent its number
    refine .inr ⟨n.value, [⟨letter, letter.capital, n.value⟩, ⟨.other, 'E', n'.value⟩],
      iff_of_false inexact illegible, ?_, ?_⟩
    · rw [← List.singleton_append, heeded_append, counted]
      rfl
    · rw [text, List.append_assoc, List.cons_append,
        wordsOf_decimal n h (.of_isWordLetter (by decide) _)]
      simp only [List.nil_append] at mark
      rw [mark]
      cases wordsOf rest <;> rfl
  | large n ds text nonempty digits illegible =>
    -- a plus sign begins no number
    have noBlank : ∀ c ∈ ('+' :: (ds ++ rest)).head?, isBlank c = false ∧ c ≠ '-' := by
      rintro c ⟨⟩
      decide
    obtain ⟨stop, refused⟩ := @wordsOf_no_number 'e' (by decide) (by decide) []
      ('+' :: (ds ++ rest)) false (by simp) (.cons (by decide) (by decide) _) noBlank (by simp)
    refine .inl ⟨illegible, stop, ?_⟩
    rw [text, List.append_assoc, List.cons_append, List.cons_append,
      wordsOf_decimal n h (.of_isWordLetter (by decide) _)]
    simp only [List.nil_append, Bool.false_eq_true, if_false] at refused
    rw [refused]
    rfl
  | named negative name text known illegible =>
    obtain ⟨d, more, rfl, first⟩ : ∃ d more, name = d :: more ∧ (d = 'i' ∨ d = 'n') := by
      rcases known with rfl | rfl
      · exact ⟨_, _, rfl, .inl rfl⟩
      · exact ⟨_, _, rfl, .inr rfl⟩
    have noNumber : Ends (d :: (more ++ rest)) := by
      rcases first with rfl | rfl <;> exact .cons (by decide) (by decide) _
    have noBlank : isBlank d = false ∧ d ≠ '-' := by
      rcases first with rfl | rfl <;> exact ⟨rfl, by decide⟩
    obtain ⟨isLetter, -, asks, -⟩ := h.spec
    obtain ⟨stop, refused⟩ := wordsOf_no_number isLetter asks [' '] (d :: (more ++ rest)) negative
      passed_space noNumber (by simpa using noBlank) (by simp)
    refine .inl ⟨illegible, stop, ?_⟩
    rw [text, List.append_assoc, List.cons_append]
    exact refused

/-! ## Words of a jog -/

/-- The text of one word of a jog. -/
def segment (letter : Letter) : Option Amount → List Char
  | none => []
  | some a => ' ' :: letter.capital :: a.text.toList

theorem word_eq (letter : Letter) (a : Option Amount) :
    word (.ofList [letter.capital]) a = .ofText (.ofList (segment letter a)) := by
  cases a with
  | none =>
    show [] = Bytes.ofText (.ofList [])
    decide +kernel
  | some a =>
    rw [word, segment]
    congr 1
    rw [← String.toList_inj, String.toList_append, String.toList_append, String.toList_ofList,
      String.toList_ofList, String.toList_ofList]
    rfl

theorem ends_segment {letter : Letter} (a : Option Amount) {rest : List Char} (ends : Ends rest) :
    Ends (segment letter a ++ rest) := by
  cases a with
  | none => exact ends
  | some a => exact .cons (by decide) (by decide) _

/-- Is the number the amount exactly where the amount is legible? -/
def Reads (a : Amount) (n : Numeral) : Prop := a.Is n.toFloat ↔ a.Legible

/-- What a text is cut into that holds these amounts: it is refused and one of them is illegible, or
the words that count are of this form. -/
def Cut (amounts : List Amount) (form : List Word → Prop) (s : List Char) : Prop :=
  ((∃ a ∈ amounts, ¬ a.Legible) ∧ ∃ stop, wordsOf s = .error stop) ∨
    ∃ ws, form (heeded ws) ∧ wordsOf s = .ok ws

/-- The word that counts under a letter. -/
def wordAt (letter : Letter) (n : Option Numeral) : List Word :=
  (n.map fun n => ⟨letter, letter.capital, n⟩).toList

/-- A word more in front. -/
theorem Cut.segment {letter : Letter} (h : letter.IsDecimal) (a : Option Amount)
    {amounts : List Amount} {form : List Word → Prop} {rest : List Char} (ends : Ends rest)
    (cut : Cut amounts form rest) :
    Cut (a.toList ++ amounts)
      (fun ws => ∃ n, Option.Rel Reads a n ∧ ∃ ws', form ws' ∧ ws = wordAt letter n ++ ws')
      (segment letter a ++ rest) := by
  cases a with
  | none =>
    rcases cut with refused | ⟨ws, formed, read⟩
    · exact .inl refused
    · exact .inr ⟨ws, ⟨none, .none, _, formed, rfl⟩, read⟩
  | some a =>
    rcases wordsOf_amount a h ends with ⟨illegible, refused⟩ | ⟨n, ws, reads, counted, taken⟩
    · exact .inl ⟨⟨a, by simp, illegible⟩, refused⟩
    · rcases cut with ⟨⟨b, mem, illegible⟩, stop, refused⟩ | ⟨ws', formed, read⟩
      · refine .inl ⟨⟨b, List.mem_append_right _ mem, illegible⟩, stop, ?_⟩
        rw [refused] at taken
        exact taken
      · refine .inr ⟨ws ++ ws', ⟨some n, .some reads, _, formed, ?_⟩, ?_⟩
        · rw [heeded_append, counted]
          rfl
        · rw [read] at taken
          exact taken

end Jog

/-! ## The line of a jog -/

/-- The last figure of the code of a distance mode. -/
def DistanceMode.figure : DistanceMode → Char
  | .absolute => '0'
  | .incremental => '1'

/-- The code of a distance mode. -/
def DistanceMode.spelling (mode : DistanceMode) : Spelling where
  negative := false
  whole := ['9', mode.figure]
  fraction := none
  digits := by cases mode <;> decide
  nonempty := by simp

def DistanceMode.code (mode : DistanceMode) : List Char := 'G' :: mode.spelling.text

theorem modeOf?_code (mode : DistanceMode) :
    modeOf? mode.spelling.value.toFloat = some (.distance mode) := by
  cases mode <;> decide +kernel

namespace Jog

/-- The text of a jog. -/
def text (j : Jog) (mode : DistanceMode) : List Char :=
  mode.code ++ (segment .x j.x ++ (segment .y j.y ++ (segment .z j.z ++ (segment .f j.f ++ []))))

/-- The line of a jog as it is registered: the command, and what stands behind it. -/
def line (j : Jog) (mode : DistanceMode) (tail : List Char) : Bytes :=
  j.command (.ofText (.ofList mode.code)) ++ .ofText (.ofList tail)

/-- The amounts of a jog. -/
def amounts (j : Jog) : List Amount :=
  j.x.toList ++ (j.y.toList ++ (j.z.toList ++ (j.f.toList ++ [])))

/-- The line is the mark, and the text in UTF-8. -/
theorem line_eq (j : Jog) (mode : DistanceMode) (tail : List Char) :
    j.line mode tail = jogMark ++ .ofText (.ofList (j.text mode ++ tail)) := by
  have x := word_eq .x j.x
  have y := word_eq .y j.y
  have z := word_eq .z j.z
  have f := word_eq .f j.f
  simp only [Letter.capital] at x y z f
  rw [line, command, show "X" = .ofList ['X'] by decide, show "Y" = .ofList ['Y'] by decide,
    show "Z" = .ofList ['Z'] by decide, show "F" = .ofList ['F'] by decide, x, y, z, f, text]
  simp only [String.ofList_append, Bytes.ofText_append, List.append_assoc, List.nil_append]

/-- The numbers under the letters of a jog. -/
structure Numbers where
  x : Option Numeral
  y : Option Numeral
  z : Option Numeral
  f : Option Numeral

namespace Numbers

/-- The words that count. -/
def words (n : Numbers) (mode : DistanceMode) : List Word :=
  ⟨.g, 'G', mode.spelling.value⟩ ::
    (wordAt .x n.x ++ (wordAt .y n.y ++ (wordAt .z n.z ++ (wordAt .f n.f ++ []))))

/-- Does each number read its amount? -/
structure Of (n : Numbers) (j : Jog) : Prop where
  x : Option.Rel Reads j.x n.x
  y : Option.Rel Reads j.y n.y
  z : Option.Rel Reads j.z n.z
  f : Option.Rel Reads j.f n.f

/-- The modes and the feed that the words set. -/
theorem jogSettings_words (n : Numbers) (mode : DistanceMode) (modes : Modes) (feed : Float) :
    Tracker.jogSettings (n.words mode) modes feed
      = ({ modes with distance := mode }, (n.f.map Numeral.toFloat).getD feed) := by
  have selected : (modes.apply mode.spelling.value.toFloat ModeGroup.jog).1
      = { modes with distance := mode } := by
    rw [Modes.apply, modeOf?_code]
    rfl
  have first : Tracker.jogSettings (n.words mode) modes feed
      = Tracker.jogSettings (n.words mode).tail
          (modes.apply mode.spelling.value.toFloat ModeGroup.jog).1 feed := rfl
  rw [first, selected]
  obtain ⟨x, y, z, f⟩ := n
  cases x <;> cases y <;> cases z <;> cases f <;> rfl

/-- The move that the words describe. -/
theorem ofWords_words (n : Numbers) (mode : DistanceMode) :
    (Move.ofWords (n.words mode) : Move Float) = { target := ⟨n.x.map Numeral.toFloat,
      n.y.map Numeral.toFloat, n.z.map Numeral.toFloat⟩ } := by
  obtain ⟨x, y, z, f⟩ := n
  cases x <;> cases y <;> cases z <;> cases f <;> rfl

end Numbers

/-- Nothing is cut into nothing. -/
theorem cut_nil : Cut [] (· = []) [] := .inr ⟨[], rfl, by rw [wordsOf]; rfl⟩

/-- The code of a mode in front. -/
theorem Cut.code (mode : DistanceMode) {amounts : List Amount} {form : List Word → Prop}
    {rest : List Char} (ends : Ends rest) (cut : Cut amounts form rest) :
    Cut amounts (fun ws => ∃ ws', form ws' ∧ ws = ⟨.g, 'G', mode.spelling.value⟩ :: ws')
      (mode.code ++ rest) := by
  have fits : mode.spelling.Fits .code := ⟨rfl, List.cons_ne_nil _ _, fun _ none => nomatch none⟩
  have taken : wordsOf (mode.code ++ rest)
      = (wordsOf rest).map (⟨.g, 'G', mode.spelling.value⟩ :: ·) :=
    @wordsOf_append mode.spelling 'G' .code (by decide) (by decide) fits [] [] rest
      (by simp) (by simp) ends
  rcases cut with ⟨illegible, stop, refused⟩ | ⟨ws, formed, read⟩
  · refine .inl ⟨illegible, stop, ?_⟩
    rw [taken, refused]
    rfl
  · refine .inr ⟨⟨.g, 'G', mode.spelling.value⟩ :: ws, ⟨_, formed, rfl⟩, ?_⟩
    rw [taken, read]
    rfl

/-- What the text of a jog is cut into. -/
theorem cut_text (j : Jog) (mode : DistanceMode) :
    Cut j.amounts (fun ws => ∃ n : Numbers, n.Of j ∧ ws = n.words mode) (j.text mode) := by
  -- from the last word to the first, for a number ends where the next word begins
  have endF := @ends_segment .f j.f _ .nil
  have endZ := @ends_segment .z j.z _ endF
  have endY := @ends_segment .y j.y _ endZ
  have endX := @ends_segment .x j.x _ endY
  have cut := Cut.code mode endX <| Cut.segment ⟨by decide, rfl⟩ j.x endY <|
    Cut.segment ⟨by decide, rfl⟩ j.y endZ <| Cut.segment ⟨by decide, rfl⟩ j.z endF <|
    Cut.segment ⟨by decide, rfl⟩ j.f .nil cut_nil
  refine cut.imp id fun ⟨ws, formed, read⟩ => ⟨ws, ?_, read⟩
  obtain ⟨_, ⟨x, relX, _, ⟨y, relY, _, ⟨z, relZ, _, ⟨f, relF, _, rfl, rfl⟩, rfl⟩, rfl⟩, rfl⟩,
    same⟩ := formed
  exact ⟨⟨x, y, z, f⟩, ⟨relX, relY, relZ, relF⟩, same⟩

/-! ## The text as it is read -/

/-- Is the character neither a blank nor the beginning of a comment? -/
def Plain (c : Char) : Prop := isBlank c = false ∧ c ≠ '(' ∧ c ≠ ';'

theorem plain_of_isDigit {c : Char} (h : isDigit c = true) : Plain c :=
  ⟨isBlank_of_isDigit h, uncommented (.inr h)⟩

theorem plain_of_mem_text {n : Spelling} {c : Char} (mem : c ∈ n.text) : Plain c := by
  rcases n.mem_text mem with rfl | rfl | digit
  · exact ⟨rfl, by decide⟩
  · exact ⟨rfl, by decide⟩
  · exact plain_of_isDigit digit

theorem plain_amount (a : Amount) : a.text.toList ≠ [] ∧ ∀ c ∈ a.text.toList, Plain c := by
  have mark : Plain 'e' := ⟨rfl, by decide⟩
  have plus : Plain '+' := ⟨rfl, by decide⟩
  have spelled (n : Spelling) : ∀ c ∈ n.text, Plain c := fun _ => plain_of_mem_text
  cases a.shape with
  | plain n text _ =>
    rw [text]
    exact ⟨n.text_ne_nil, spelled n⟩
  | small n n' text _ _ =>
    rw [text, List.forall_mem_append, List.forall_mem_cons]
    exact ⟨by simp, spelled n, mark, spelled n'⟩
  | large n ds text _ digits _ =>
    rw [text, List.forall_mem_append, List.forall_mem_cons, List.forall_mem_cons]
    exact ⟨by simp, spelled n, mark, plus, fun c mem => plain_of_isDigit (digits c mem)⟩
  | named negative name text known _ =>
    have all : ∀ c ∈ (if negative then ['-'] else []) ++ name,
        c = '-' ∨ c = 'i' ∨ c = 'n' ∨ c = 'f' ∨ c = 'a' := by
      cases negative <;> rcases known with rfl | rfl <;> simp
    rw [text]
    refine ⟨by rcases known with rfl | rfl <;> simp, fun c mem => ?_⟩
    rcases all c mem with rfl | rfl | rfl | rfl | rfl <;> exact ⟨rfl, by decide⟩

/-- The characters of a line of words: none begins a comment, and the last is no blank. -/
structure Tidy (s : List Char) : Prop where
  uncommented : ∀ c ∈ s, c ≠ '(' ∧ c ≠ ';'
  last : ∀ c ∈ s.getLast?, isBlank c = false

theorem Tidy.segment {s : List Char} (tidy : Tidy s) (letter : Letter) (a : Option Amount) :
    Tidy (s ++ segment letter a) := by
  cases a with
  | none =>
    rw [Jog.segment, List.append_nil]
    exact tidy
  | some a =>
    obtain ⟨nonempty, plain⟩ := plain_amount a
    have capital : letter.capital ≠ '(' ∧ letter.capital ≠ ';' := by cases letter <;> decide
    have joined : s ++ Jog.segment letter (some a)
        = (s ++ [' ', letter.capital]) ++ a.text.toList := by simp [Jog.segment]
    constructor
    · rw [Jog.segment, List.forall_mem_append, List.forall_mem_cons, List.forall_mem_cons]
      exact ⟨tidy.uncommented, by decide, capital, fun c mem => (plain c mem).2⟩
    · intro c mem
      rw [joined, List.getLast?_append_of_ne_nil _ nonempty] at mem
      exact (plain c (List.mem_of_getLast? mem)).1

theorem tidy_text (j : Jog) (mode : DistanceMode) : Tidy (j.text mode) := by
  have code : Tidy mode.code := by
    have last : mode.code.getLast? = some mode.figure := rfl
    constructor
    · intro c mem
      rcases List.mem_cons.1 mem with rfl | mem
      · decide
      · exact (plain_of_mem_text mem).2
    · rw [last]
      rintro c ⟨⟩
      cases mode <;> rfl
  have all := (((code.segment .x j.x).segment .y j.y).segment .z j.z).segment .f j.f
  simpa only [text, List.append_assoc, List.append_nil] using all

/-- Blanks and line ends behind the text of a jog do not count. -/
theorem trim_text (j : Jog) (mode : DistanceMode) {tail : List Char}
    (blank : ∀ c ∈ tail, isBlank c = true) :
    trim (removeComments (j.text mode ++ tail)) = j.text mode := by
  have tidy := j.tidy_text mode
  rw [removeComments_eq fun c mem => (List.mem_append.1 mem).elim (tidy.uncommented c)
    fun mem => uncommented (.inl (blank c mem))]
  have first : ∀ c ∈ (j.text mode).head?, isBlank c = false := fun c mem => by
    obtain rfl : 'G' = c := by simpa [text, DistanceMode.code] using mem
    rfl
  exact @trim_append [] _ _ (by simp) blank first tidy.last

/-! ## Registered -/

def axis (j : Jog) : Axis → Option Amount
  | .x => j.x
  | .y => j.y
  | .z => j.z

/-- Is the motion the jog that was asked for, under the modes that were in force? -/
structure Taken (j : Jog) (mode : DistanceMode) (modes : Modes) (q : QueuedMotion Float) :
    Prop where
  jog : q.isJog = true
  target : ∀ a, Option.Rel Amount.Is (j.axis a) ((Move.ofWords q.words).target.get a : Option Float)
  straight : (Move.ofWords q.words : Move Float).radius = none ∧
    (Move.ofWords q.words : Move Float).centre.isEmpty = true
  distance : q.modes = { modes with distance := mode }
  feed : ∀ a ∈ j.f, a.Is q.feed

/-- The motion that the words of a jog line describe to a tracker. -/
def motion (t : Tracker Float) (line : Bytes) (words : List Word) : QueuedMotion Float :=
  let settings := Tracker.jogSettings words t.machine.modes t.machine.feedRate
  ⟨line, words, settings.1, settings.2⟩

theorem is_of_reads {a : Option Amount} {n : Option Numeral} (reads : Option.Rel Reads a n)
    (legible : ∀ b ∈ a, b.Legible) : Option.Rel Amount.Is a (n.map Numeral.toFloat) := by
  cases reads with
  | none => exact .none
  | some reads => exact .some (reads.2 (legible _ rfl))

theorem legible_of_reads {a : Option Amount} {n : Option Numeral} (reads : Option.Rel Reads a n)
    (is : Option.Rel Amount.Is a (n.map Numeral.toFloat)) : ∀ b ∈ a, b.Legible := by
  rintro b mem
  cases reads with
  | none => cases mem
  | some reads =>
    cases mem
    cases is with
    | some is => exact reads.1 is

/-- With a number of its own, the feed is that number. -/
theorem feed_iff {a : Option Amount} {n : Option Numeral} (reads : Option.Rel Reads a n)
    (feed : Float) : (∀ b ∈ a, b.Is ((n.map Numeral.toFloat).getD feed)) ↔
      Option.Rel Amount.Is a (n.map Numeral.toFloat) := by
  cases reads with
  | none => simp
  | some reads => simp

/-- The amounts of a jog are legible if the amount under each letter is. -/
theorem forall_amounts {j : Jog} {p : Amount → Prop} : (∀ a ∈ j.amounts, p a) ↔
    (∀ a ∈ j.x, p a) ∧ (∀ a ∈ j.y, p a) ∧ (∀ a ∈ j.z, p a) ∧ ∀ a ∈ j.f, p a := by
  simp only [amounts, List.mem_append, Option.mem_toList, Option.mem_def, or_imp, forall_and,
    List.append_nil]

/-- The jog that words describe is the one asked for exactly where its amounts are legible. -/
theorem taken_words_iff {j : Jog} {n : Numbers} (reads : n.Of j) {mode : DistanceMode}
    {ws : List Word} (words : heeded ws = n.words mode) {line : Bytes} (jog : isJog line = true)
    (t : Tracker Float) :
    j.Taken mode t.machine.modes (motion t line ws) ↔ ∀ a ∈ j.amounts, a.Legible := by
  have move : (Move.ofWords ws : Move Float) = { target := ⟨n.x.map Numeral.toFloat,
      n.y.map Numeral.toFloat, n.z.map Numeral.toFloat⟩ } := by
    rw [← ofWords_heeded, words, n.ofWords_words mode]
  have settings : Tracker.jogSettings ws t.machine.modes t.machine.feedRate
      = ({ t.machine.modes with distance := mode },
        (n.f.map Numeral.toFloat).getD t.machine.feedRate) := by
    rw [← jogSettings_heeded, words, n.jogSettings_words mode]
  have feed : (∀ a ∈ j.f, a.Is (motion t line ws).feed)
      ↔ Option.Rel Amount.Is j.f (n.f.map Numeral.toFloat) := by
    rw [motion, settings]
    exact feed_iff reads.f _
  rw [forall_amounts]
  constructor
  · intro taken
    have target := taken.target
    rw [motion, move] at target
    exact ⟨legible_of_reads reads.x (target .x), legible_of_reads reads.y (target .y),
      legible_of_reads reads.z (target .z), legible_of_reads reads.f (feed.1 taken.feed)⟩
  · rintro ⟨x, y, z, f⟩
    refine ⟨jog, fun a => ?_, ?_, ?_, feed.2 (is_of_reads reads.f f)⟩
    · rw [motion, move]
      cases a with
      | x => exact is_of_reads reads.x x
      | y => exact is_of_reads reads.y y
      | z => exact is_of_reads reads.z z
    · rw [motion, move]
      exact ⟨rfl, rfl⟩
    · rw [motion, settings]

/-- A jog, registered with any tracker, is read without a refusal and taken for the jog that was
asked for, exactly where all its amounts are legible. -/
theorem taken_iff_legible (j : Jog) (mode : DistanceMode) {tail : List Char}
    (blank : ∀ c ∈ tail, isBlank c = true) (now : Float) (t : Tracker Float) :
    (∃ words, parseLine ((j.line mode tail).drop jogMark.length) = .ok (.ok words) ∧
      j.Taken mode t.machine.modes (motion t (j.line mode tail) words) ∧
      t.register now (j.line mode tail) =
        if t.simulates then
          (Tracker.enqueue now (motion t (j.line mode tail) words)
            { t with ledger := t.ledger.send (j.line mode tail) }).mapResult fun _ => none
        else .done { t with ledger := t.ledger.send (j.line mode tail) } none) ↔
      ∀ a ∈ j.amounts, a.Legible := by
  have jog : isJog (j.line mode tail) = true := by rw [line_eq]; rfl
  have system : isSystem (j.line mode tail) = true := by rw [line_eq]; rfl
  have parse :
      parseLine ((j.line mode tail).drop jogMark.length) = parseText (j.text mode ++ tail) := by
    rw [line_eq, List.drop_left, parseLine, Utf8.decode?_ofText, String.toList_ofList]
  rcases j.cut_text mode with ⟨⟨a, mem, illegible⟩, stop, refused⟩ | ⟨ws, ⟨n, reads, counted⟩, cut⟩
  · -- a line is refused only for an amount that is not legible
    refine iff_of_false ?_ fun all => illegible (all a mem)
    rintro ⟨words, read, -⟩
    simp only [parse, parseText, j.trim_text mode blank, refused] at read
    cases stop <;> cases read
  · have read : parseLine ((j.line mode tail).drop jogMark.length) = .ok (.ok ws) := by
      simp only [parse, parseText, j.trim_text mode blank, cut]
    have taken := taken_words_iff reads counted jog t
    constructor
    · rintro ⟨words, same, asked, -⟩
      rw [read] at same
      cases same
      exact taken.1 asked
    · intro legible
      refine ⟨ws, read, taken.2 legible, ?_⟩
      rw [Tracker.register, if_pos system, if_pos jog, Tracker.registerJog, read]
      rfl

/-- A jog in X and Z with a feed: the least positive number that is legible, a whole number and a
number with a fraction. -/
def askew : Jog := { x := some (.real 0.0001), z := some (.whole (-7)), f := some (.real 1500.5) }

theorem legible_askew : ∀ a ∈ askew.amounts, a.Legible := by
  have x : ofFloat 0.0001 = .finite false 7378697629483821 (-66) := by decide +kernel
  have z : ofFloat (-7) = .finite true 7881299347898368 (-50) := by decide +kernel
  have f : ofFloat 1500.5 = .finite false 6599268789911552 (-42) := by decide +kernel
  refine forall_amounts.2 ⟨?_, ?_, ?_, ?_⟩
  · rintro _ ⟨⟩
    exact (Amount.legible_real_iff x).2 (.inr (by norm_num))
  · rintro _ ⟨⟩
  · rintro _ ⟨⟩
    exact ⟨-7, by rw [z, toRat?]; norm_num⟩
  · rintro _ ⟨⟩
    exact (Amount.legible_real_iff f).2 (.inr (by norm_num))

theorem taken_askew :
    (∀ c ∈ ['\n'], isBlank c = true) ∧
      askew.line .incremental ['\n'] = .ofText "$J=G91 X0.0001 Z-7 F1500.5\n" ∧
      ∃ words, parseLine ((askew.line .incremental ['\n']).drop jogMark.length) = .ok (.ok words) ∧
        askew.Taken .incremental {} (motion (.fresh true) (askew.line .incremental ['\n']) words) ∧
        (Tracker.fresh true).register 0 (askew.line .incremental ['\n']) =
          (Tracker.enqueue 0 (motion (.fresh true) (askew.line .incremental ['\n']) words)
            { (Tracker.fresh true : Tracker Float) with
              ledger := (Tracker.fresh true : Tracker Float).ledger.send
                (askew.line .incremental ['\n']) }).mapResult fun _ => none :=
  have blank : ∀ c ∈ ['\n'], isBlank c = true := List.all_eq_true.1 rfl
  ⟨blank, by decide +kernel,
    (taken_iff_legible askew .incremental blank 0 (.fresh true)).2 legible_askew⟩

/-- A jog by 10⁻⁵, which is written with an exponent. -/
def minute : Jog := { x := some (.real 1e-05), f := some (.whole 100) }

/-- A jog by 10¹⁶, which is written with an exponent. -/
def vast : Jog := { x := some (.real 1e16), f := some (.whole 100) }

/-- A jog by 10⁻⁵ goes by 1, for its line is cut behind the 1; and a jog by 10¹⁶ is refused. -/
theorem not_taken_marked :
    (¬ ∃ words, parseLine ((minute.line .incremental []).drop jogMark.length) = .ok (.ok words) ∧
        minute.Taken .incremental {} (motion (.fresh true) (minute.line .incremental []) words)) ∧
      ¬ ∃ words, parseLine ((vast.line .incremental []).drop jogMark.length) = .ok (.ok words) ∧
        vast.Taken .incremental {} (motion (.fresh true) (vast.line .incremental []) words) := by
  have cut : parseLine ((minute.line .incremental []).drop jogMark.length) = .ok (.ok
      [⟨.g, 'G', .decimal false 91 0⟩, ⟨.x, 'X', .decimal false 1 0⟩,
        ⟨.other, 'E', .decimal true 5 0⟩, ⟨.f, 'F', .decimal false 100 0⟩]) := by decide +kernel
  have refused : parseLine ((vast.line .incremental []).drop jogMark.length)
      = .ok (.error (.invalid "G91 X1e+16 F100".toList (.badNumber 'E'))) := by decide +kernel
  have inexact : ¬ (Amount.real 1e-05).Is (Numeral.decimal false 1 0).toFloat := by
    show ¬ _ = _
    decide +kernel
  constructor
  · rintro ⟨words, read, taken⟩
    rw [cut] at read
    cases read
    cases taken.target .x with
    | some is => exact inexact is
  · rintro ⟨words, read, -⟩
    rw [refused] at read
    cases read

end Jog

end Gcode

end GcodeSender
