/-
# `GcodeSender.Proofs.Gcode.Rendering` — reading a line undoes writing it

A word is written as blanks, its letter in either case, blanks, and its number
spelled out.  Nothing need stand between two words: a number ends where neither
a digit nor a point follows, and the letter of the next word is neither.  So
the cutting takes a written word off the head of a text and leaves the rest as
it is (`wordsOf_append`), and written words are read by induction, whatever
stands behind them (`wordsOf_render_append`).

    Written      a word with its blanks, under one of the eight letters that count
    render       the text of written words

How numbers are spelled, and that they are read, is `Numbers`'.
-/
import GcodeSender.Proofs.Gcode.Numbers

namespace GcodeSender

open Text

namespace Gcode

/-! ## Words taken off a text -/

/-- The letters of ASCII, and four characters beyond it. -/
theorem toNat_of_isWordLetter {c : Char} (h : isWordLetter c = true) :
    0x41 ≤ c.toNat ∧ c.toNat ≤ 0x7A ∨ c.toNat = 0x131 ∨ c.toNat = 0x130 ∨ c.toNat = 0x17F ∨
      c.toNat = 0x212A := by
  simp only [isWordLetter, Bool.or_eq_true, decide_eq_true_eq, Char.isAlpha, Char.isUpper,
    Char.isLower, Bool.and_eq_true, ge_iff_le, UInt32.le_iff_toNat_le] at h
  rcases h with ((((upper | lower) | rfl) | rfl) | rfl) | rfl
  · exact .inl ⟨upper.1, Nat.le_trans upper.2 (by decide)⟩
  · exact .inl ⟨Nat.le_trans (by decide) lower.1, lower.2⟩
  all_goals decide

theorem isWordLetter_of_isBlank {c : Char} (blank : isBlank c = true) : isWordLetter c = false := by
  refine Bool.eq_false_iff.2 fun letter => ?_
  have place := toNat_of_isWordLetter letter
  simp only [isBlank, Bool.or_eq_true, Bool.and_eq_true, decide_eq_true_eq, beq_iff_eq] at blank
  omega

/-- At the letter of the next word a number has come to its end. -/
theorem Ends.of_isWordLetter {c : Char} (letter : isWordLetter c = true) (rest : List Char) :
    Ends (c :: rest) := by
  have place := toNat_of_isWordLetter letter
  refine .cons ?_ (Bool.eq_false_iff.2 fun digit => ?_) rest
  · rintro rfl
    exact absurd letter (by decide)
  · have := toNat_of_isDigit digit
    omega

theorem nextLetter?_append {gap : List Char} {c : Char} {rest : List Char}
    (passed : ∀ d ∈ gap, isWordLetter d = false ∧ d ≠ '\n') (letter : isWordLetter c = true) :
    nextLetter? (gap ++ c :: rest) = some (c, rest) := by
  induction gap with
  | nil => rw [List.nil_append, nextLetter?, if_pos letter]
  | cons d more ih =>
    obtain ⟨notLetter, sameLine⟩ := passed d List.mem_cons_self
    rw [List.cons_append, nextLetter?, notLetter, if_neg Bool.false_ne_true, if_neg sameLine]
    exact ih fun d' mem => passed d' (List.mem_cons_of_mem _ mem)

/-- A word that is read comes before the words of the rest. -/
theorem wordsOf_of_number {s behind rest : List Char} {c : Char} {form : Form} {v : Numeral}
    (next : nextLetter? s = some (c, behind)) (asks : formOf? (upper c) = some form)
    (number : readNumber (upper c) form behind = .number v rest) :
    wordsOf s = (wordsOf rest).map (⟨.ofUpper (upper c), upper c, v⟩ :: ·) := by
  rw [wordsOf]
  split
  next none => rw [next] at none; cases none
  next c' behind' found =>
    rw [next] at found
    cases found
    simp only [asks]
    split
    next read => rw [number] at read; cases read
    next read => rw [number] at read; cases read
    next value rest' read =>
      rw [number] at read
      cases read
      cases wordsOf rest <;> rfl

/-- The cutting takes a written word off the head of a text. -/
theorem wordsOf_append (n : Spelling) {c : Char} {form : Form} (letter : isWordLetter c = true)
    (asks : formOf? (upper c) = some form) (fits : n.Fits form) {gap blanks rest : List Char}
    (passed : ∀ d ∈ gap, isWordLetter d = false ∧ d ≠ '\n')
    (blank : ∀ d ∈ blanks, isBlank d = true) (ends : Ends rest) :
    wordsOf (gap ++ c :: (blanks ++ (n.text ++ rest)))
      = (wordsOf rest).map (⟨.ofUpper (upper c), upper c, n.value⟩ :: ·) :=
  wordsOf_of_number (nextLetter?_append passed letter) asks
    (readNumber_append n fits (upper c) blank ends)

/-- A line is refused at a letter behind which the number does not fit. -/
theorem wordsOf_refused {c : Char} {form : Form} {cause : Cause} (letter : isWordLetter c = true)
    (asks : formOf? (upper c) = some form) {gap rest : List Char}
    (passed : ∀ d ∈ gap, isWordLetter d = false ∧ d ≠ '\n')
    (refused : readNumber (upper c) form rest = .refused cause) :
    wordsOf (gap ++ c :: rest) = .error (.refused cause) := by
  have next : nextLetter? (gap ++ c :: rest) = some (c, rest) := nextLetter?_append passed letter
  rw [wordsOf]
  split
  next none => rw [next] at none; cases none
  next c' behind found =>
    rw [next] at found
    cases found
    simp only [asks]
    split
    next read => rw [refused] at read; cases read; rfl
    next read => rw [refused] at read; cases read
    next read => rw [refused] at read; cases read

/-! ## Written words -/

/-- The capital that stands for a letter. -/
def Letter.capital : Letter → Char
  | .g => 'G'
  | .x => 'X'
  | .y => 'Y'
  | .z => 'Z'
  | .f => 'F'
  | .r => 'R'
  | .i => 'I'
  | .j => 'J'
  | .other => '?'

/-- The form of the number behind a letter that counts. -/
def Letter.form : Letter → Form
  | .g => .code
  | _ => .decimal

/-- Is the character a blank that does not end the line? -/
def isGap (c : Char) : Bool := isBlank c && c ≠ '\n'

/-- A word as it is written: blanks in front of it, its letter in either case, blanks, and its
number. -/
structure Written where
  gap : List Char
  letter : Letter
  lower : Bool
  blanks : List Char
  number : Spelling
  followed : letter ≠ .other
  blank : (gap ++ blanks).all isGap = true
  fits : number.Fits letter.form

namespace Written

/-- The letter as it is written. -/
def initial (w : Written) : Char := if w.lower then w.letter.capital.toLower else w.letter.capital

/-- The writing without the blanks in front. -/
def core (w : Written) : List Char := w.initial :: (w.blanks ++ w.number.text)

/-- The word that is written. -/
def word (w : Written) : Word := ⟨w.letter, w.letter.capital, w.number.value⟩

end Written

/-- The text of written words. -/
def render (ws : List Written) : List Char := ws.flatMap fun w => w.gap ++ w.core

namespace Written

variable (w : Written)

/-- In either case the letter begins a word, asks for the form of its number, and stands for
itself. -/
theorem initial_spec : isWordLetter w.initial = true ∧ upper w.initial = w.letter.capital ∧
    formOf? w.letter.capital = some w.letter.form ∧ Letter.ofUpper w.letter.capital = w.letter := by
  have followed := w.followed
  rw [initial]
  generalize w.letter = letter at followed ⊢
  cases letter with
  | other => exact absurd rfl followed
  | _ => cases w.lower <;> decide

theorem isBlank_of_isGap {c : Char} (h : isGap c = true) : isBlank c = true ∧ c ≠ '\n' := by
  simpa [isGap] using h

theorem isGap_of_mem_gap {c : Char} (mem : c ∈ w.gap) : isGap c = true :=
  List.all_eq_true.1 w.blank c (List.mem_append_left _ mem)

theorem isBlank_of_mem_gap {c : Char} (mem : c ∈ w.gap) : isBlank c = true :=
  (isBlank_of_isGap (w.isGap_of_mem_gap mem)).1

theorem isBlank_of_mem_blanks {c : Char} (mem : c ∈ w.blanks) : isBlank c = true :=
  (isBlank_of_isGap (List.all_eq_true.1 w.blank c (List.mem_append_right _ mem))).1

/-- The blanks in front are passed over in the search for the letter. -/
theorem passed_of_mem_gap {c : Char} (mem : c ∈ w.gap) : isWordLetter c = false ∧ c ≠ '\n' :=
  ⟨isWordLetter_of_isBlank (w.isBlank_of_mem_gap mem),
    (isBlank_of_isGap (w.isGap_of_mem_gap mem)).2⟩

end Written

/-- Where written words follow, and behind them a text where a number ends, it has come to its end. -/
theorem Ends.of_render (ws : List Written) {rest : List Char} (ends : Ends rest) :
    Ends (render ws ++ rest) := by
  cases ws with
  | nil => exact ends
  | cons w more =>
    rw [render, List.flatMap_cons, List.append_assoc, List.append_assoc]
    cases gap : w.gap with
    | nil => exact .of_isWordLetter w.initial_spec.1 _
    | cons c rest =>
      have blank : isBlank c = true := w.isBlank_of_mem_gap (gap ▸ List.mem_cons_self)
      refine .cons ?_ (Bool.eq_false_iff.2 fun digit => ?_) _
      · rintro rfl
        exact absurd blank (by decide)
      · rw [isBlank_of_isDigit digit] at blank
        cases blank

/-- The cutting takes written words off the head of a text. -/
theorem wordsOf_render_append (ws : List Written) {rest : List Char} (ends : Ends rest) :
    wordsOf (render ws ++ rest) = (wordsOf rest).map (ws.map Written.word ++ ·) := by
  induction ws with
  | nil =>
    show wordsOf rest = (wordsOf rest).map ([] ++ ·)
    cases wordsOf rest <;> rfl
  | cons w more ih =>
    obtain ⟨letter, raised, form, kind⟩ := w.initial_spec
    have text : render (w :: more) ++ rest
        = w.gap ++ w.initial :: (w.blanks ++ (w.number.text ++ (render more ++ rest))) := by
      simp [render, Written.core]
    rw [text, wordsOf_append w.number letter (raised ▸ form) w.fits
      (fun c mem => w.passed_of_mem_gap mem) (fun c mem => w.isBlank_of_mem_blanks mem)
      (.of_render more ends), ih, raised, kind]
    cases wordsOf rest <;> rfl

theorem wordsOf_render (ws : List Written) : wordsOf (render ws) = .ok (ws.map Written.word) := by
  have cut := wordsOf_render_append ws .nil
  have nothing : wordsOf [] = .ok [] := by simp [wordsOf, nextLetter?]
  rw [List.append_nil, nothing] at cut
  rw [cut, Except.map, List.append_nil]

/-! ## Written lines -/

/-- Neither blanks nor digits begin a comment. -/
theorem uncommented {c : Char} (h : isBlank c = true ∨ isDigit c = true) : c ≠ '(' ∧ c ≠ ';' := by
  constructor <;> rintro rfl <;> exact absurd h (by decide)

theorem Written.uncommented_of_mem (w : Written) {c : Char} (mem : c ∈ w.gap ++ w.core) :
    c ≠ '(' ∧ c ≠ ';' := by
  rcases List.mem_append.1 mem with inGap | inCore
  · exact uncommented (.inl (w.isBlank_of_mem_gap inGap))
  · rcases List.mem_cons.1 inCore with rfl | inside
    · have letter := w.initial_spec.1
      constructor <;> intro same <;> rw [same] at letter <;> exact absurd letter (by decide)
    · rcases List.mem_append.1 inside with inBlanks | inNumber
      · exact uncommented (.inl (w.isBlank_of_mem_blanks inBlanks))
      · rcases w.number.mem_text inNumber with rfl | rfl | digit
        · decide
        · decide
        · exact uncommented (.inr digit)

theorem removeComments_render_append (ws : List Written) {rest : List Char}
    (plain : ∀ c ∈ rest, c ≠ '(' ∧ c ≠ ';') :
    removeComments (render ws ++ rest) = render ws ++ rest := by
  refine removeComments_eq fun c mem => ?_
  rcases List.mem_append.1 mem with inWords | inRest
  · obtain ⟨w, -, inside⟩ := List.mem_flatMap.1 inWords
    exact w.uncommented_of_mem inside
  · exact plain c inRest

theorem removeComments_render (ws : List Written) {tail : List Char}
    (blank : ∀ c ∈ tail, isBlank c = true) :
    removeComments (render ws ++ tail) = render ws ++ tail :=
  removeComments_render_append ws fun c mem => uncommented (.inl (blank c mem))

/-- Written words end with the number of the last of them. -/
theorem getLast?_render (w : Written) (more : List Written) :
    ∀ c ∈ (w.core ++ render more).getLast?, isBlank c = false := by
  induction more generalizing w with
  | nil =>
    intro c mem
    have last : (w.core ++ render []).getLast? = w.number.text.getLast? := by
      show ((w.initial :: (w.blanks ++ w.number.text)) ++ []).getLast? = _
      rw [List.append_nil, ← List.cons_append,
        List.getLast?_append_of_ne_nil _ w.number.text_ne_nil]
    rw [last] at mem
    exact w.number.isBlank_of_mem_text (List.mem_of_getLast? mem)
  | cons v rest ih =>
    have text : w.core ++ render (v :: rest) = (w.core ++ v.gap) ++ (v.core ++ render rest) := by
      simp [render]
    have nonempty : v.core ++ render rest ≠ [] := List.cons_ne_nil _ _
    rw [text, List.getLast?_append_of_ne_nil _ nonempty]
    exact ih v

/-- The same word without the blanks in front of it. -/
def Written.unled (w : Written) : Written :=
  { w with
    gap := []
    blank := List.all_eq_true.2 fun c mem =>
      List.all_eq_true.1 w.blank c (List.mem_append_right _ mem) }

/-- Trimming takes the blanks off a text that begins with a written word. -/
theorem trim_render_append (w : Written) (more : List Written) {rest tail : List Char}
    (last : ∀ c ∈ (w.core ++ render more ++ rest).getLast?, isBlank c = false)
    (blank : ∀ c ∈ tail, isBlank c = true) :
    trim (render (w :: more) ++ (rest ++ tail)) = render (w.unled :: more) ++ rest := by
  have text : render (w :: more) ++ (rest ++ tail) =
      w.gap ++ ((w.core ++ render more ++ rest) ++ tail) := by
    simp [render]
  have first : ∀ c ∈ (w.core ++ render more ++ rest).head?, isBlank c = false := by
    intro c mem
    obtain rfl : w.initial = c := by simpa [Written.core] using mem
    have letter := w.initial_spec.1
    refine Bool.eq_false_iff.2 fun blank => ?_
    rw [isWordLetter_of_isBlank blank] at letter
    cases letter
  rw [text, trim_append (fun c mem => w.isBlank_of_mem_gap mem) blank first last]
  rfl

/-- A text of written words without the blanks around it is a text of the same words. -/
theorem trim_render (ws : List Written) {tail : List Char} (blank : ∀ c ∈ tail, isBlank c = true) :
    ∃ ws', trim (render ws ++ tail) = render ws' ∧ ws'.map Written.word = ws.map Written.word := by
  cases ws with
  | nil =>
    refine ⟨[], ?_, rfl⟩
    show trim ([] ++ ([] ++ tail)) = []
    exact trim_append (by simp) blank (by simp) (by simp)
  | cons w more =>
    have trimmed : trim (render (w :: more) ++ ([] ++ tail)) = render (w.unled :: more) ++ [] := by
      refine trim_render_append w more ?_ blank
      rw [List.append_nil]
      exact getLast?_render w more
    rw [List.nil_append, List.append_nil] at trimmed
    exact ⟨w.unled :: more, trimmed, rfl⟩

/-- Reading undoes writing: a line of written words, with any blanks and line ends behind them, is
read as those words, in order; and each number is the one that its spelling writes by itself. -/
theorem parseLine_render (ws : List Written) {tail : List Char}
    (blank : ∀ c ∈ tail, isBlank c = true) :
    parseLine (.ofText (.ofList (render ws ++ tail))) = .ok (.ok (ws.map Written.word)) ∧
      ∀ w ∈ ws, Numeral.read? w.number.text = some w.word.value := by
  refine ⟨?_, fun w _ => w.number.read?_text⟩
  obtain ⟨ws', trimmed, words⟩ := trim_render ws blank
  have cut : wordsOf (trim (removeComments (render ws ++ tail))) = .ok (ws.map Written.word) := by
    rw [removeComments_render ws blank, trimmed, wordsOf_render, words]
  simp only [parseLine, Utf8.decode?_ofText, String.toList_ofList, parseText, cut]

/-- Words run together, in either case, with a sign, a lone point and blanks inside a word. -/
theorem parseLine_run_together :
    (∀ c ∈ ['\r', '\n'], isBlank c = true) ∧
      parseLine (.ofText "g90.1x-2.5Y \t.5 f07.\r\n") = .ok (.ok
        [⟨.g, 'G', .decimal false 901 (-1)⟩, ⟨.x, 'X', .decimal true 25 (-1)⟩,
          ⟨.y, 'Y', .decimal false 5 (-1)⟩, ⟨.f, 'F', .decimal false 7 0⟩]) := by
  let ws : List Written :=
    [{ gap := [], letter := .g, lower := true, blanks := [],
        number := ⟨false, ['9', '0'], some ['1'], by decide, by decide⟩,
        followed := by decide, blank := by decide, fits := ⟨rfl, by decide, by simp⟩ },
      { gap := [], letter := .x, lower := true, blanks := [],
        number := ⟨true, ['2'], some ['5'], by decide, by decide⟩,
        followed := by decide, blank := by decide, fits := trivial },
      { gap := [], letter := .y, lower := false, blanks := [' ', '\t'],
        number := ⟨false, [], some ['5'], by decide, by decide⟩,
        followed := by decide, blank := by decide, fits := trivial },
      { gap := [' '], letter := .f, lower := true, blanks := [],
        number := ⟨false, ['0', '7'], some [], by decide, by decide⟩,
        followed := by decide, blank := by decide, fits := trivial }]
  have ends : ∀ c ∈ ['\r', '\n'], isBlank c = true := List.all_eq_true.1 rfl
  have text : String.ofList (render ws ++ ['\r', '\n']) = "g90.1x-2.5Y \t.5 f07.\r\n" := by
    decide +kernel
  exact ⟨ends, text ▸ (parseLine_render ws ends).1⟩

end Gcode

end GcodeSender
