/-
# `GcodeSender.Proofs.Gcode.Cutting` — which texts are cut into words

Looking for the next letter, the cutting passes over whatever stands before it.
So a text that is accepted need not be words and blanks: it is made of pieces,

    passed   letter   blanks   number
    .3       Y                 4

and what is passed over in front of a letter may be anything on the same line
that is no letter.  Behind the last number only blanks may be left.

    Piece     what is passed over, a letter, blanks, and a spelling that answers to the letter
    Reads     a text is these pieces, one after another, each taken as far as it goes

A number that goes on where it should have ended stops there (`Spelling.Stops`),
and what is left of it is passed over: the second point of `1.2.3`, the second
digit behind the point of `G90.12`.  Cutting and `Reads` agree (`Reads.wordsOf`,
`reads_of_wordsOf`), and a text is read in one way only (`Reads.unique`), so what
was passed over is determined.
-/
import GcodeSender.Proofs.Gcode.Rendering

namespace GcodeSender

open Text

namespace Gcode

variable {s rest : List Char} {v : Numeral}

/-! ## Letters, each the next one -/

theorem nextLetter?_iff {c : Char} {behind : List Char} :
    nextLetter? s = some (c, behind) ↔
      ∃ passed, s = passed ++ c :: behind ∧ (∀ d ∈ passed, isWordLetter d = false ∧ d ≠ '\n') ∧
        isWordLetter c = true := by
  constructor
  · intro h
    induction s with
    | nil => cases h
    | cons d more ih =>
      rw [nextLetter?] at h
      split at h
      next letter =>
        cases h
        exact ⟨[], rfl, by simp, letter⟩
      next notLetter =>
        split at h
        · cases h
        next sameLine =>
          obtain ⟨passed, rfl, skipped, letter⟩ := ih h
          refine ⟨d :: passed, rfl, fun d' mem => ?_, letter⟩
          rcases List.mem_cons.1 mem with rfl | inside
          · exact ⟨Bool.eq_false_iff.2 notLetter, sameLine⟩
          · exact skipped d' inside
  · rintro ⟨passed, rfl, skipped, letter⟩
    exact nextLetter?_append skipped letter

/-- Blanks hold no letter. -/
theorem nextLetter?_blank (blank : ∀ c ∈ s, isBlank c = true) : nextLetter? s = none := by
  cases found : nextLetter? s with
  | none => rfl
  | some pair =>
    obtain ⟨passed, rfl, -, letter⟩ := nextLetter?_iff.1 found
    rw [isWordLetter_of_isBlank (blank _ (by simp))] at letter
    cases letter

/-- Only the letter O takes the rest of the text. -/
theorem eq_of_formOf?_rest {c : Char} (h : formOf? c = some .rest) : c = 'O' := by
  rw [formOf?] at h
  repeat' split at h
  all_goals first | assumption | cases h

/-! ## Pieces -/

/-- A word as it stands in a text: what is passed over in front of it, its letter, blanks, and its
number. -/
@[ext] structure Piece where
  passed : List Char
  initial : Char
  form : Form
  blanks : List Char
  number : Spelling
  skipped : ∀ c ∈ passed, isWordLetter c = false ∧ c ≠ '\n'
  letter : isWordLetter initial = true
  asks : formOf? (upper initial) = some form
  blank : ∀ c ∈ blanks, isBlank c = true
  answers : number.Answers form

namespace Piece

/-- What stands behind the letter, and behind that. -/
def behind (p : Piece) (rest : List Char) : List Char := p.blanks ++ (p.number.text ++ rest)

/-- The piece as a text. -/
def text (p : Piece) : List Char := p.passed ++ p.initial :: p.behind []

/-- The word of the piece. -/
def word (p : Piece) : Word := ⟨.ofUpper (upper p.initial), upper p.initial, p.number.value⟩

/-- Is nothing but blanks passed over? -/
def Plain (p : Piece) : Prop := ∀ c ∈ p.passed, isBlank c = true

variable (p : Piece)

theorem text_append (rest : List Char) : p.text ++ rest = p.passed ++ p.initial :: p.behind rest := by
  simp [text, behind]

theorem form_ne_rest : p.form ≠ .rest := fun rest => by
  have answers := p.answers
  rw [rest] at answers
  exact answers

theorem next (rest : List Char) : nextLetter? (p.text ++ rest) = some (p.initial, p.behind rest) :=
  nextLetter?_iff.2 ⟨p.passed, p.text_append rest, p.skipped, p.letter⟩

variable {p}

theorem read {rest : List Char} (stops : p.number.Stops p.form rest) :
    readNumber (upper p.initial) p.form (p.behind rest) = .number p.number.value rest :=
  (readNumber_iff p.form_ne_rest).2 ⟨p.blanks, p.number, rfl, p.blank, p.answers, stops, rfl⟩

end Piece

/-- Pieces one after another. -/
def spread (ps : List Piece) : List Char := ps.flatMap Piece.text

/-- A text is these pieces, each number taken as far as it goes, and blanks. -/
inductive Reads : List Char → List Piece → Prop
  | done {s : List Char} : (∀ c ∈ s, isBlank c = true) → Reads s []
  | piece {p : Piece} {ps : List Piece} {rest : List Char} :
      p.number.Stops p.form rest → Reads rest ps → Reads (p.text ++ rest) (p :: ps)

/-- A text of pieces is cut into their words. -/
theorem Reads.wordsOf {ps : List Piece} (h : Reads s ps) :
    wordsOf s = .ok (ps.map Piece.word) := by
  induction h with
  | @done s blank =>
    rw [Gcode.wordsOf]
    split
    next => rw [if_pos (List.all_eq_true.2 blank)]; rfl
    next found =>
      rw [nextLetter?_blank blank] at found
      cases found
  | @piece p ps rest stops _ ih =>
    rw [wordsOf_of_number (p.next rest) p.asks (Piece.read stops), ih]
    rfl

/-- A text that is cut into words, none of them an O word, is one of pieces. -/
theorem reads_of_wordsOf {s : List Char} : ∀ {words : List Word}, (∀ w ∈ words, w.raw ≠ 'O') →
    wordsOf s = .ok words → ∃ ps, Reads s ps ∧ ps.map Piece.word = words := by
  fun_induction wordsOf s with
  | case1 s ends blank =>
    rintro words - h
    cases h
    exact ⟨[], .done (List.all_eq_true.1 blank), rfl⟩
  | case6 s c behind found raw form asks value rest read shorter more others =>
    rename_i ih
    intro words named h
    cases h
    obtain ⟨ps, reads, rfl⟩ := ih (fun w mem => named w (List.mem_cons_of_mem _ mem)) others
    obtain ⟨passed, rfl, skipped, letter⟩ := nextLetter?_iff.1 found
    have notRest : form ≠ .rest := by
      rintro rfl
      exact named _ List.mem_cons_self (eq_of_formOf?_rest asks)
    obtain ⟨blanks, n, rfl, blank, answers, stops, rfl⟩ := (readNumber_iff notRest).1 read
    let p : Piece := ⟨passed, c, form, blanks, n, skipped, letter, asks, blank, answers⟩
    have text : p.text ++ rest = passed ++ c :: (blanks ++ (n.text ++ rest)) := p.text_append rest
    exact ⟨p :: ps, text ▸ .piece stops reads, rfl⟩
  | _ =>
    intro words named h
    cases h

/-! ## One reading only -/

theorem pointed_injective {fraction fraction' : Option (List Char)}
    (h : Spelling.pointed fraction = Spelling.pointed fraction') : fraction = fraction' := by
  cases fraction <;> cases fraction' <;> cases h <;> rfl

/-- The text of a spelling spells nothing else. -/
theorem text_injective {n n' : Spelling} (h : n.text = n'.text) : n = n' := by
  have sign : n.negative = n'.negative := by
    rw [Spelling.text, Spelling.text] at h
    cases minus : n.negative <;> cases minus' : n'.negative
    · rfl
    · rw [minus, minus'] at h
      exact absurd ((List.append_nil _).trans h) (n.magnitude_append_ne [] n'.magnitude)
    · rw [minus, minus'] at h
      exact absurd ((List.append_nil _).trans h.symm) (n'.magnitude_append_ne [] n.magnitude)
    · rfl
  have magnitude : n.magnitude = n'.magnitude := by
    rw [Spelling.text, Spelling.text, sign] at h
    split at h
    · exact (List.cons.inj h).2
    · exact h
  have parts := spanDigits_magnitude n fun _ => .nil
  rw [magnitude, spanDigits_magnitude n' fun _ => .nil, List.append_nil, List.append_nil] at parts
  obtain ⟨whole, behind⟩ := Prod.mk.inj parts
  have fraction := pointed_injective behind
  obtain ⟨negative, _, _, _, _⟩ := n
  obtain ⟨negative', _, _, _, _⟩ := n'
  obtain rfl : negative = negative' := sign
  cases whole
  cases fraction
  rfl

/-- A text begins with one piece only. -/
theorem Piece.unique {p p' : Piece} {rest rest' : List Char} (h : p.text ++ rest = p'.text ++ rest')
    (stops : p.number.Stops p.form rest) (stops' : p'.number.Stops p'.form rest') :
    p = p' ∧ rest = rest' := by
  have next := p.next rest
  rw [h, p'.next rest', Option.some.injEq, Prod.mk.injEq] at next
  obtain ⟨initial, behind⟩ := next
  have passed : p.passed = p'.passed := by
    rw [p.text_append, p'.text_append, initial, behind] at h
    exact List.append_cancel_right h
  have form : p.form = p'.form := by
    have asks := p.asks
    rw [← initial, p'.asks] at asks
    exact (Option.some.inj asks).symm
  have same : rest = rest' := by
    have read := p.read stops
    rw [← initial, ← behind, form, p'.read stops'] at read
    exact (Reading.number.inj read).2.symm
  subst same
  have numbers : p.number.text ++ rest = p'.number.text ++ rest := by
    rw [← p.number.dropWhile_blanks p.blank rest, ← p'.number.dropWhile_blanks p'.blank rest]
    exact congrArg (List.dropWhile isBlank) behind.symm
  have number : p.number = p'.number := text_injective (List.append_cancel_right numbers)
  have blanks : p.blanks = p'.blanks := by
    rw [Piece.behind, Piece.behind, number] at behind
    exact (List.append_cancel_right behind).symm
  exact ⟨Piece.ext passed initial.symm form blanks number, rfl⟩

theorem Piece.not_blank (p : Piece) (rest : List Char) :
    ¬ ∀ c ∈ p.text ++ rest, isBlank c = true := by
  intro blank
  have letter := p.letter
  rw [isWordLetter_of_isBlank (blank _ (by simp [Piece.text]))] at letter
  cases letter

/-- A text is read in one way only. -/
theorem Reads.unique {ps ps' : List Piece} (h : Reads s ps) (h' : Reads s ps') : ps = ps' := by
  induction h generalizing ps' with
  | done blank =>
    cases h' with
    | done => rfl
    | @piece p ps rest => exact absurd blank (p.not_blank rest)
  | @piece p ps rest stops _ ih =>
    generalize text : p.text ++ rest = t at h'
    cases h' with
    | done blank => exact absurd (text ▸ blank) (p.not_blank rest)
    | @piece p' ps' rest' stops' reads' =>
      obtain ⟨rfl, rfl⟩ := Piece.unique text stops stops'
      rw [ih reads']

/-! ## Words and blanks only -/

/-- Where words follow, with blanks between them, a number has come to its end. -/
theorem Ends.spread {ps : List Piece} (plain : ∀ p ∈ ps, p.Plain) : Ends (spread ps) := by
  cases ps with
  | nil => exact .nil
  | cons p more =>
    rw [Gcode.spread, List.flatMap_cons, p.text_append]
    cases passed : p.passed with
    | nil => exact .of_isWordLetter p.letter _
    | cons c rest =>
      have blank : isBlank c = true := plain p List.mem_cons_self c (passed ▸ List.mem_cons_self)
      refine .cons ?_ (Bool.eq_false_iff.2 fun digit => ?_) _
      · rintro rfl
        exact absurd blank (by decide)
      · rw [isBlank_of_isDigit digit] at blank
        cases blank

/-- Words with blanks between them are read as they stand. -/
theorem reads_spread {ps : List Piece} (plain : ∀ p ∈ ps, p.Plain) : Reads (spread ps) ps := by
  induction ps with
  | nil => exact .done nofun
  | cons p more ih =>
    have behind : ∀ p ∈ more, p.Plain := fun p mem => plain p (List.mem_cons_of_mem _ mem)
    exact .piece ((Ends.spread behind).stops _ _) (ih behind)

/-- Behind the last piece only blanks are left. -/
theorem Reads.spread {ps : List Piece} (h : Reads s ps) :
    ∃ tail, s = Gcode.spread ps ++ tail ∧ ∀ c ∈ tail, isBlank c = true := by
  induction h with
  | done blank => exact ⟨_, rfl, blank⟩
  | piece _ _ ih =>
    obtain ⟨tail, text, blank⟩ := ih
    exact ⟨tail, by rw [text, Gcode.spread, Gcode.spread, List.flatMap_cons, List.append_assoc], blank⟩

/-! ## Lines -/

/-- What is left of a text without its comments and the blanks around it. -/
def code (text : List Char) : List Char := trim (removeComments text)

theorem isBlank_of_getLast?_code (text : List Char) :
    ∀ c ∈ (code text).getLast?, isBlank c = false := by
  intro c mem
  have last := List.head?_dropWhile_not isBlank ((removeComments text).dropWhile isBlank).reverse
  rw [code, trim, trimWith, List.getLast?_reverse] at mem
  rw [Option.mem_def.1 mem] at last
  simpa using last

/-- Behind the last piece of a line nothing is left. -/
theorem spread_of_reads_code {text : List Char} {ps : List Piece} (h : Reads (code text) ps) :
    code text = spread ps := by
  obtain ⟨tail, parts, blank⟩ := h.spread
  rcases List.eq_nil_or_concat tail with rfl | ⟨before, c, rfl⟩
  · rw [parts, List.append_nil]
  · have last := isBlank_of_getLast?_code text c (by rw [parts]; simp)
    rw [blank c (by simp)] at last
    cases last

theorem parseLine_ok_iff {line : Bytes} {words : List Word} :
    parseLine line = .ok (.ok words) ↔
      ∃ text, Utf8.decode? line = some text ∧ wordsOf (code text) = .ok words := by
  rw [parseLine]
  cases decoded : Utf8.decode? line with
  | none => simp
  | some text =>
    simp only [parseText, Option.some.injEq, exists_eq_left']
    rw [← code]
    cases wordsOf (code text) with
    | ok more => simp
    | error stop => cases stop <;> simp

/-- Which lines are accepted, and what is passed over in them.  A line is accepted with words none of
which is an O word exactly if its text, without comments and the blanks around it, is made of pieces
with these words, one after another to the end: each number is taken as far as it goes, and in front
of each letter anything may be passed over that is no letter and ends no line.  A line is made of its
pieces in one way, so an accepted line is words and blanks only exactly if no piece of it passes over
anything but blanks.  What is not accepted is refused, or holds an obstacle. -/
theorem accepted_iff_pieces {line : Bytes} {words : List Word} (named : ∀ w ∈ words, w.raw ≠ 'O') :
    (parseLine line = .ok (.ok words) ↔
      ∃ text, Utf8.decode? line = some text ∧
        ∃! ps, Reads (code text) ps ∧ ps.map Piece.word = words) ∧
    (∀ text ps, Utf8.decode? line = some text → Reads (code text) ps →
      code text = spread ps ∧
        ((∃ ws, code text = spread ws ∧ ∀ w ∈ ws, w.Plain) ↔ ∀ p ∈ ps, p.Plain)) ∧
    ∀ fault, parseLine line = .error fault →
      ∃ text, Utf8.decode? line = some text ∧ Obstacle (code text) fault := by
  refine ⟨?_, fun text ps _ reads => ⟨spread_of_reads_code reads, ?_, ?_⟩, fun _ => parseLine_fault⟩
  · rw [parseLine_ok_iff]
    refine exists_congr fun text => and_congr_right fun _ => ⟨fun cut => ?_, ?_⟩
    · obtain ⟨ps, reads, same⟩ := reads_of_wordsOf named cut
      exact ⟨ps, ⟨reads, same⟩, fun ps' other => other.1.unique reads⟩
    · rintro ⟨ps, ⟨reads, rfl⟩, -⟩
      exact reads.wordsOf
  · rintro ⟨ws, text, plain⟩
    rwa [reads.unique (text ▸ reads_spread plain)]
  · exact fun plain => ⟨ps, spread_of_reads_code reads, plain⟩

/-- The pieces of `X1.2.3 Y4`: the number behind the X stops at its second point. -/
def twoPoints : List Piece :=
  [{ passed := [], initial := 'X', form := .decimal, blanks := [],
      number := ⟨false, ['1'], some ['2'], by decide, by decide⟩,
      skipped := nofun, letter := by decide, asks := by decide, blank := nofun,
      answers := trivial },
    { passed := ['.', '3', ' '], initial := 'Y', form := .decimal, blanks := [],
      number := ⟨false, ['4'], none, by decide, by decide⟩,
      skipped := by
        have all : ['.', '3', ' '].all (fun c => !isWordLetter c && c ≠ '\n') = true := by decide
        simpa using all
      letter := by decide, asks := by decide, blank := nofun, answers := trivial }]

theorem reads_twoPoints : Reads (code "X1.2.3 Y4".toList) twoPoints := by
  have text : code "X1.2.3 Y4".toList = spread twoPoints := by decide +kernel
  have stop : NoDigit ['.', '3', ' ', 'Y', '4'] := by
    intro c mem
    obtain rfl : '.' = c := by simpa using mem
    decide
  rw [text]
  have last : Reads (twoPoints[1].text ++ []) [twoPoints[1]] :=
    .piece (Ends.nil.stops _ _) (.done nofun)
  exact .piece ⟨stop, nofun⟩ last

/-- A numeral with two points is read as two numbers, and the second is passed over. -/
theorem accepted_iff_pieces_two_points :
    (∀ w ∈ twoPoints.map Piece.word, w.raw ≠ 'O') ∧
      parseLine (.ofText "X1.2.3 Y4") = .ok (.ok (twoPoints.map Piece.word)) := by
  have named : ∀ w ∈ twoPoints.map Piece.word, w.raw ≠ 'O' := by decide
  refine ⟨named, (accepted_iff_pieces named).1.2 ⟨_, Utf8.decode?_ofText _, twoPoints, ?_⟩⟩
  exact ⟨⟨reads_twoPoints, rfl⟩, fun ps other => other.1.unique reads_twoPoints⟩

/-- The line `X1.2.3 Y4` is accepted as X1.2 and Y4, and it is not words and blanks only. -/
theorem stray_text_passed_over :
    parseLine (.ofText "X1.2.3 Y4") =
        .ok (.ok [⟨.x, 'X', .decimal false 12 (-1)⟩, ⟨.y, 'Y', .decimal false 4 0⟩]) ∧
      ¬ ∃ ws, code "X1.2.3 Y4".toList = spread ws ∧ ∀ w ∈ ws, w.Plain := by
  constructor
  · exact parseLine_ok_iff.2 ⟨_, Utf8.decode?_ofText _, reads_twoPoints.wordsOf⟩
  · rintro ⟨ws, text, plain⟩
    obtain rfl : ws = twoPoints := (text ▸ reads_spread plain).unique reads_twoPoints
    have blank := plain _ (List.mem_cons_of_mem _ List.mem_cons_self) '.' List.mem_cons_self
    exact absurd blank (by decide)

end Gcode

end GcodeSender
