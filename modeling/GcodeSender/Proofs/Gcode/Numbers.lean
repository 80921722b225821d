/-
# `GcodeSender.Proofs.Gcode.Numbers` — numbers spelled out, and taken off a text

A number that stands by itself is read as the number it spells (`read?_text`).
Behind a letter it is taken off the head of a text, behind any blanks, as far as
it goes: exactly the texts that begin with a spelling of the letter's form are
read, up to where the spelling stops (`readNumber_iff`).

    Spelling   [-] digits [. [digits]]   or   [-] . digits
    Fits       which spellings the form behind one of the letters that count admits
    Answers    the same for every form; only an O asks for the rest of the line
    Stops      a number takes all that belongs to it; where it stops
    Ends       where every number stops

Digits are those of any script.  A point with no digit behind it belongs to a
decimal number and to no code: of `G90.` only `G90` is taken, of `G90.12` only
`G90.1`.
-/
import GcodeSender.Proofs.Gcode.Comments
import GcodeSender.Proofs.Gcode.Reading
import GcodeSender.Proofs.Text.Encoding
import GcodeSender.Proofs.Text.Wire

namespace GcodeSender

open Text

/-! ## Characters -/

namespace Text

/-- The digits of ASCII, and three stretches in which those of all other scripts lie. -/
theorem digitZeros_place : ∀ z ∈ digitZeros, z = 0x30 ∨ 0x180 ≤ z ∧ z + 10 ≤ 0x1680 ∨
    0x1680 < z ∧ z + 10 ≤ 0x2000 ∨ 0x3000 < z := by decide

theorem toNat_of_isDigit {c : Char} (h : isDigit c = true) :
    0x30 ≤ c.toNat ∧ c.toNat < 0x3A ∨ 0x180 ≤ c.toNat ∧ c.toNat < 0x1680 ∨
      0x1680 < c.toNat ∧ c.toNat < 0x2000 ∨ 0x3000 < c.toNat := by
  rw [isDigit, digitValue?, Option.isSome_map] at h
  obtain ⟨z, found⟩ := Option.isSome_iff_exists.1 h
  have row := List.find?_some found
  simp only [Bool.and_eq_true, decide_eq_true_eq] at row
  have place := digitZeros_place z (List.mem_of_find?_eq_some found)
  omega

theorem isBlank_of_isDigit {c : Char} (h : isDigit c = true) : isBlank c = false := by
  have place := toNat_of_isDigit h
  refine Bool.eq_false_iff.2 fun blank => ?_
  simp only [isBlank, Bool.or_eq_true, Bool.and_eq_true, decide_eq_true_eq, beq_iff_eq] at blank
  omega

/-- Trimming takes off the blanks around a text that begins and ends with none. -/
theorem trim_append {lead core tail : List Char} (front : ∀ c ∈ lead, isBlank c = true)
    (behind : ∀ c ∈ tail, isBlank c = true) (first : ∀ c ∈ core.head?, isBlank c = false)
    (last : ∀ c ∈ core.getLast?, isBlank c = false) : trim (lead ++ (core ++ tail)) = core :=
  Bytes.trimWith_around front behind first last

end Text

/-! ## Numbers spelled out -/

/-- A number as it is spelled: a minus or none, digits, and digits behind a point. -/
structure Spelling where
  negative : Bool
  whole : List Char
  fraction : Option (List Char)
  digits : (whole ++ fraction.getD []).all isDigit = true
  nonempty : whole ++ fraction.getD [] ≠ []

namespace Spelling

/-- The point and what stands behind it. -/
def pointed : Option (List Char) → List Char
  | none => []
  | some ds => '.' :: ds

/-- The spelling without its sign. -/
def magnitude (n : Spelling) : List Char := n.whole ++ pointed n.fraction

/-- The spelling as a text. -/
def text (n : Spelling) : List Char := if n.negative then '-' :: n.magnitude else n.magnitude

/-- The number that is spelled. -/
def value (n : Spelling) : Numeral :=
  .decimal n.negative (natOfDigits (n.whole ++ n.fraction.getD [])) (-(n.fraction.getD []).length)

/-- May the spelling stand behind one of the letters that count, where it asks for this form? -/
def Fits (n : Spelling) : Gcode.Form → Prop
  | .decimal => True
  | .code => n.negative = false ∧ n.whole ≠ [] ∧ ∀ ds ∈ n.fraction, ds.length = 1
  | _ => False

variable (n : Spelling)

theorem isDigit_of_mem_whole {c : Char} (mem : c ∈ n.whole) : isDigit c = true :=
  List.all_eq_true.1 n.digits c (List.mem_append_left _ mem)

theorem isDigit_of_mem_fraction {ds : List Char} (h : n.fraction = some ds) {c : Char}
    (mem : c ∈ ds) : isDigit c = true := by
  refine List.all_eq_true.1 n.digits c (List.mem_append_right _ ?_)
  rw [h]
  exact mem

theorem mem_magnitude {c : Char} (mem : c ∈ n.magnitude) : c = '.' ∨ isDigit c = true := by
  rcases List.mem_append.1 mem with inWhole | inFraction
  · exact .inr (n.isDigit_of_mem_whole inWhole)
  · cases h : n.fraction with
    | none => rw [h] at inFraction; cases inFraction
    | some ds =>
      rw [h] at inFraction
      rcases List.mem_cons.1 inFraction with rfl | inDigits
      · exact .inl rfl
      · exact .inr (n.isDigit_of_mem_fraction h inDigits)

theorem mem_text {c : Char} (mem : c ∈ n.text) : c = '-' ∨ c = '.' ∨ isDigit c = true := by
  rw [text] at mem
  split at mem
  · rcases List.mem_cons.1 mem with rfl | mem
    · exact .inl rfl
    · exact .inr (n.mem_magnitude mem)
  · exact .inr (n.mem_magnitude mem)

theorem isBlank_of_mem_text {c : Char} (mem : c ∈ n.text) : isBlank c = false := by
  rcases n.mem_text mem with rfl | rfl | digit
  · rfl
  · rfl
  · exact isBlank_of_isDigit digit

theorem magnitude_ne_nil : n.magnitude ≠ [] := by
  intro empty
  obtain ⟨noWhole, noPoint⟩ := List.append_eq_nil_iff.1 empty
  refine n.nonempty ?_
  cases h : n.fraction with
  | none => rw [noWhole]; rfl
  | some ds => rw [h] at noPoint; cases noPoint

theorem text_ne_nil : n.text ≠ [] := by
  rw [text]
  split
  · exact List.cons_ne_nil _ _
  · exact n.magnitude_ne_nil

/-- A spelling without its sign begins with none. -/
theorem magnitude_append_ne (rest more : List Char) : n.magnitude ++ rest ≠ '-' :: more := by
  obtain ⟨c, cs, magnitude⟩ := List.exists_cons_of_ne_nil n.magnitude_ne_nil
  intro same
  rw [magnitude, List.cons_append, List.cons.injEq] at same
  obtain rfl := same.1
  rcases n.mem_magnitude (magnitude ▸ List.mem_cons_self) with point | digit
  · exact absurd point (by decide)
  · exact absurd digit (by decide)

/-- Blanks come to their end where a spelling begins. -/
theorem dropWhile_blanks {blanks : List Char} (blank : ∀ c ∈ blanks, isBlank c = true)
    (rest : List Char) : (blanks ++ (n.text ++ rest)).dropWhile isBlank = n.text ++ rest := by
  rw [List.dropWhile_append_of_pos blank]
  obtain ⟨c, more, text⟩ := List.exists_cons_of_ne_nil n.text_ne_nil
  have stays : isBlank c = false := n.isBlank_of_mem_text (text ▸ List.mem_cons_self)
  rw [text, List.cons_append, List.dropWhile_cons_of_neg (by simp [stays])]

/-! ### Read by themselves -/

theorem digitRun_append {ds rest : List Char} (digits : ∀ c ∈ ds, isDigit c = true)
    (stop : ∀ c ∈ rest.head?, isDigit c = false ∧ c ≠ '_') :
    Numeral.digitRun (ds ++ rest) = (ds, rest) := by
  induction ds with
  | nil =>
    cases rest with
    | nil => rfl
    | cons c more =>
      have none : isDigit c = false := (stop c rfl).1
      cases more <;> simp [Numeral.digitRun, none]
  | cons d ds ih =>
    have digit : isDigit d = true := digits d List.mem_cons_self
    have behind := ih fun c mem => digits c (List.mem_cons_of_mem _ mem)
    cases more : ds ++ rest with
    | nil =>
      obtain ⟨rfl, rfl⟩ := List.append_eq_nil_iff.1 more
      simp [Numeral.digitRun, digit]
    | cons c after =>
      have next : (c == '_') = false := by
        refine beq_false_of_ne ?_
        rintro rfl
        cases ds with
        | nil =>
          rw [List.nil_append] at more
          exact (stop '_' (by rw [more]; rfl)).2 rfl
        | cons c' ds' =>
          have := digits c' (List.mem_cons_of_mem _ List.mem_cons_self)
          rw [List.cons_append, List.cons.injEq] at more
          rw [more.1] at this
          exact absurd this (by decide)
      rw [more] at behind
      rw [List.cons_append, more, Numeral.digitRun]
      simp [digit, next, behind]

theorem lowerAscii_eq {c : Char} (h : c = '.' ∨ isDigit c = true) : Numeral.lowerAscii c = c := by
  rcases h with rfl | digit
  · rfl
  · have place := toNat_of_isDigit digit
    have notCapital : ¬ (c.val ≥ 'A'.val ∧ c.val ≤ 'Z'.val) := by
      rintro ⟨low, high⟩
      have low : 0x41 ≤ c.toNat := low
      have high : c.toNat ≤ 0x5A := high
      omega
    rw [Numeral.lowerAscii, Char.toLower, dif_neg notCapital]

/-- A spelling is none of the words that stand for a number. -/
theorem map_lowerAscii_ne {c : Char} {word : List Char} (noPoint : c ≠ '.')
    (noDigit : isDigit c = false) : n.magnitude.map Numeral.lowerAscii ≠ c :: word := by
  intro same
  have kept : n.magnitude.map Numeral.lowerAscii = n.magnitude :=
    (List.map_congr_left fun d mem => lowerAscii_eq (n.mem_magnitude mem)).trans (List.map_id _)
  rw [kept] at same
  rcases n.mem_magnitude (same ▸ List.mem_cons_self) with point | digit
  · exact noPoint point
  · rw [noDigit] at digit
    cases digit

theorem fractionPart_pointed :
    Numeral.fractionPart (pointed n.fraction) = (n.fraction.getD [], []) := by
  cases h : n.fraction with
  | none => rfl
  | some ds =>
    have run : Numeral.digitRun (ds ++ []) = (ds, []) :=
      digitRun_append (fun c mem => n.isDigit_of_mem_fraction h mem) (by simp)
    rw [List.append_nil] at run
    exact run

theorem readMagnitude?_magnitude :
    Numeral.readMagnitude? n.negative n.magnitude = some n.value := by
  have whole : Numeral.digitRun n.magnitude = (n.whole, pointed n.fraction) := by
    refine digitRun_append (fun c mem => n.isDigit_of_mem_whole mem) fun c mem => ?_
    cases h : n.fraction with
    | none => rw [h] at mem; cases mem
    | some ds =>
      rw [h] at mem
      obtain rfl : '.' = c := by simpa [pointed] using mem
      decide
  have some : (n.whole ++ n.fraction.getD []).isEmpty = false :=
    List.isEmpty_eq_false_iff.2 n.nonempty
  have noI : ∀ word, n.magnitude.map Numeral.lowerAscii ≠ 'i' :: word := fun _ =>
    n.map_lowerAscii_ne (by decide) (by decide)
  have noN : ∀ word, n.magnitude.map Numeral.lowerAscii ≠ 'n' :: word := fun _ =>
    n.map_lowerAscii_ne (by decide) (by decide)
  simp only [Numeral.readMagnitude?, noI, noN, decide_false, Bool.or_self, Bool.false_eq_true,
    if_false, whole, fractionPart_pointed, Numeral.exponentPart, some, List.isEmpty_nil,
    Bool.not_true, value, Int.zero_sub]

/-- The spelling by itself is read as the number it spells. -/
theorem read?_text : Numeral.read? n.text = some n.value := by
  have trimmed : trim n.text = n.text := by
    have alone : trim ([] ++ (n.text ++ [])) = n.text :=
      trim_append (by simp) (by simp)
        (fun c mem => n.isBlank_of_mem_text (List.mem_of_mem_head? mem))
        (fun c mem => n.isBlank_of_mem_text (List.mem_of_getLast? mem))
    simpa using alone
  have split : Numeral.sign n.text = (n.negative, n.magnitude) := by
    rw [text]
    cases n.negative with
    | true => rfl
    | false =>
      obtain ⟨c, more, magnitude⟩ := List.exists_cons_of_ne_nil n.magnitude_ne_nil
      have first := n.mem_magnitude (magnitude ▸ List.mem_cons_self)
      have noMinus : c ≠ '-' := by rintro rfl; exact absurd first (by decide)
      have noPlus : c ≠ '+' := by rintro rfl; exact absurd first (by decide)
      rw [magnitude]
      simp [Numeral.sign, noMinus, noPlus]
  simp only [Numeral.read?, trimmed, split, n.readMagnitude?_magnitude]

end Spelling

/-! ## Numbers taken off a text -/

namespace Gcode

/-- Does no digit stand at the head of a text? -/
def NoDigit (rest : List Char) : Prop := ∀ c ∈ rest.head?, isDigit c = false

theorem NoDigit.nil : NoDigit [] := by simp [NoDigit]

theorem spanDigits_of_digits {ds rest : List Char} (digits : ∀ c ∈ ds, isDigit c = true)
    (stop : NoDigit rest) : spanDigits (ds ++ rest) = (ds, rest) := by
  rw [spanDigits, List.takeWhile_append_of_pos digits, List.dropWhile_append_of_pos digits]
  cases rest with
  | nil => simp
  | cons c more => simp [stop c rfl]

theorem spanDigits_iff {s ds rest : List Char} :
    spanDigits s = (ds, rest) ↔ s = ds ++ rest ∧ (∀ c ∈ ds, isDigit c = true) ∧ NoDigit rest := by
  constructor
  · intro h
    obtain ⟨rfl, rfl⟩ := Prod.mk.inj h
    refine ⟨(spanDigits_append s).symm, fun c mem => List.all_eq_true.1 List.all_takeWhile c mem,
      fun c mem => ?_⟩
    have head := List.head?_dropWhile_not isDigit s
    rw [Option.mem_def.1 mem] at head
    exact head
  · rintro ⟨rfl, digits, stop⟩
    exact spanDigits_of_digits digits stop

end Gcode

namespace Spelling

open Gcode

/-- May the spelling stand behind a letter that asks for this form? -/
def Answers (n : Spelling) : Form → Prop
  | .decimal => n.Fits .decimal
  | .code => n.Fits .code
  | .digits => n.negative = false ∧ n.fraction = none
  | .whole => n.negative = false ∧ n.fraction = none ∧ n.whole.length ≤ digitLimit ∧
      natOfDigits n.whole < wholeLimit
  | .rest => False

/-- Does nothing that stands behind the spelling belong to the number? -/
def Stops (n : Spelling) : Form → List Char → Prop
  | .decimal, rest => NoDigit rest ∧ (n.fraction = none → '.' ∉ rest.head?)
  | .code, rest => n.fraction = none → NoDigit rest ∧ ('.' ∈ rest.head? → NoDigit rest.tail)
  | _, rest => NoDigit rest

variable {n : Spelling}

theorem answers_of_fits {form : Form} (fits : n.Fits form) : n.Answers form := by
  cases form with
  | decimal | code => exact fits
  | digits | whole | rest => exact fits.elim

theorem text_of_unsigned (unsigned : n.negative = false) : n.text = n.magnitude := by
  rw [text, unsigned]
  rfl

theorem value_of_none (unsigned : n.negative = false) (h : n.fraction = none) :
    n.value = .ofNat (natOfDigits n.whole) := by
  simp [value, unsigned, h, Numeral.ofNat]

theorem whole_ne_nil_of_none (h : n.fraction = none) : n.whole ≠ [] := by
  have some := n.nonempty
  rwa [h, Option.getD_none, List.append_nil] at some

/-- Digits alone. -/
def ofDigits (ds : List Char) (digits : ∀ c ∈ ds, isDigit c = true) (some : ds ≠ []) : Spelling where
  negative := false
  whole := ds
  fraction := none
  digits := List.all_eq_true.2 fun c mem => digits c (by simpa using mem)
  nonempty := by simpa using some

section ofDigits
variable {ds rest : List Char} {digits : ∀ c ∈ ds, isDigit c = true} {some : ds ≠ []}

theorem magnitude_ofDigits : (ofDigits ds digits some).magnitude = ds := List.append_nil ds

theorem value_ofDigits : (ofDigits ds digits some).value = .ofNat (natOfDigits ds) :=
  value_of_none rfl rfl

theorem fits_ofDigits : (ofDigits ds digits some).Fits .code :=
  ⟨rfl, some, fun _ absent => by cases absent⟩

/-- Behind digits alone a code stops where there is neither a digit nor a point with one. -/
theorem stops_ofDigits (stop : NoDigit rest)
    (noFraction : ∀ d more, rest = '.' :: d :: more → isDigit d = false) :
    (ofDigits ds digits some).Stops .code rest := by
  refine fun _ => ⟨stop, fun point d mem => ?_⟩
  cases rest with
  | nil => cases mem
  | cons c behind =>
    obtain rfl : c = '.' := by simpa using point
    cases behind with
    | nil => cases mem
    | cons d' more =>
      obtain rfl : d' = d := by simpa using mem
      exact noFraction d' more rfl

end ofDigits

end Spelling

namespace Gcode

variable {s rest : List Char} {v : Numeral}

theorem NoDigit.pointed {fraction : Option (List Char)} (stop : fraction = none → NoDigit rest) :
    NoDigit (Spelling.pointed fraction ++ rest) := by
  cases fraction with
  | none => exact stop rfl
  | some ds =>
    intro c mem
    obtain rfl : '.' = c := by simpa [Spelling.pointed] using mem
    decide

theorem spanDigits_magnitude (n : Spelling) (stop : n.fraction = none → NoDigit rest) :
    spanDigits (n.magnitude ++ rest) = (n.whole, Spelling.pointed n.fraction ++ rest) := by
  rw [Spelling.magnitude, List.append_assoc]
  exact spanDigits_of_digits (fun c mem => n.isDigit_of_mem_whole mem) (.pointed stop)

/-- A fraction is a point with the digits behind it, or nothing where there is no point. -/
theorem fractionAt_iff {fs : List Char} :
    fractionAt s = (fs, rest) ↔
      ∃ fraction : Option (List Char), s = Spelling.pointed fraction ++ rest ∧
        fs = fraction.getD [] ∧ (∀ c ∈ fs, isDigit c = true) ∧
        (fraction ≠ none → NoDigit rest) ∧ (fraction = none → '.' ∉ rest.head?) := by
  rw [fractionAt.eq_def]
  constructor
  · intro h
    split at h
    next more =>
      obtain ⟨rfl, digits, stop⟩ := spanDigits_iff.1 h
      exact ⟨some fs, rfl, rfl, digits, fun _ => stop, fun absent => by cases absent⟩
    next more notPoint =>
      obtain ⟨rfl, rfl⟩ := Prod.mk.inj h
      refine ⟨none, rfl, rfl, by simp, fun absurd => (absurd rfl).elim, fun _ point => ?_⟩
      cases s with
      | nil => cases point
      | cons c behind =>
        obtain rfl : c = '.' := by simpa using point
        exact notPoint behind rfl
  · rintro ⟨fraction, rfl, rfl, digits, stop, noPoint⟩
    cases fraction with
    | some ds => exact spanDigits_iff.2 ⟨rfl, digits, stop fun absent => by cases absent⟩
    | none =>
      rw [Spelling.pointed, List.nil_append]
      split
      next more => exact absurd rfl (noPoint rfl)
      next => rfl

theorem magnitudeAt?_iff {negative : Bool} :
    magnitudeAt? negative s = some (v, rest) ↔
      ∃ n : Spelling, n.negative = negative ∧ s = n.magnitude ++ rest ∧ n.Stops .decimal rest ∧
        v = n.value := by
  constructor
  · intro h
    cases whole : spanDigits s with | mk ds behind =>
    cases tail : fractionAt behind with | mk fs after =>
    obtain ⟨rfl, digits, stop⟩ := spanDigits_iff.1 whole
    obtain ⟨fraction, rfl, rfl, more, ends, noPoint⟩ := fractionAt_iff.1 tail
    simp only [magnitudeAt?, whole, tail] at h
    split at h
    · cases h
    next some =>
      obtain ⟨rfl, rfl⟩ := Prod.mk.inj (Option.some.inj h)
      have all : (ds ++ fraction.getD []).all isDigit = true :=
        List.all_eq_true.2 fun c mem => (List.mem_append.1 mem).elim (digits c) (more c)
      refine ⟨⟨negative, ds, fraction, all, fun empty => some (List.isEmpty_iff.2 empty)⟩, rfl,
        (List.append_assoc ..).symm, ⟨?_, noPoint⟩, rfl⟩
      cases fraction with
      | none => exact stop
      | some _ => exact ends fun absent => by cases absent
  · rintro ⟨n, rfl, rfl, ⟨stop, noPoint⟩, rfl⟩
    have whole := spanDigits_magnitude n fun _ => stop
    have fraction : fractionAt (Spelling.pointed n.fraction ++ rest) = (n.fraction.getD [], rest) := by
      refine fractionAt_iff.2 ⟨n.fraction, rfl, rfl, fun c mem => ?_, fun _ => stop, noPoint⟩
      exact List.all_eq_true.1 n.digits c (List.mem_append_right _ mem)
    have some : (n.whole ++ n.fraction.getD []).isEmpty = false :=
      List.isEmpty_eq_false_iff.2 n.nonempty
    simp only [magnitudeAt?, whole, fraction, some]
    rfl

/-- What was read as a code is a spelling of one, up to where it stops. -/
theorem spelling_of_codeAt? (h : codeAt? s = some (v, rest)) :
    ∃ n : Spelling, n.Fits .code ∧ s = n.magnitude ++ rest ∧ n.Stops .code rest ∧ v = n.value := by
  cases whole : spanDigits s with | mk ds behind =>
  obtain ⟨rfl, digits, stop⟩ := spanDigits_iff.1 whole
  by_cases empty : ds = []
  · rw [codeAt?, whole, empty] at h
    cases h
  -- Without a fraction the number is its digits.
  have alone (noFraction : ∀ d more, behind = '.' :: d :: more → isDigit d = false)
      (same : some (Numeral.ofNat (natOfDigits ds), behind) = some (v, rest)) :
      ∃ n : Spelling, n.Fits .code ∧ ds ++ behind = n.magnitude ++ rest ∧ n.Stops .code rest ∧
        v = n.value := by
    obtain ⟨rfl, rfl⟩ := Prod.mk.inj (Option.some.inj same)
    exact ⟨.ofDigits ds digits empty, Spelling.fits_ofDigits, by rw [Spelling.magnitude_ofDigits],
      Spelling.stops_ofDigits stop noFraction, Spelling.value_ofDigits.symm⟩
  rw [codeAt?, whole] at h
  split at h
  · cases h
  next ds' d more _ same =>
    obtain ⟨rfl, rfl⟩ := Prod.mk.inj same
    split at h
    next digit =>
      obtain ⟨rfl, rfl⟩ := Prod.mk.inj (Option.some.inj h)
      have all : (ds ++ (some [d]).getD []).all isDigit = true :=
        List.all_eq_true.2 fun c mem => (List.mem_append.1 mem).elim (digits c) fun mem => by
          rwa [List.mem_singleton.1 mem]
      exact ⟨⟨false, ds, some [d], all, by simp⟩, ⟨rfl, empty, by simp⟩,
        by simp [Spelling.magnitude, Spelling.pointed], fun absent => (by cases absent), rfl⟩
    next notDigit =>
      refine alone (fun d' more' same => ?_) h
      obtain ⟨rfl, rfl⟩ : d = d' ∧ more = more' := by simpa using same
      exact Bool.eq_false_iff.2 notDigit
  next ds' behind' _ other same =>
    obtain ⟨rfl, rfl⟩ := Prod.mk.inj same
    exact alone (fun d more same => (other d more same).elim) h

/-- A spelling of a code is read, up to where it stops. -/
theorem codeAt?_of_spelling {n : Spelling} (fits : n.Fits .code) (stops : n.Stops .code rest) :
    codeAt? (n.magnitude ++ rest) = some (n.value, rest) := by
  obtain ⟨unsigned, present, single⟩ := fits
  have span := spanDigits_magnitude n fun absent => (stops absent).1
  cases fraction : n.fraction with
  | none =>
    rw [fraction, Spelling.pointed, List.nil_append] at span
    rw [codeAt?, span, Spelling.value_of_none unsigned fraction]
    split
    next empty => exact absurd (Prod.mk.inj empty).1 present
    next d more _ same =>
      obtain ⟨rfl, rfl⟩ := Prod.mk.inj same
      have noFraction : isDigit d = false := (stops fraction).2 rfl d rfl
      rw [if_neg (Bool.eq_false_iff.1 noFraction)]
    next same =>
      obtain ⟨rfl, rfl⟩ := Prod.mk.inj same
      rfl
  | some ds =>
    obtain ⟨d, rfl⟩ := List.length_eq_one_iff.1 (single ds fraction)
    obtain ⟨c, cs, whole⟩ := List.exists_cons_of_ne_nil present
    have digit : isDigit d = true := n.isDigit_of_mem_fraction fraction (List.mem_singleton_self d)
    rw [codeAt?, span, Spelling.value, unsigned, fraction, whole]
    simp [Spelling.pointed, digit]

theorem wholeAt?_iff {k count : Nat} :
    wholeAt? s = some (k, count, rest) ↔
      ∃ n : Spelling, n.negative = false ∧ n.fraction = none ∧ s = n.magnitude ++ rest ∧
        NoDigit rest ∧ k = natOfDigits n.whole ∧ count = n.whole.length := by
  constructor
  · intro h
    cases whole : spanDigits s with | mk ds behind =>
    obtain ⟨rfl, digits, stop⟩ := spanDigits_iff.1 whole
    rw [wholeAt?, whole] at h
    split at h
    · cases h
    next ds' behind' some same =>
      obtain ⟨rfl, rfl⟩ := Prod.mk.inj same
      cases h
      exact ⟨.ofDigits ds digits fun empty => some empty, rfl, rfl,
        by rw [Spelling.magnitude_ofDigits], stop, rfl, rfl⟩
  · rintro ⟨n, -, fraction, rfl, stop, rfl, rfl⟩
    have span := spanDigits_magnitude n fun _ => stop
    rw [fraction, Spelling.pointed, List.nil_append] at span
    rw [wholeAt?, span]
    split
    next empty => exact absurd (Prod.mk.inj empty).1 (n.whole_ne_nil_of_none fraction)
    next same =>
      obtain ⟨rfl, rfl⟩ := Prod.mk.inj same
      rfl

/-- What was read behind the blanks is a spelling, up to where it stops. -/
theorem spelling_of_readNumber {letter : Char} {form : Form} (named : form ≠ .rest)
    (h : readNumber letter form s = .number v rest) :
    ∃ n : Spelling, s.dropWhile isBlank = n.text ++ rest ∧ n.Answers form ∧ n.Stops form rest ∧
      v = n.value := by
  cases form with
  | rest => exact absurd rfl named
  | decimal =>
    simp only [readNumber] at h
    split at h
    next more minus =>
      split at h
      next value behind found =>
        cases h
        obtain ⟨n, sign, rfl, stops, same⟩ := magnitudeAt?_iff.1 found
        refine ⟨n, ?_, trivial, stops, same⟩
        rw [minus, Spelling.text, sign]
        rfl
      next => cases h
    next =>
      split at h
      next value behind found =>
        cases h
        obtain ⟨n, sign, text, stops, same⟩ := magnitudeAt?_iff.1 found
        exact ⟨n, Spelling.text_of_unsigned sign ▸ text, trivial, stops, same⟩
      next => cases h
  | code =>
    simp only [readNumber] at h
    split at h
    next value behind found =>
      cases h
      obtain ⟨n, fits, text, stops, same⟩ := spelling_of_codeAt? found
      exact ⟨n, Spelling.text_of_unsigned fits.1 ▸ text, fits, stops, same⟩
    next => cases h
  | digits =>
    simp only [readNumber] at h
    split at h
    next value behind found =>
      cases h
      obtain ⟨⟨k, count, behind⟩, read, same⟩ := Option.map_eq_some_iff.1 found
      obtain ⟨rfl, rfl⟩ := Prod.mk.inj same
      obtain ⟨n, sign, fraction, text, stops, rfl, -⟩ := wholeAt?_iff.1 read
      exact ⟨n, Spelling.text_of_unsigned sign ▸ text, ⟨sign, fraction⟩, stops,
        (Spelling.value_of_none sign fraction).symm⟩
    next => cases h
  | whole =>
    simp only [readNumber] at h
    split at h
    · cases h
    next k count behind read =>
      split at h
      · cases h
      next short =>
        split at h
        · cases h
        next inRange =>
          cases h
          obtain ⟨n, sign, fraction, text, stops, rfl, rfl⟩ := wholeAt?_iff.1 read
          exact ⟨n, Spelling.text_of_unsigned sign ▸ text,
            ⟨sign, fraction, Nat.le_of_not_lt short, Nat.lt_of_not_le inRange⟩, stops,
            (Spelling.value_of_none sign fraction).symm⟩

/-- A spelling is read, behind any blanks, up to where it stops. -/
theorem readNumber_of_spelling {letter : Char} {form : Form} (named : form ≠ .rest)
    {blanks : List Char} (blank : ∀ c ∈ blanks, isBlank c = true) {n : Spelling}
    (answers : n.Answers form) (stops : n.Stops form rest) :
    readNumber letter form (blanks ++ (n.text ++ rest)) = .number n.value rest := by
  have start := n.dropWhile_blanks blank rest
  cases form with
  | rest => exact absurd rfl named
  | decimal =>
    have read := magnitudeAt?_iff.2 ⟨n, rfl, rfl, stops, rfl⟩
    simp only [readNumber, start]
    cases sign : n.negative with
    | true =>
      have text : n.text = '-' :: n.magnitude := by rw [Spelling.text, sign]; rfl
      rw [sign] at read
      simp [text, read]
    | false =>
      rw [Spelling.text_of_unsigned sign, ← sign]
      split
      next more minus => exact absurd minus (n.magnitude_append_ne rest more)
      next => rw [read]
  | code =>
    have read := codeAt?_of_spelling answers stops
    simp only [readNumber, start]
    rw [Spelling.text_of_unsigned answers.1, read]
  | digits =>
    obtain ⟨sign, fraction⟩ := answers
    have read := wholeAt?_iff.2 ⟨n, sign, fraction, rfl, stops, rfl, rfl⟩
    simp only [readNumber, start]
    rw [Spelling.text_of_unsigned sign, read, Spelling.value_of_none sign fraction]
    rfl
  | whole =>
    obtain ⟨sign, fraction, short, inRange⟩ := answers
    have read := wholeAt?_iff.2 ⟨n, sign, fraction, rfl, stops, rfl, rfl⟩
    simp only [readNumber, start]
    rw [Spelling.text_of_unsigned sign, read, Spelling.value_of_none sign fraction]
    dsimp only
    rw [if_neg (Nat.not_lt.2 short), if_neg (Nat.not_le.2 inRange)]

/-- A number is read off the text behind a letter exactly if a spelling of the letter's form stands
there, and stops where the rest begins. -/
theorem readNumber_iff {letter : Char} {form : Form} (named : form ≠ .rest) :
    readNumber letter form s = .number v rest ↔
      ∃ (blanks : List Char) (n : Spelling), s = blanks ++ (n.text ++ rest) ∧
        (∀ c ∈ blanks, isBlank c = true) ∧ n.Answers form ∧ n.Stops form rest ∧ v = n.value := by
  constructor
  · intro h
    have blank : ∀ c ∈ s.takeWhile isBlank, isBlank c = true :=
      fun c mem => List.all_eq_true.1 List.all_takeWhile c mem
    have parts : s = s.takeWhile isBlank ++ s.dropWhile isBlank := List.takeWhile_append_dropWhile.symm
    obtain ⟨n, text, answers, stops, value⟩ := spelling_of_readNumber named h
    exact ⟨s.takeWhile isBlank, n, text ▸ parts, blank, answers, stops, value⟩
  · rintro ⟨blanks, n, rfl, blank, answers, stops, rfl⟩
    exact readNumber_of_spelling named blank answers stops

/-! ### Where every number stops -/

/-- Does a text begin so that a number before it has come to its end? -/
def Ends (rest : List Char) : Prop := ∀ c ∈ rest.head?, c ≠ '.' ∧ isDigit c = false

theorem Ends.nil : Ends [] := fun _ mem => nomatch mem

theorem Ends.cons {c : Char} (point : c ≠ '.') (digit : isDigit c = false) (rest : List Char) :
    Ends (c :: rest) := fun c' mem => by
  obtain rfl : c = c' := by simpa using mem
  exact ⟨point, digit⟩

theorem Ends.noDigit (ends : Ends rest) : NoDigit rest := fun c mem => (ends c mem).2

theorem Ends.noPoint (ends : Ends rest) : '.' ∉ rest.head? := fun mem => (ends '.' mem).1 rfl

/-- A number ends before every text that begins with neither a digit nor a point. -/
theorem Ends.stops (ends : Ends rest) (n : Spelling) (form : Form) : n.Stops form rest := by
  cases form with
  | decimal => exact ⟨ends.noDigit, fun _ => ends.noPoint⟩
  | code => exact fun _ => ⟨ends.noDigit, fun point => absurd point ends.noPoint⟩
  | digits | whole | rest => exact ends.noDigit

/-- Behind its letter, and behind blanks, a spelling of the letter's form is read as the number it
spells, and nothing more is taken. -/
theorem readNumber_append (n : Spelling) {form : Form} (fits : n.Fits form) (letter : Char)
    {blanks : List Char} (blank : ∀ c ∈ blanks, isBlank c = true) (ends : Ends rest) :
    readNumber letter form (blanks ++ (n.text ++ rest)) = .number n.value rest := by
  have named : form ≠ .rest := by
    rintro rfl
    exact fits.elim
  exact readNumber_of_spelling named blank (Spelling.answers_of_fits fits) (ends.stops n form)

/-- Where nothing that begins a number follows, no number is taken. -/
theorem magnitudeAt?_of_ends {s : List Char} (ends : Ends s) (negative : Bool) :
    magnitudeAt? negative s = none := by
  have whole : spanDigits s = ([], s) := spanDigits_iff.2 ⟨rfl, by simp, ends.noDigit⟩
  have fraction : fractionAt s = ([], s) :=
    fractionAt_iff.2 ⟨none, rfl, rfl, by simp, fun point => (point rfl).elim, fun _ => ends.noPoint⟩
  simp [magnitudeAt?, whole, fraction]

end Gcode

end GcodeSender
