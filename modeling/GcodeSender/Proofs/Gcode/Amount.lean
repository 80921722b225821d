/-
# `GcodeSender.Proofs.Gcode.Amount` — which numbers of a jog are read back

A jog writes its numbers in their own text, and the text of a machine number
may have an exponent, which no word of G-code has.  The amounts that are
written without one are *legible*: each is the spelling of a numeral, and the
numeral is rounded to the amount and to nothing else.

    whole     n         some machine number is n
    real      x         x = 0,  or  10⁻⁴ ≤ |x| < 10¹⁶

The bounds are those of the layout.  A number below `10 ^ 16` is not rounded up
to it when its digits are chosen, for `10 ^ 16` is itself a multiple of the
last bit (`Canonical.upper_lt`); and one below `10 ^ -4` is not rounded up to
that, for the number nearest to `10 ^ -4` is above it.

Of every amount the text has one of four shapes (`Shape`).

    plain     d…d.d…d        legible, or a whole number that no machine number is
    small     d.d…de-dd      below 10⁻⁴: a numeral that is one or more, and a second one
    large     d.d…de+dd      from 10¹⁶
    named     inf, nan
-/
import GcodeSender.Proofs.Decimal.Exponent
import GcodeSender.Proofs.Gcode.Rendering

namespace GcodeSender

open Text Decimal Decimal.Binary64

/-! ## Spellings -/

namespace Decimal

variable {m : ℕ} {e : ℤ}

/-- A number with a point is spelled out, with its sign. -/
theorem exists_spelling_of_positional {text ds whole fraction : List Char} {point : ℤ}
    (h : Positional text ds point whole fraction) (negative : Bool) :
    ∃ n : Spelling, (signed negative text).toList = n.text ∧
      n.value = .decimal negative (natOfDigits (whole ++ fraction)) (-fraction.length) := by
  obtain ⟨rfl, digits, nonempty, -⟩ := h
  refine ⟨⟨negative, whole, some fraction, digits, nonempty⟩, ?_, rfl⟩
  rw [signed, String.toList_ofList]
  rfl

/-- A number with an exponent is spelled out up to the mark of its exponent. -/
theorem exists_spelling_of_marked {l : Layout} {ds : List Char}
    (digits : ∀ c ∈ ds, isDigit c = true) (nonempty : ds ≠ []) {point : ℤ}
    (marked : ¬ (l.least ≤ point - 1 ∧ point - 1 ≤ l.greatest)) (negative : Bool) :
    ∃ n : Spelling, (signed negative (l.write ds point)).toList = n.text ++ l.exponent (point - 1) ∧
      n.value = .decimal negative (natOfDigits ds) (1 - ds.length) := by
  obtain ⟨d, rest, rfl⟩ := List.exists_cons_of_ne_nil nonempty
  have all : (d :: rest).all isDigit = true := List.all_eq_true.2 digits
  rw [Layout.write, if_neg marked, signed, String.toList_ofList]
  cases rest with
  | nil =>
    refine ⟨⟨negative, [d], none, by simpa using all, by simp⟩, ?_, rfl⟩
    cases negative <;> simp [Spelling.text, Spelling.magnitude, Spelling.pointed]
  | cons d' rest =>
    refine ⟨⟨negative, [d], some (d' :: rest), all, by simp⟩, ?_, ?_⟩
    · cases negative <;> simp [Spelling.text, Spelling.magnitude, Spelling.pointed]
    · simp [Spelling.value]

/-- A number other than zero is written in the significant digits of its shortest decimal. -/
theorem text_of_pos (l : Layout) (negative : Bool) (hm : 0 < m) (e : ℤ) :
    l.text (.finite negative m e) = signed negative (l.write (significant (shortest m e).1)
      ((shortest m e).2 + (digits (shortest m e).1).length)) := by
  rw [Layout.text]
  · rfl
  · exact fun zero => hm.ne' zero

/-- Zero is written with one place, and its sign. -/
theorem text_zero (negative : Bool) (e : ℤ) :
    machineLayout.text (.finite negative 0 e) = signed negative ['0', '.', '0'] := rfl

/-- A machine number that is written without an exponent is spelled out, and read back. -/
theorem exists_spelling_of_float {x : Float} {r : ℚ} (finite : (ofFloat x).toRat? = some r)
    (range : r = 0 ∨ 1 / 10 ^ 4 ≤ |r| ∧ |r| < 10 ^ 16) :
    ∃ n : Spelling, (text x).toList = n.text ∧ n.value.toFloat = x := by
  obtain ⟨negative, m, e, opened, magnitude, -⟩ := toRat?_eq_some finite
  obtain ⟨canonical, -⟩ := ofFloat_eq_finite opened
  rw [← abs_eq_zero, magnitude] at range
  rw [text, opened]
  rcases Nat.eq_zero_or_pos m with rfl | hm
  · refine ⟨⟨negative, ['0'], some ['0'], by decide, by decide⟩, ?_, ?_⟩
    · rw [text_zero, signed, String.toList_ofList]
      rfl
    · exact Numeral.toFloat_zero opened _
  · have positive : (0 : ℚ) < m * 2 ^ e := mul_pos (Nat.cast_pos.2 hm) (by positivity)
    obtain ⟨least, less⟩ := range.resolve_left positive.ne'
    obtain ⟨reach, inRange⟩ := shortest_unmarked canonical hm
      (by simpa using least) (by exact_mod_cast less)
    obtain ⟨whole, fraction, positional⟩ := write_positional (l := machineLayout) rfl
      (fun _ mem => isDigit_of_mem_significant mem) inRange.1 inRange.2
    obtain ⟨n, text, value⟩ := exists_spelling_of_positional positional negative
    refine ⟨n, ?_, ?_⟩
    · rw [text_of_pos machineLayout negative hm]
      exact text
    · rw [value]
      refine Numeral.toFloat_of_reach opened hm ?_
      rw [positional.value, significant_value]
      exact reach

/-- A whole number is spelled out in its digits. -/
theorem exists_spelling_of_whole (n : ℤ) :
    ∃ s : Spelling, (signed (n < 0) (digits n.natAbs)).toList = s.text ∧
      s.value = .decimal (n < 0) n.natAbs 0 := by
  have nonempty : digits n.natAbs ≠ [] := List.length_pos_iff.1 (length_digits_pos _)
  have all : (digits n.natAbs).all isDigit = true :=
    List.all_eq_true.2 fun c mem => isDigit_of_mem_digits mem
  refine ⟨⟨n < 0, digits n.natAbs, none, by simpa using all, by simpa using nonempty⟩, ?_, ?_⟩
  · simp [signed, Spelling.text, Spelling.magnitude, Spelling.pointed]
  · simp [Spelling.value, natOfDigits_digits]

end Decimal

/-! ## Amounts -/

namespace Gcode.Amount

/-- Is the machine number exactly the amount? -/
def Is : Amount → Float → Prop
  | .whole n, y => (ofFloat y).toRat? = some (n : ℚ)
  | .real x, y => y = x

/-- Is the amount written without an exponent, and is there a machine number for it? -/
def Legible : Amount → Prop
  | .whole n => ∃ y, (ofFloat y).toRat? = some (n : ℚ)
  | .real x => ∃ r, (ofFloat x).toRat? = some r ∧ (r = 0 ∨ 1 / 10 ^ 4 ≤ |r| ∧ |r| < 10 ^ 16)

/-- A whole number that some machine number is, is read as that number. -/
theorem is_whole {n : ℤ} {y : Float} (h : (ofFloat y).toRat? = some (n : ℚ)) :
    Is (.whole n) (Numeral.decimal (n < 0) n.natAbs 0).toFloat := by
  obtain ⟨negative, m, e, opened, magnitude, signed⟩ := toRat?_eq_some h
  rw [Is]
  rcases Nat.eq_zero_or_pos m with rfl | hm
  · obtain rfl : n = 0 := by simpa using signed
    have opened : ofFloat 0 = .finite false 0 (-1074) := by decide +kernel
    rw [decide_eq_false (by decide), Int.natAbs_zero, Numeral.toFloat_zero opened, opened]
    simp [toRat?]
  · have positive : (0 : ℚ) < m * 2 ^ e := mul_pos (Nat.cast_pos.2 hm) (by positivity)
    have sign : decide (n < 0) = negative := by
      cases negative with
      | true =>
        refine decide_eq_true ?_
        have : (n : ℚ) < 0 := by rw [signed, if_pos rfl]; linarith
        exact_mod_cast this
      | false =>
        refine decide_eq_false ?_
        have : (0 : ℚ) < n := by rw [signed, if_neg Bool.false_ne_true]; linarith
        have : 0 < n := by exact_mod_cast this
        omega
    have own : Reach m e (n.natAbs * 10 ^ (0 : ℤ)) := by
      rw [zpow_zero, mul_one, Nat.cast_natAbs, Int.cast_abs, magnitude]
      exact .self m e
    rw [sign, Numeral.toFloat_of_reach opened hm own]
    exact h

/-- The shapes of the text of an amount. -/
inductive Shape (a : Amount) : Prop
  | plain (n : Spelling) : a.text.toList = n.text → (a.Is n.value.toFloat ↔ a.Legible) → Shape a
  | small (n n' : Spelling) : a.text.toList = n.text ++ 'e' :: n'.text →
      ¬ a.Is n.value.toFloat → ¬ a.Legible → Shape a
  | large (n : Spelling) (ds : List Char) : a.text.toList = n.text ++ 'e' :: '+' :: ds →
      ds ≠ [] → (∀ c ∈ ds, isDigit c = true) → ¬ a.Legible → Shape a
  | named (negative : Bool) (name : List Char) :
      a.text.toList = (if negative then ['-'] else []) ++ name →
      name = ['i', 'n', 'f'] ∨ name = ['n', 'a', 'n'] → ¬ a.Legible → Shape a

/-- The digits of an exponent. -/
theorem exponent_digits (l : Layout) (e : ℤ) :
    padLeft l.exponentDigits (digits e.natAbs) ≠ [] ∧
      ∀ c ∈ padLeft l.exponentDigits (digits e.natAbs), isDigit c = true := by
  refine ⟨fun empty => ?_, fun c mem => ?_⟩
  · have none := (List.append_eq_nil_iff.1 empty).2
    exact (length_digits_pos _).ne' (List.length_eq_zero_iff.2 none)
  · exact (List.mem_append.1 mem).elim isDigit_of_mem_zeros isDigit_of_mem_digits

/-- A finite number of the machine is legible where its magnitude lets it be. -/
theorem legible_real_iff {x : Float} {negative : Bool} {m : ℕ} {e : ℤ}
    (opened : ofFloat x = .finite negative m e) :
    Legible (.real x) ↔
      m = 0 ∨ (10 : ℚ) ^ (-4 : ℤ) ≤ m * 2 ^ e ∧ (m * 2 ^ e : ℚ) < 10 ^ (16 : ℤ) := by
  obtain ⟨r, finite⟩ : ∃ r, (ofFloat x).toRat? = some r := by
    rw [opened]
    exact ⟨_, rfl⟩
  obtain ⟨_, _, _, same, magnitude, -⟩ := toRat?_eq_some finite
  rw [opened] at same
  cases same
  have power : (2 : ℚ) ^ e ≠ 0 := by positivity
  have zero : r = 0 ↔ m = 0 := by
    rw [← abs_eq_zero, magnitude, mul_eq_zero, or_iff_left power, Nat.cast_eq_zero]
  have lower : (1 : ℚ) / 10 ^ 4 = 10 ^ (-4 : ℤ) := by norm_num
  have upper : (10 : ℚ) ^ 16 = 10 ^ (16 : ℤ) := by norm_num
  rw [Legible, finite, ← zero, ← lower, ← upper, ← magnitude]
  constructor
  · rintro ⟨_, same, range⟩
    cases same
    exact range
  · exact fun range => ⟨r, rfl, range⟩

theorem shape_of_finite {x : Float} {negative : Bool} {m : ℕ} {e : ℤ}
    (opened : ofFloat x = .finite negative m e) : Shape (.real x) := by
  obtain ⟨canonical, -⟩ := ofFloat_eq_finite opened
  by_cases range : Legible (.real x)
  · obtain ⟨r, finite, range'⟩ := range
    obtain ⟨n, text, read⟩ := exists_spelling_of_float finite range'
    exact .plain n text (iff_of_true read ⟨r, finite, range'⟩)
  · obtain ⟨nonzero, outside⟩ := not_or.1 (mt (legible_real_iff opened).2 range)
    have hm : 0 < m := Nat.pos_of_ne_zero nonzero
    have text : (Amount.real x).text
        = signed negative (machineLayout.write (significant (shortest m e).1)
            ((shortest m e).2 + (digits (shortest m e).1).length)) := by
      rw [Amount.text, Decimal.text, opened, text_of_pos machineLayout negative hm]
    rcases lt_or_ge ((m : ℚ) * 2 ^ e) (10 ^ (-4 : ℤ)) with below | above
    · obtain ⟨hc, exponent⟩ := shortest_small opened hm below
      obtain ⟨n, written, value⟩ := exists_spelling_of_marked
        (fun _ mem => isDigit_of_mem_significant mem) (significant_ne_nil hc)
        (fun inside : machineLayout.least ≤ _ ∧ _ => absurd inside.1 (not_le.2 exponent)) negative
      obtain ⟨nonempty, digits⟩ := exponent_digits machineLayout
        ((shortest m e).2 + (digits (shortest m e).1).length - 1)
      refine .small n ⟨true, _, none, by simpa using digits, by simpa using nonempty⟩ ?_ ?_ range
      · rw [text, written, Layout.exponent, if_pos (by omega)]
        simp [Spelling.text, Spelling.magnitude, Spelling.pointed]
      · rw [value]
        refine Numeral.toFloat_ne_of_one_le opened (below.trans (by norm_num)) ?_
        exact one_le_significant hc
    · have large : (10 : ℚ) ^ (16 : ℤ) ≤ m * 2 ^ e := not_lt.1 fun less => outside ⟨above, less⟩
      obtain ⟨hc, exponent⟩ := shortest_large canonical hm large
      obtain ⟨n, written, -⟩ := exists_spelling_of_marked
        (fun _ mem => isDigit_of_mem_significant mem) (significant_ne_nil hc)
        (fun inside : _ ∧ _ ≤ machineLayout.greatest => absurd inside.2 (not_le.2 exponent))
        negative
      obtain ⟨nonempty, digits⟩ := exponent_digits machineLayout
        ((shortest m e).2 + (digits (shortest m e).1).length - 1)
      refine .large n _ ?_ nonempty digits range
      rw [text, written, Layout.exponent, if_neg (by omega)]

/-- Every amount has a shape. -/
theorem shape (a : Amount) : a.Shape := by
  cases a with
  | whole n =>
    obtain ⟨s, text, value⟩ := exists_spelling_of_whole n
    refine .plain s text ⟨fun is => ⟨_, is⟩, fun ⟨y, h⟩ => ?_⟩
    rw [value]
    exact is_whole h
  | real x =>
    cases opened : ofFloat x with
    | finite negative m e => exact shape_of_finite opened
    | infinite negative =>
      refine .named negative _ ?_ (.inl rfl) ?_
      · rw [Amount.text, Decimal.text, opened]
        cases negative <;> rfl
      · rintro ⟨r, finite, -⟩
        rw [opened] at finite
        cases finite
    | undefined =>
      refine .named false _ ?_ (.inr rfl) ?_
      · rw [Amount.text, Decimal.text, opened]
        rfl
      · rintro ⟨r, finite, -⟩
        rw [opened] at finite
        cases finite

end Gcode.Amount

end GcodeSender
