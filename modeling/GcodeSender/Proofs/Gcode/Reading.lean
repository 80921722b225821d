/-
# `GcodeSender.Proofs.Gcode.Reading` — what stops the reading of a line

A line that is not G-code is refused, and a refusal is an answer.  Reading can
also be stopped by a fault, and this module says by which texts:

    a letter   the dotted capital I or the Kelvin sign, which begin a word and
               belong to none
    a number   more than 308 digits in a row: no more than those write a number
               below 10 ^ 308, which is within the range of the machine

Both are looked for in the text as it is cut: decoded, freed of comments and
trimmed.  The proof follows the cutting.  What stands behind a word is a suffix
of the text, so an obstacle in it is an obstacle in the whole
(`Obstacle.of_suffix`).
-/
import Mathlib
import GcodeSender.Gcode.Line

namespace GcodeSender

namespace Text

/-- Every digit counts for less than ten. -/
theorem digitValue_lt (c : Char) : digitValue c < 10 := by
  rw [digitValue]
  cases h : digitValue? c with
  | none => simp
  | some n => exact digitValue?_lt h

theorem foldl_digits_lt (ds : List Char) (n : Nat) :
    ds.foldl (fun n d => 10 * n + digitValue d) n < (n + 1) * 10 ^ ds.length := by
  induction ds generalizing n with
  | nil => simp
  | cons d rest ih =>
    have room : 10 * n + digitValue d + 1 ≤ 10 * (n + 1) := by
      have := digitValue_lt d
      omega
    calc (d :: rest).foldl (fun n d => 10 * n + digitValue d) n
      _ < (10 * n + digitValue d + 1) * 10 ^ rest.length := ih _
      _ ≤ 10 * (n + 1) * 10 ^ rest.length := Nat.mul_le_mul_right _ room
      _ = (n + 1) * 10 ^ (d :: rest).length := by
        rw [List.length_cons, Nat.pow_succ]
        ac_rfl

/-- A row of digits writes a number with no more digits. -/
theorem natOfDigits_lt (ds : List Char) : natOfDigits ds < 10 ^ ds.length := by
  simpa [natOfDigits] using foldl_digits_lt ds 0

end Text

namespace Gcode

open Text

/-! ## What stands behind a number -/

theorem spanDigits_append (s : List Char) : (spanDigits s).1 ++ (spanDigits s).2 = s :=
  List.takeWhile_append_dropWhile

theorem spanDigits_suffix (s : List Char) : (spanDigits s).2 <:+ s := List.dropWhile_suffix _

theorem fractionAt_suffix (s : List Char) : (fractionAt s).2 <:+ s := by
  rw [fractionAt.eq_def]
  split
  · exact (spanDigits_suffix _).trans (List.suffix_cons _ _)
  · exact List.suffix_refl _

theorem magnitudeAt?_suffix {negative : Bool} {s rest : List Char} {v : Numeral}
    (h : magnitudeAt? negative s = some (v, rest)) : rest <:+ s := by
  simp only [magnitudeAt?] at h
  split at h
  · cases h
  · cases h
    exact (fractionAt_suffix _).trans (spanDigits_suffix s)

theorem codeAt?_suffix {s rest : List Char} {v : Numeral} (h : codeAt? s = some (v, rest)) :
    rest <:+ s := by
  have whole := spanDigits_suffix s
  unfold codeAt? at h
  split at h
  · cases h
  next ds d more heq =>
    rw [heq] at whole
    split at h
    · cases h
      exact ((List.suffix_cons _ _).trans (List.suffix_cons _ _)).trans whole
    · cases h
      exact whole
  next heq =>
    rw [heq] at whole
    cases h
    exact whole

theorem wholeAt?_spec {s rest : List Char} {n count : Nat}
    (h : wholeAt? s = some (n, count, rest)) :
    ∃ ds, s = ds ++ rest ∧ (∀ c ∈ ds, isDigit c = true) ∧ n = natOfDigits ds ∧
      count = ds.length := by
  have parts := spanDigits_append s
  unfold wholeAt? at h
  split at h
  · cases h
  next ds more _ heq =>
    have digits : (spanDigits s).1 = ds := congrArg Prod.fst heq
    rw [heq] at parts
    cases h
    refine ⟨ds, parts.symm, fun c hc => ?_, rfl, rfl⟩
    rw [← digits] at hc
    exact List.all_eq_true.1 List.all_takeWhile c hc

theorem readNumber_suffix {letter : Char} {form : Form} {s rest : List Char} {v : Numeral}
    (h : readNumber letter form s = .number v rest) : rest <:+ s := by
  have blanks : s.dropWhile isBlank <:+ s := List.dropWhile_suffix _
  simp only [readNumber] at h
  split at h
  · split at h
    next more hm =>
      have signed : more <:+ s.dropWhile isBlank := hm ▸ List.suffix_cons _ _
      split at h
      next read =>
        cases h
        exact (magnitudeAt?_suffix read).trans (signed.trans blanks)
      next => cases h
    next =>
      split at h
      next read =>
        cases h
        exact (magnitudeAt?_suffix read).trans blanks
      next => cases h
  · split at h
    next read =>
      cases h
      exact (codeAt?_suffix read).trans blanks
    next => cases h
  · split at h
    next read =>
      cases h
      obtain ⟨⟨n, count, behind⟩, hw, hr⟩ := Option.map_eq_some_iff.1 read
      cases hr
      obtain ⟨ds, parts, -⟩ := wholeAt?_spec hw
      exact (parts ▸ List.suffix_append ds behind).trans blanks
    next => cases h
  · split at h
    · cases h
    next n count behind hw =>
      obtain ⟨ds, parts, -⟩ := wholeAt?_spec hw
      split at h
      · cases h
      · split at h
        · cases h
        · cases h
          exact (parts ▸ List.suffix_append ds _).trans blanks
  · split at h
    · cases h
    · cases h
      exact List.nil_suffix

theorem nextLetter?_spec {s behind : List Char} {c : Char}
    (h : nextLetter? s = some (c, behind)) :
    isWordLetter c = true ∧ (c :: behind) <:+ s := by
  induction s with
  | nil => cases h
  | cons d more ih =>
    rw [nextLetter?] at h
    split at h
    next letter =>
      cases h
      exact ⟨letter, List.suffix_refl _⟩
    next =>
      split at h
      · cases h
      · obtain ⟨letter, tail⟩ := ih h
        exact ⟨letter, tail.trans (List.suffix_cons _ _)⟩

/-! ## Obstacles -/

/-- The characters that begin a word and belong to none: the dotted capital I and the Kelvin
sign. -/
def isStranger (c : Char) : Bool := c = '\u0130' || c = '\u212A'

/-- A letter in upper case is one of the alphabet, but for the two that look like letters. -/
theorem isUpper_upper {c : Char} (letter : isWordLetter c = true) :
    (upper c).isUpper = true ∨ isStranger c = true ∧ upper c = c := by
  rw [upper]
  split
  · exact .inl rfl
  · split
    · exact .inl rfl
    next notDotless notLong =>
      simp only [isWordLetter, notDotless, notLong, Bool.or_eq_true, decide_eq_true_eq,
        or_false] at letter
      rcases letter with (letter | rfl) | rfl
      · exact .inl (c.isUpper_toUpper_eq_isAlpha.trans letter)
      · exact .inr ⟨rfl, rfl⟩
      · exact .inr ⟨rfl, rfl⟩

/-- A letter that belongs to no word is one of the two that only look like letters. -/
theorem stranger_of_formOf? {c : Char} (letter : isWordLetter c = true)
    (h : formOf? (upper c) = none) : isStranger c = true ∧ upper c = c := by
  refine (isUpper_upper letter).resolve_left fun cased => ?_
  simp only [formOf?, cased, Bool.not_true, Bool.false_eq_true, if_false] at h
  repeat split at h <;> try cases h

/-- How many digits a whole number can have and be certain not to stop the reading. -/
def safeDigits : Nat := 308

/-- What in a text stops its being cut into words, and with which fault. -/
inductive Obstacle (s : List Char) : Fault → Prop
  | letter {c : Char} : c ∈ s → isStranger c = true → Obstacle s (.unmappedLetter c)
  | number {ds : List Char} : ds <:+: s → (∀ c ∈ ds, isDigit c = true) →
      safeDigits < ds.length → Obstacle s .numberTooLarge

theorem Obstacle.of_suffix {s t : List Char} {fault : Fault} (h : Obstacle t fault)
    (tail : t <:+ s) : Obstacle s fault := by
  cases h with
  | letter inside stranger => exact .letter (tail.subset inside) stranger
  | number run digits long => exact .number (run.trans tail.isInfix) digits long

/-- The whole numbers with no more digits are within the range of the machine. -/
theorem natOfDigits_lt_wholeLimit {ds : List Char} (short : ds.length ≤ safeDigits) :
    natOfDigits ds < wholeLimit := by
  have within : 10 ^ safeDigits ≤ wholeLimit := by decide +kernel
  exact Nat.lt_of_lt_of_le (natOfDigits_lt ds)
    (Nat.le_trans (Nat.pow_le_pow_right (by decide) short) within)

theorem readNumber_fault {letter : Char} {form : Form} {s : List Char} {fault : Fault}
    (h : readNumber letter form s = .fault fault) : Obstacle s fault := by
  simp only [readNumber] at h
  split at h
  · split at h <;> split at h <;> cases h
  · split at h <;> cases h
  · split at h <;> cases h
  · split at h
    · cases h
    next n count behind hw =>
      obtain ⟨ds, parts, digits, rfl, rfl⟩ := wholeAt?_spec hw
      split at h
      · cases h
      · split at h
        next large =>
          cases h
          have run : ds <:+: s.dropWhile isBlank := parts ▸ (List.prefix_append ds behind).isInfix
          refine .number (run.trans (List.dropWhile_suffix _).isInfix) digits
            (Nat.lt_of_not_le fun short => ?_)
          exact Nat.not_lt.2 large (natOfDigits_lt_wholeLimit short)
        · cases h
  · split at h <;> cases h

/-- Where the cutting of a text into words is stopped, there is an obstacle in the text. -/
theorem wordsOf_fault {s : List Char} {fault : Fault} (h : wordsOf s = .error (.fault fault)) :
    Obstacle s fault := by
  fun_induction wordsOf s with
  | case1 s ends blank => cases h
  | case2 s ends left => cases h
  | case3 s c behind found raw unmapped =>
    obtain ⟨letter, tail⟩ := nextLetter?_spec found
    obtain ⟨stranger, same⟩ := stranger_of_formOf? letter unmapped
    obtain rfl : Fault.unmappedLetter raw = fault := by simpa using h
    rw [show raw = c from same]
    exact .letter (tail.subset List.mem_cons_self) stranger
  | case4 s c behind found raw form mapped cause refused => cases h
  | case5 s c behind found raw form mapped cause read =>
    obtain ⟨-, tail⟩ := nextLetter?_spec found
    obtain rfl : cause = fault := by simpa using h
    exact (readNumber_fault read).of_suffix ((List.suffix_cons c behind).trans tail)
  | case6 s c behind found raw form mapped value rest read shorter more words ih => cases h
  | case7 s c behind found raw form mapped value rest read shorter stop stopped ih =>
    obtain ⟨-, tail⟩ := nextLetter?_spec found
    obtain rfl : stop = .fault fault := by simpa using h
    exact (ih stopped).of_suffix
      ((readNumber_suffix read).trans ((List.suffix_cons c behind).trans tail))

/-- Where the reading of a line is stopped, the line is text, and there is an obstacle in what its
comments and its blanks leave. -/
theorem parseLine_fault {line : Bytes} {fault : Fault} (h : parseLine line = .error fault) :
    ∃ text, Utf8.decode? line = some text ∧ Obstacle (trim (removeComments text)) fault := by
  unfold parseLine at h
  split at h
  · cases h
  next text decoded =>
    refine ⟨text, decoded, wordsOf_fault ?_⟩
    unfold parseText at h
    dsimp only at h
    split at h
    · cases h
    · cases h
    next stop =>
      cases h
      exact stop

end Gcode

end GcodeSender
