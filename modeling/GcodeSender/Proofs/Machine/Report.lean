/-
# `GcodeSender.Proofs.Machine.Report` — a report puts the machine where it says

A status report gives three decimals.  They are found in its text, rounded to
machine numbers and assigned to the position:

    firstTriple?_report   the triple behind the first colon is the one that is read
    toFloat_self          a numeral is rounded to a number, so it equals itself
    setPosition_same      what is assigned equals what was given

The second is what the third rests on: a coordinate that is no number differs
from everything, and would never be reached.

"Equal" is the comparison of machine numbers: a reported `-0.000` leaves a zero
that is already there.
-/
import Mathlib
import GcodeSender.Machine.Report
import GcodeSender.Proofs.Decimal.Words

namespace GcodeSender

open Scalar

/-! ## Machine numbers of numerals -/

/-- A numeral that writes a number is rounded to one, and a number equals itself. -/
theorem Numeral.toFloat_self {n : Numeral} (h : n ≠ .undefined) :
    (n.toFloat == n.toFloat) = true := by
  rw [Float.beq_self_iff]
  cases n with
  | undefined => exact absurd rfl h
  | infinite negative => exact Decimal.Binary64.infinity_ne_nan negative
  | decimal negative mantissa exponent =>
    rw [Numeral.toFloat]
    dsimp only
    split
    · exact Decimal.Binary64.nearest_ne_nan _ _ _
    · split
      · exact Decimal.Binary64.infinity_ne_nan negative
      · exact Decimal.Binary64.nearest_ne_nan _ _ _

/-! ## Reading a triple -/

namespace Report

/-- A coordinate as a report writes it: figures on both sides of a point. -/
structure Coordinate where
  negative : Bool := false
  whole : Bytes
  fraction : Bytes
  whole_ne : whole ≠ []
  fraction_ne : fraction ≠ []
  whole_figures : ∀ b ∈ whole, isFigure b = true
  fraction_figures : ∀ b ∈ fraction, isFigure b = true

namespace Coordinate

/-- The text of a coordinate. -/
def text (c : Coordinate) : Bytes :=
  (if c.negative then [0x2D] else []) ++ (c.whole ++ 0x2E :: c.fraction)

/-- The number that a coordinate writes. -/
def value (c : Coordinate) : Numeral :=
  .decimal c.negative (natOfFigures (c.whole ++ c.fraction)) (-c.fraction.length)

end Coordinate

/-- A text that does not go on with a figure. -/
def NoFigure (s : Bytes) : Prop := ∀ b, s.head? = some b → isFigure b = false

theorem span_figures {figures rest : Bytes} (h : ∀ b ∈ figures, isFigure b = true)
    (ends : NoFigure rest) :
    (figures ++ rest).takeWhile isFigure = figures ∧
      (figures ++ rest).dropWhile isFigure = rest := by
  rw [List.takeWhile_append_of_pos h, List.dropWhile_append_of_pos h]
  cases rest with
  | nil => simp
  | cons b rest => simp [ends b rfl]

/-- A minus sign is told from the figures of a coordinate. -/
theorem minus_text (c : Coordinate) (rest : Bytes) :
    minus (c.text ++ rest) = (c.negative, c.whole ++ (0x2E :: (c.fraction ++ rest))) := by
  rw [Coordinate.text]
  cases c.negative with
  | true => simp [minus]
  | false =>
    obtain ⟨b, whole, hwhole⟩ := List.exists_cons_of_ne_nil c.whole_ne
    have figure := c.whole_figures b (by simp [hwhole])
    have plain : b ≠ 0x2D := by
      rintro rfl
      simp [isFigure] at figure
    simp only [hwhole, Bool.false_eq_true, if_false, List.nil_append, List.cons_append,
      List.append_assoc]
    unfold minus
    split
    next heq => exact absurd (List.cons.inj heq).1 plain
    next => rfl

theorem decimalAt?_text (c : Coordinate) {rest : Bytes} (ends : NoFigure rest) :
    decimalAt? (c.text ++ rest) = some (c.value, rest) := by
  have point : NoFigure (0x2E :: (c.fraction ++ rest)) := by
    intro b hb
    cases hb
    decide
  obtain ⟨whole, afterWhole⟩ := span_figures c.whole_figures point
  obtain ⟨fraction, afterFraction⟩ := span_figures c.fraction_figures ends
  obtain ⟨b, figures, hfigures⟩ := List.exists_cons_of_ne_nil c.whole_ne
  rw [decimalAt?, minus_text]
  dsimp only
  rw [whole, afterWhole, hfigures]
  simp only
  rw [fraction, afterFraction, ← hfigures, if_neg (by simpa using c.fraction_ne)]
  rfl

/-- Three coordinates with commas between them. -/
def tripleText (x y z : Coordinate) : Bytes := x.text ++ 0x2C :: (y.text ++ 0x2C :: z.text)

theorem tripleAt?_text (x y z : Coordinate) {rest : Bytes} (ends : NoFigure rest) :
    tripleAt? (tripleText x y z ++ rest) = some ⟨x.value, y.value, z.value⟩ := by
  have comma : ∀ s : Bytes, NoFigure (0x2C :: s) := by
    intro s b hb
    cases hb
    decide
  have between : ∀ (c : Coordinate) (s : Bytes),
      decimalCommaAt? (c.text ++ 0x2C :: s) = some (c.value, s) := by
    intro c s
    rw [decimalCommaAt?, decimalAt?_text c (comma s)]
    rfl
  simp only [tripleAt?, tripleText, List.append_assoc, List.cons_append, between,
    decimalAt?_text z ends, Option.bind_eq_bind, Option.bind_some]

/-- No decimal begins before a colon where no point stands. -/
theorem decimalAt?_colon {head : Bytes} (noPoint : 0x2E ∉ head) (rest : Bytes) :
    decimalAt? (head ++ 0x3A :: rest) = none := by
  have passed : ∀ head : Bytes, 0x2E ∉ head →
      ∀ s, (head ++ 0x3A :: rest).dropWhile isFigure ≠ 0x2E :: s := by
    intro head noPoint s
    induction head with
    | nil => simp [isFigure]
    | cons b head ih =>
      have ahead : 0x2E ∉ head := fun mem => noPoint (List.mem_cons_of_mem _ mem)
      have here : b ≠ 0x2E := by
        rintro rfl
        exact noPoint List.mem_cons_self
      rw [List.cons_append, List.dropWhile_cons]
      split
      · exact ih ahead
      · simp [here]
  have unsigned : ∃ negative head', 0x2E ∉ head' ∧
      minus (head ++ 0x3A :: rest) = (negative, head' ++ 0x3A :: rest) := by
    cases head with
    | nil => exact ⟨false, [], by simp, rfl⟩
    | cons b head =>
      rw [List.cons_append]
      unfold minus
      split
      next heq =>
        obtain ⟨rfl, rfl⟩ := List.cons.inj heq
        exact ⟨true, head, fun mem => noPoint (List.mem_cons_of_mem _ mem), rfl⟩
      next => exact ⟨false, b :: head, noPoint, rfl⟩
  obtain ⟨negative, head', noPoint', hminus⟩ := unsigned
  rw [decimalAt?, hminus]
  dsimp only
  split
  next heq => exact absurd heq (passed head' noPoint' _)
  next => rfl

/-- The triple behind the first colon is the one that is read. -/
theorem firstTriple?_report {head : Bytes} (noPoint : 0x2E ∉ head) (x y z : Coordinate)
    {rest : Bytes} (ends : NoFigure rest) :
    firstTriple? (head ++ 0x3A :: (tripleText x y z ++ rest)) =
      some ⟨x.value, y.value, z.value⟩ := by
  have skip : ∀ (b : UInt8) (s : Bytes), decimalAt? (b :: s) = none →
      firstTriple? (b :: s) = firstTriple? s := by
    intro b s nothing
    simp [firstTriple?, tripleAt?, decimalCommaAt?, nothing]
  induction head with
  | nil =>
    rw [List.nil_append, skip _ _ (decimalAt?_colon (by simp : 0x2E ∉ ([] : Bytes)) _)]
    have here := tripleAt?_text x y z ends
    cases htext : tripleText x y z ++ rest with
    | nil => simp [htext, tripleAt?, decimalCommaAt?, decimalAt?, minus] at here
    | cons b s =>
      rw [htext] at here
      simp [firstTriple?, here]
  | cons b head ih =>
    have ahead : 0x2E ∉ head := fun mem => noPoint (List.mem_cons_of_mem _ mem)
    have nothing := decimalAt?_colon noPoint (tripleText x y z ++ rest)
    rw [List.cons_append] at nothing ⊢
    rw [skip _ _ nothing]
    exact ih ahead

/-! ### What is read is a number -/

theorem decimalAt?_number {s rest : Bytes} {n : Numeral} (h : decimalAt? s = some (n, rest)) :
    n ≠ .undefined := by
  unfold decimalAt? at h
  dsimp only at h
  split at h
  · split at h
    · cases h
    · cases h
      nofun
  · cases h

theorem tripleAt?_number {s : Bytes} {p : Position Numeral} (h : tripleAt? s = some p) :
    p.x ≠ .undefined ∧ p.y ≠ .undefined ∧ p.z ≠ .undefined := by
  have comma : ∀ {s rest : Bytes} {n : Numeral}, decimalCommaAt? s = some (n, rest) →
      n ≠ .undefined := by
    intro s rest n h
    obtain ⟨⟨value, behind⟩, hvalue, h⟩ := Option.bind_eq_some_iff.1 h
    split at h
    next heq =>
      cases heq
      cases h
      exact decimalAt?_number hvalue
    next => cases h
  obtain ⟨⟨x, sx⟩, hx, h⟩ := Option.bind_eq_some_iff.1 h
  obtain ⟨⟨y, sy⟩, hy, h⟩ := Option.bind_eq_some_iff.1 h
  obtain ⟨⟨z, sz⟩, hz, h⟩ := Option.bind_eq_some_iff.1 h
  cases h
  exact ⟨comma hx, comma hy, decimalAt?_number hz⟩

theorem firstTriple?_number {s : Bytes} {p : Position Numeral} (h : firstTriple? s = some p) :
    p.x ≠ .undefined ∧ p.y ≠ .undefined ∧ p.z ≠ .undefined := by
  induction s with
  | nil => cases h
  | cons b rest ih =>
    rw [firstTriple?] at h
    cases here : tripleAt? (b :: rest) with
    | none =>
      rw [here] at h
      exact ih h
    | some q =>
      rw [here] at h
      cases h
      exact tripleAt?_number here

end Report

/-! ## Taking up a report -/

namespace Machine

variable {α : Type} [Scalar α]

/-- After an assignment a coordinate is the one that was given. -/
theorem assigned_same {value : α} (number : same value value = true) (old : α) :
    same (assigned old (some value)) value = true := by
  rw [assigned, differs]
  cases h : same old value with
  | true => simpa using h
  | false => simpa using number

theorem setPosition_same {p : Position α} (m : Machine α) (x : same p.x p.x = true)
    (y : same p.y p.y = true) (z : same p.z p.z = true) :
    let position := (m.setPosition (.ofPosition p)).position
    same position.x p.x = true ∧ same position.y p.y = true ∧ same position.z p.z = true := by
  rw [setPosition]
  split
  next => exact ⟨assigned_same x _, assigned_same y _, assigned_same z _⟩
  next unchanged =>
    simp only [Axis.all, List.any_cons, List.any_nil, Bool.or_false, Bool.or_eq_true,
      not_or, differs, Target.get, Target.ofPosition, Position.get] at unchanged
    obtain ⟨hx, hy, hz⟩ := unchanged
    exact ⟨by simpa using hx, by simpa using hy, by simpa using hz⟩

omit [Scalar α] in
@[simp] theorem position_setRun (m : Machine α) (run : RunState) :
    (m.setRun run).position = m.position := by
  rw [setRun]
  split <;> rfl

omit [Scalar α] in
@[simp] theorem position_receiveToken (m : Machine α) (token : Bytes) :
    (m.receiveToken token).position = m.position := by
  rw [receiveToken]
  split
  · exact position_setRun m _
  · rfl

/-- A well-formed report with a triple puts the machine there. -/
theorem position_receive {report : Bytes} {p : Position Numeral} (m : Machine Float)
    (bracket : report.startsWith [0x3C] = true) (wellFormed : Report.isStatusReport report = true)
    (triple : Report.firstTriple? report = some p) :
    let position := (m.receive report).position
    (position.x == p.x.toFloat) = true ∧ (position.y == p.y.toFloat) = true ∧
      (position.z == p.z.toFloat) = true := by
  obtain ⟨x, y, z⟩ := Report.firstTriple?_number triple
  rw [receive, if_pos bracket, receiveReport, if_pos wellFormed, receivePosition, triple]
  dsimp only
  rw [position_receiveToken]
  exact setPosition_same (p := ⟨p.x.toFloat, p.y.toFloat, p.z.toFloat⟩) m
    (Numeral.toFloat_self x) (Numeral.toFloat_self y) (Numeral.toFloat_self z)

end Machine

end GcodeSender
