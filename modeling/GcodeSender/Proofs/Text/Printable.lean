/-
# `GcodeSender.Proofs.Text.Printable` — numbers are written without line breaks

A line that is sent must not hold a line break inside.  Of the lines that the
program builds itself, the jogs, this is so whatever their numbers are: digits,
signs, points, exponents, `inf` and `nan` are printable ASCII, which UTF-8
writes as single bytes, and a line break is not among them.

    Printable s    every character is between the blank and the tilde
    Unbroken b     no byte is a line feed or a carriage return
-/
import GcodeSender.Gcode.Command

namespace GcodeSender

open Gcode

/-! ## Characters -/

namespace Text

/-- Printable ASCII, the blank included. -/
def isPrintable (c : Char) : Bool := 0x20 ≤ c.toNat && c.toNat < 0x7F

/-- Nothing but printable ASCII. -/
def Printable (s : List Char) : Prop := ∀ c ∈ s, isPrintable c = true

instance (s : List Char) : Decidable (Printable s) :=
  List.decidableBAll (isPrintable · = true) s

theorem Printable.append {s s' : List Char} (h : Printable s) (h' : Printable s') :
    Printable (s ++ s') := List.forall_mem_append.2 ⟨h, h'⟩

theorem Printable.cons {c : Char} {s : List Char} (first : isPrintable c = true)
    (rest : Printable s) : Printable (c :: s) := List.forall_mem_cons.2 ⟨first, rest⟩

theorem Printable.of_subset {s s' : List Char} (h : Printable s) (sub : s' ⊆ s) : Printable s' :=
  fun c mem => h c (sub mem)

theorem Printable.replicate {c : Char} (h : isPrintable c = true) (n : Nat) :
    Printable (List.replicate n c) := fun c' mem => by
  rw [List.eq_of_mem_replicate mem]
  exact h

end Text

/-! ## Numbers -/

namespace Decimal

open Text

theorem printable_digits (n : Nat) : Printable (digits n) := by
  intro c mem
  have digit : c.isDigit = true := Nat.isDigit_of_mem_toDigits (by decide) (by decide) mem
  simp only [Char.isDigit, Bool.and_eq_true, decide_eq_true_eq, UInt32.le_iff_toNat_le] at digit
  have low : 48 ≤ c.toNat := digit.1
  have high : c.toNat ≤ 57 := digit.2
  simp only [isPrintable, Bool.and_eq_true, decide_eq_true_eq]
  omega

theorem printable_signed (negative : Bool) {s : List Char} (h : Printable s) :
    Printable (signed negative s).toList := by
  simp only [signed, String.toList_ofList]
  split
  · exact h.cons (by decide)
  · exact h

theorem printable_write (l : Layout) {ds : List Char} (h : Printable ds) (point : Int) :
    Printable (l.write ds point) := by
  have zeros : ∀ n, Printable (List.replicate n '0') := Printable.replicate (by decide)
  have taken : ∀ n, Printable (ds.take n) := fun n => h.of_subset (List.take_subset n ds)
  have dropped : ∀ n, Printable (ds.drop n) := fun n => h.of_subset (List.drop_subset n ds)
  have nothing : Printable [] := fun _ mem => absurd mem List.not_mem_nil
  have exponent : Printable (l.exponent (point - 1)) := by
    refine Printable.cons (by decide) (Printable.cons ?_ ((zeros _).append (printable_digits _)))
    split <;> decide
  simp only [Layout.write]
  split
  next =>
    split
    next => exact (((zeros _).cons (by decide)).cons (by decide)).append h
    next =>
      split
      next => exact (taken _).append ((dropped _).cons (by decide))
      next =>
        refine (h.append (zeros _)).append ?_
        split
        · exact (nothing.cons (by decide)).cons (by decide)
        · exact nothing
  next =>
    refine ((taken 1).append ?_).append exponent
    split
    · exact nothing
    · exact (dropped 1).cons (by decide)

theorem printable_text (x : Float) : Printable (text x).toList := by
  have significant : ∀ c, Printable ((digits c).reverse.dropWhile (· == '0')).reverse := by
    intro c
    refine (printable_digits c).of_subset fun d mem => ?_
    exact List.mem_reverse.1 (List.dropWhile_subset _ (List.mem_reverse.1 mem))
  simp only [text, Layout.text]
  split
  · decide
  · exact printable_signed _ (by decide)
  · exact printable_signed _ (printable_write _ (by decide) _)
  · exact printable_signed _ (printable_write _ (significant _) _)

end Decimal

/-! ## Bytes -/

namespace Bytes

/-- Does the byte break a line? -/
def isBreak (b : UInt8) : Bool := b == 0x0A || b == 0x0D

/-- No byte breaks the line. -/
def Unbroken (s : Bytes) : Prop := ∀ b ∈ s, isBreak b = false

instance (s : Bytes) : Decidable (Unbroken s) :=
  List.decidableBAll (isBreak · = false) s

theorem Unbroken.nil : Unbroken [] := fun _ mem => absurd mem List.not_mem_nil

theorem Unbroken.append {s s' : Bytes} (h : Unbroken s) (h' : Unbroken s') : Unbroken (s ++ s') :=
  List.forall_mem_append.2 ⟨h, h'⟩

/-- Trimming takes nothing in. -/
theorem Unbroken.trim {s : Bytes} (h : Unbroken s) : Unbroken s.trim := by
  intro b mem
  have behind := List.dropWhile_subset _ (List.mem_reverse.1 mem)
  exact h b (List.dropWhile_subset _ (List.mem_reverse.1 behind))

theorem toList_loop_eq (bytes : ByteArray) (i : Nat) (taken : List UInt8) :
    ByteArray.toList.loop bytes i taken = taken.reverse ++ bytes.data.toList.drop i := by
  fun_induction ByteArray.toList.loop bytes i taken with
  | case1 i taken inside ih =>
    have bound : i < bytes.data.size := inside
    have next : bytes.data.toList.drop i = bytes.data[i] :: bytes.data.toList.drop (i + 1) := by
      rw [List.drop_eq_getElem_cons (by simpa using bound)]
      simp
    rw [ih, next]
    simp [ByteArray.get!, getElem!_pos bytes.data i bound]
  | case2 i taken outside =>
    have outside : bytes.data.toList.length ≤ i := by simpa using outside
    rw [List.drop_eq_nil_of_le outside, List.append_nil]

/-- A printable character is written as one byte. -/
theorem utf8EncodeChar_eq {c : Char} (h : Text.isPrintable c = true) :
    String.utf8EncodeChar c = [c.val.toUInt8] := by
  simp only [Text.isPrintable, Bool.and_eq_true, decide_eq_true_eq] at h
  refine String.utf8EncodeChar_eq_singleton (Char.utf8Size_eq_one_iff.2 ?_)
  rw [UInt32.le_iff_toNat_le]
  show c.toNat ≤ 127
  omega

/-- The bytes of a text are those of its characters, in order. -/
theorem ofText_eq (s : String) : ofText s = s.toList.flatMap String.utf8EncodeChar := by
  rw [ofText, ByteArray.toList, toList_loop_eq, String.toUTF8_eq_toByteArray,
    ← String.utf8Encode_toList]
  simp [List.utf8Encode]

theorem ofText_append (s s' : String) : ofText (s ++ s') = ofText s ++ ofText s' := by
  simp only [ofText_eq, String.toList_append, List.flatMap_append]

theorem mem_ofText {s : String} {b : UInt8} :
    b ∈ ofText s ↔ ∃ c ∈ s.toList, b ∈ String.utf8EncodeChar c := by
  rw [ofText_eq, List.mem_flatMap]

/-- Printable text is written as bytes that break no line. -/
theorem unbroken_ofText {s : String} (h : Text.Printable s.toList) : Unbroken (ofText s) := by
  intro b mem
  obtain ⟨c, hc, hb⟩ := mem_ofText.1 mem
  have printable := h c hc
  rw [utf8EncodeChar_eq printable, List.mem_singleton] at hb
  subst hb
  simp only [Text.isPrintable, Bool.and_eq_true, decide_eq_true_eq] at printable
  have value : c.val.toUInt8.toNat = c.toNat := by
    rw [UInt32.toNat_toUInt8]
    show c.toNat % 2 ^ 8 = c.toNat
    omega
  have other : ∀ n : UInt8, n.toNat < 0x20 → (c.val.toUInt8 == n) = false := by
    intro n small
    refine beq_false_of_ne fun same => ?_
    rw [same] at value
    omega
  rw [isBreak, other 0x0A (by decide), other 0x0D (by decide)]
  rfl

end Bytes

/-! ## Jogs -/

namespace Gcode

open Bytes

theorem printable_amount (a : Amount) : Text.Printable a.text.toList := by
  cases a with
  | whole n => exact Decimal.printable_signed _ (Decimal.printable_digits _)
  | real x => exact Decimal.printable_text x

theorem unbroken_word {letter : String} (h : Text.Printable letter.toList) (a : Option Amount) :
    Unbroken (Jog.word letter a) := by
  cases a with
  | none => exact .nil
  | some a =>
    refine unbroken_ofText ?_
    simp only [String.toList_append]
    exact (Text.Printable.append (by decide) h).append (printable_amount a)

/-- A jog is one line, whatever its numbers are. -/
theorem unbroken_jog (j : Jog) {mode : Bytes} (h : Unbroken mode) : Unbroken (j.command mode) := by
  have mark : Unbroken jogMark := by decide
  have marked := mark.append h
  exact (((marked.append (unbroken_word (by decide) _)).append (unbroken_word (by decide) _)).append
    (unbroken_word (by decide) _)).append (unbroken_word (by decide) _)

end Gcode

end GcodeSender
