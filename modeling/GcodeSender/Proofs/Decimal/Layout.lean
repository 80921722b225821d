/-
# `GcodeSender.Proofs.Decimal.Layout` — digits keep their value where they are laid out

Digits are read back as the number they write (`natOfDigits_digits`).  Zeros
cut off behind them and put in before or behind them change the place of the
point and nothing else, so a number written without an exponent has the value
of its digits and its point (`write_positional`).

    point ≤ 0                0 . 0…0 d₁d₂…
    inside the digits        d₁… . …dₙ
    behind the digits        d₁…dₙ 0…0 . 0
-/
import GcodeSender.Proofs.Decimal.Shortest

namespace GcodeSender

open Text

/-! ## Rows of digits -/

namespace Text

theorem foldl_digits (n : ℕ) (ds : List Char) :
    ds.foldl (fun n d => 10 * n + digitValue d) n = n * 10 ^ ds.length + natOfDigits ds := by
  induction ds generalizing n with
  | nil => simp [natOfDigits]
  | cons d ds ih =>
    rw [natOfDigits, List.foldl_cons, List.foldl_cons, ih, ih (10 * 0 + digitValue d),
      List.length_cons]
    ring

theorem natOfDigits_append (ds ds' : List Char) :
    natOfDigits (ds ++ ds') = natOfDigits ds * 10 ^ ds'.length + natOfDigits ds' := by
  rw [natOfDigits, List.foldl_append]
  exact foldl_digits _ ds'

theorem natOfDigits_zeros (n : ℕ) : natOfDigits (List.replicate n '0') = 0 := by
  induction n with
  | zero => rfl
  | succ n ih =>
    rw [List.replicate_succ', natOfDigits_append, ih]
    rfl

/-- Zeros behind digits are powers of ten. -/
theorem natOfDigits_append_zeros (ds : List Char) (n : ℕ) :
    natOfDigits (ds ++ List.replicate n '0') = natOfDigits ds * 10 ^ n := by
  rw [natOfDigits_append, natOfDigits_zeros, List.length_replicate, Nat.add_zero]

/-- Zeros in front of digits count for nothing. -/
theorem natOfDigits_zeros_append (n : ℕ) (ds : List Char) :
    natOfDigits (List.replicate n '0' ++ ds) = natOfDigits ds := by
  rw [natOfDigits_append, natOfDigits_zeros, Nat.zero_mul, Nat.zero_add]

theorem digitValue_digitChar {n : ℕ} (h : n < 10) : digitValue n.digitChar = n := by
  have all : ∀ k ∈ List.range 10, digitValue k.digitChar = k := by decide
  exact all n (List.mem_range.2 h)

end Text

namespace Decimal

/-- The digits of a number are read back as the number. -/
theorem natOfDigits_digits (n : ℕ) : natOfDigits (digits n) = n := by
  induction n using Nat.strong_induction_on with
  | _ n ih =>
    rw [digits]
    by_cases single : n < 10
    · rw [Nat.toDigits_of_lt_base single]
      simp [natOfDigits, digitValue_digitChar single]
    · have last : n % 10 < 10 := Nat.mod_lt n (by decide)
      rw [Nat.toDigits_of_base_le (by decide) (not_lt.1 single), natOfDigits_append]
      have front : natOfDigits (Nat.toDigits 10 (n / 10)) = n / 10 := ih (n / 10) (by omega)
      rw [front]
      simp only [natOfDigits, List.foldl_cons, List.foldl_nil, digitValue_digitChar last,
        List.length_singleton]
      omega

theorem isDigit_of_mem_digits {n : ℕ} {c : Char} (mem : c ∈ digits n) : isDigit c = true := by
  have digit : c.isDigit = true := Nat.isDigit_of_mem_toDigits (by decide) (by decide) mem
  simp only [Char.isDigit, Bool.and_eq_true, decide_eq_true_eq, UInt32.le_iff_toNat_le] at digit
  have low : 0x30 ≤ c.toNat := digit.1
  have high : c.toNat ≤ 0x39 := digit.2
  have value := digitValue?_ascii (n := c.toNat - 0x30) (by omega)
  rw [show 0x30 + (c.toNat - 0x30) = c.toNat by omega, Char.ofNat_toNat] at value
  rw [isDigit, value]
  rfl

/-! ## The digits that are written -/

/-- The digits of a number without the zeros at their end. -/
def significant (n : ℕ) : List Char := ((digits n).reverse.dropWhile (· == '0')).reverse

/-- The zeros that are left out make up the number again. -/
theorem digits_eq_significant (n : ℕ) :
    ∃ zeros, digits n = significant n ++ List.replicate zeros '0' := by
  refine ⟨((digits n).reverse.takeWhile (· == '0')).length, ?_⟩
  have zeros : (digits n).reverse.takeWhile (· == '0')
      = List.replicate ((digits n).reverse.takeWhile (· == '0')).length '0' :=
    List.eq_replicate_iff.2 ⟨rfl, fun c mem => by
      simpa using List.mem_takeWhile_imp (p := (· == '0')) mem⟩
  have whole := List.takeWhile_append_dropWhile (p := (· == '0')) (l := (digits n).reverse)
  rw [← List.reverse_inj, List.reverse_append, significant, List.reverse_reverse,
    List.reverse_replicate, ← zeros]
  exact whole.symm

theorem isDigit_of_mem_significant {n : ℕ} {c : Char} (mem : c ∈ significant n) :
    isDigit c = true := by
  obtain ⟨zeros, whole⟩ := digits_eq_significant n
  exact isDigit_of_mem_digits (whole ▸ List.mem_append_left _ mem)

/-! ## Numbers without an exponent -/

/-- The text is digits, a point and digits, of the value of `ds` with the point at `point`. -/
structure Positional (text ds : List Char) (point : ℤ) (whole fraction : List Char) : Prop where
  text_eq : text = whole ++ '.' :: fraction
  digits : (whole ++ fraction).all isDigit = true
  nonempty : whole ++ fraction ≠ []
  value : (natOfDigits (whole ++ fraction) : ℚ) * 10 ^ (-(fraction.length : ℤ))
    = natOfDigits ds * 10 ^ (point - ds.length)

theorem isDigit_of_mem_zeros {n : ℕ} {c : Char} (mem : c ∈ List.replicate n '0') :
    isDigit c = true := by
  rw [List.eq_of_mem_replicate mem]
  decide

/-- A layout that keeps the point writes a number without an exponent as digits, a point and
digits, of the value that it is given. -/
theorem write_positional {l : Layout} (pointed : l.wholePoint = true) {ds : List Char}
    (digits : ∀ c ∈ ds, isDigit c = true) {point : ℤ} (least : l.least ≤ point - 1)
    (greatest : point - 1 ≤ l.greatest) :
    ∃ whole fraction, Positional (l.write ds point) ds point whole fraction := by
  have ten : (10 : ℚ) ≠ 0 := by norm_num
  rw [Layout.write, if_pos ⟨least, greatest⟩]
  split
  next before =>
    refine ⟨['0'], List.replicate (-point).toNat '0' ++ ds, rfl, ?_, by simp, ?_⟩
    · refine List.all_eq_true.2 fun c mem => ?_
      rcases List.mem_append.1 mem with mem | mem
      · exact isDigit_of_mem_zeros (n := 1) mem
      · exact (List.mem_append.1 mem).elim isDigit_of_mem_zeros (digits c)
    · have joined : ['0'] ++ (List.replicate (-point).toNat '0' ++ ds)
          = List.replicate ((-point).toNat + 1) '0' ++ ds := by
        rw [List.replicate_succ]
        rfl
      rw [joined, natOfDigits_zeros_append, List.length_append, List.length_replicate]
      congr 2
      omega
  next inside =>
    simp only
    split
    next within =>
      refine ⟨ds.take point.toNat, ds.drop point.toNat, rfl, ?_, ?_, ?_⟩
      · rw [List.take_append_drop]
        exact List.all_eq_true.2 digits
      · rw [List.take_append_drop]
        rintro rfl
        simp at within
      · rw [List.take_append_drop, List.length_drop]
        congr 2
        omega
    next behind =>
      refine ⟨ds ++ List.replicate (point.toNat - ds.length) '0', ['0'], by simp, ?_, by simp, ?_⟩
      · refine List.all_eq_true.2 fun c mem => ?_
        rcases List.mem_append.1 mem with mem | mem
        · exact (List.mem_append.1 mem).elim (digits c) isDigit_of_mem_zeros
        · exact isDigit_of_mem_zeros (n := 1) mem
      · have joined : (ds ++ List.replicate (point.toNat - ds.length) '0') ++ ['0']
            = ds ++ List.replicate (point.toNat - ds.length + 1) '0' := by
          rw [List.append_assoc, List.replicate_succ']
        rw [joined, natOfDigits_append_zeros, Nat.cast_mul, Nat.cast_pow, Nat.cast_ofNat,
          ← zpow_natCast, mul_assoc, ← zpow_add₀ ten]
        congr 2
        simp only [List.length_singleton]
        omega

end Decimal

end GcodeSender
