/-
# `GcodeSender.Proofs.Decimal.Exponent` — when a number is written with an exponent

The layout writes a number without an exponent where its shortest decimal has
one between −4 and 15, and this is so exactly for the numbers between 10⁻⁴ and
10¹⁶, although the shortest decimal may lie above the number:

* a number below `10 ^ 16` is not rounded up to it, for `10 ^ 16` is a multiple of
  the last bit, and the middle to the next number lies below it
  (`Canonical.upper_lt`);
* a number below `10 ^ -4` is not rounded up to it, for the number nearest to
  `10 ^ -4` lies above it (`le_of_reach_ten_zpow`).

    below 10⁻⁴             negative exponent     `shortest_small`
    10⁻⁴ up to 10¹⁶        none                  `shortest_unmarked`
    10¹⁶ and above         positive exponent     `shortest_large`
-/
import GcodeSender.Proofs.Decimal.Layout

namespace GcodeSender

open Text Decimal Decimal.Binary64

/-! ## Values -/

namespace Decimal.Binary64

/-- The rational number that a finite number of the machine is. -/
def toRat? : Binary64 → Option ℚ
  | .finite negative m e => some ((if negative then -1 else 1) * (m * 2 ^ e))
  | .infinite _ | .undefined => none

/-- A finite number is opened into a sign and a magnitude. -/
theorem toRat?_eq_some {b : Binary64} {r : ℚ} (h : b.toRat? = some r) :
    ∃ negative m e, b = .finite negative m e ∧ |r| = m * 2 ^ e ∧
      r = (if negative then -1 else 1) * (m * 2 ^ e) := by
  cases b with
  | finite negative m e =>
    obtain rfl := Option.some.inj h
    refine ⟨negative, m, e, rfl, ?_, rfl⟩
    have magnitude : (0 : ℚ) ≤ m * 2 ^ e := by positivity
    rw [abs_mul, abs_of_nonneg magnitude]
    cases negative <;> simp
  | infinite negative => cases h
  | undefined => cases h

/-- Below `10 ^ 16` also the upper end of the reach is. -/
theorem Canonical.upper_lt {m : ℕ} {e : ℤ} (canonical : Canonical m e)
    (h : (m * 2 ^ e : ℚ) < 10 ^ (16 : ℤ)) : ((m + 1 / 2) * 2 ^ e : ℚ) < 10 ^ (16 : ℤ) := by
  have power : (0 : ℚ) < 2 ^ e := by positivity
  have least := canonical.least
  have small : e ≤ 16 := by
    by_contra! large
    have full : 2 ^ 52 ≤ m := canonical.full.resolve_right (by omega)
    have : (2 : ℚ) ^ (52 : ℤ) * 2 ^ (16 : ℤ) ≤ m * 2 ^ e := by
      gcongr
      · exact_mod_cast full
      · exact one_le_two
    norm_num at this h
    linarith
  -- so the bound is a whole number of last bits
  have bits : (10 : ℚ) ^ (16 : ℤ) = (5 ^ 16 * 2 ^ (16 - e).toNat : ℕ) * 2 ^ e := by
    have shift : ((2 ^ (16 - e).toNat : ℕ) : ℚ) * 2 ^ e = 2 ^ (16 : ℤ) := by
      rw [Nat.cast_pow, Nat.cast_ofNat, ← zpow_natCast, ← zpow_add₀ two_ne_zero]
      congr 1
      omega
    rw [Nat.cast_mul, mul_assoc, shift]
    norm_num
  rw [bits, mul_lt_mul_iff_left₀ power] at h ⊢
  have next : m + 1 ≤ 5 ^ 16 * 2 ^ (16 - e).toNat := by exact_mod_cast h
  have next : (m : ℚ) + 1 ≤ (5 ^ 16 * 2 ^ (16 - e).toNat : ℕ) := by exact_mod_cast next
  exact lt_of_lt_of_le (by norm_num) next

end Decimal.Binary64

namespace Decimal

variable {m : ℕ} {e : ℤ}

/-- The exponent that the shortest decimal would be written with: that of the number, or the next
one where the digits are rounded up to a power of ten. -/
theorem shortest_exponent (canonical : Canonical m e) (hm : 0 < m) {d : ℤ}
    (low : (10 : ℚ) ^ d ≤ m * 2 ^ e) (high : (m * 2 ^ e : ℚ) < 10 ^ (d + 1)) :
    Reach m e ((shortest m e).1 * 10 ^ (shortest m e).2) ∧ 0 < (shortest m e).1 ∧
      d ≤ (shortest m e).2 + (digits (shortest m e).1).length - 1 ∧
      (shortest m e).2 + (digits (shortest m e).1).length - 1 ≤ d + 1 ∧
      ((shortest m e).2 + (digits (shortest m e).1).length - 1 = d + 1 →
        ((shortest m e).1 * 10 ^ (shortest m e).2 : ℚ) = 10 ^ (d + 1)) := by
  rw [← add_sub_cancel_right d 1] at low
  obtain ⟨reach, least, most⟩ := shortest_spec canonical hm low high
  rw [add_sub_cancel_right] at least
  generalize (shortest m e).1 = c at *
  generalize (shortest m e).2 = k at *
  have hc : 0 < c := Numeral.mantissa_pos (reach.pos hm)
  obtain ⟨below, above⟩ := decimal_spec hc k
  have greater := lt_of_ten_zpow least above
  have notGreater := (zpow_le_zpow_iff_right₀ (by norm_num)).1 (below.trans most)
  refine ⟨reach, hc, by omega, notGreater, fun next => le_antisymm most ?_⟩
  rw [next] at below
  exact below

/-- Between 10⁻⁴ and 10¹⁶ the shortest decimal is written without an exponent. -/
theorem shortest_unmarked (canonical : Canonical m e) (hm : 0 < m)
    (least : (10 : ℚ) ^ (-4 : ℤ) ≤ m * 2 ^ e) (less : (m * 2 ^ e : ℚ) < 10 ^ (16 : ℤ)) :
    Reach m e ((shortest m e).1 * 10 ^ (shortest m e).2) ∧
      machineLayout.least ≤ (shortest m e).2 + (digits (shortest m e).1).length - 1 ∧
      (shortest m e).2 + (digits (shortest m e).1).length - 1 ≤ machineLayout.greatest := by
  have ten : (1 : ℚ) < 10 := by norm_num
  obtain ⟨d, low, high⟩ :=
    exists_mem_Ico_zpow (lt_of_lt_of_le (by positivity) least : (0 : ℚ) < m * 2 ^ e) ten
  obtain ⟨reach, -, lower, upper, rounded⟩ := shortest_exponent canonical hm low high
  have := lt_of_ten_zpow least high
  have := lt_of_ten_zpow low less
  refine ⟨reach, show (-4 : ℤ) ≤ _ by omega, show _ ≤ (15 : ℤ) from not_lt.1 fun past => ?_⟩
  obtain rfl : d = 15 := by omega
  have end_lt := reach.high.trans_lt (canonical.upper_lt less)
  rw [rounded (by omega)] at end_lt
  exact lt_irrefl _ end_lt

/-- The number nearest to 10⁻⁴ is not below it. -/
theorem le_of_reach_ten_zpow {x : Float} {negative : Bool}
    (opened : ofFloat x = .finite negative m e) (hm : 0 < m)
    (reach : Reach m e (10 ^ (-4 : ℤ))) : (10 : ℚ) ^ (-4 : ℤ) ≤ m * 2 ^ e := by
  have read : (Numeral.decimal negative 1 (-4)).toFloat = x :=
    Numeral.toFloat_of_reach opened hm (by rwa [Nat.cast_one, one_mul])
  have nearest : ofFloat (Numeral.decimal negative 1 (-4)).toFloat
      = .finite negative 7378697629483821 (-66) := by
    cases negative <;> decide +kernel
  rw [read, opened] at nearest
  cases nearest
  norm_num

/-- Below 10⁻⁴ the shortest decimal is written with a negative exponent. -/
theorem shortest_small {x : Float} {negative : Bool} (opened : ofFloat x = .finite negative m e)
    (hm : 0 < m) (less : (m * 2 ^ e : ℚ) < 10 ^ (-4 : ℤ)) :
    0 < (shortest m e).1 ∧ (shortest m e).2 + (digits (shortest m e).1).length - 1 < -4 := by
  have ten : (1 : ℚ) < 10 := by norm_num
  have positive : (0 : ℚ) < m * 2 ^ e := mul_pos (Nat.cast_pos.2 hm) (by positivity)
  obtain ⟨d, low, high⟩ := exists_mem_Ico_zpow positive ten
  obtain ⟨reach, hc, -, upper, rounded⟩ :=
    shortest_exponent (ofFloat_eq_finite opened).1 hm low high
  have := lt_of_ten_zpow low less
  refine ⟨hc, not_le.1 fun past => ?_⟩
  obtain rfl : d = -5 := by omega
  rw [rounded (by omega)] at reach
  exact absurd (le_of_reach_ten_zpow opened hm reach) (not_le.2 less)

/-- From 10¹⁶ the shortest decimal is written with a positive exponent. -/
theorem shortest_large (canonical : Canonical m e) (hm : 0 < m)
    (least : (10 : ℚ) ^ (16 : ℤ) ≤ m * 2 ^ e) :
    0 < (shortest m e).1 ∧ 15 < (shortest m e).2 + (digits (shortest m e).1).length - 1 := by
  have ten : (1 : ℚ) < 10 := by norm_num
  have positive : (0 : ℚ) < m * 2 ^ e := mul_pos (Nat.cast_pos.2 hm) (by positivity)
  obtain ⟨d, low, high⟩ := exists_mem_Ico_zpow positive ten
  obtain ⟨-, hc, lower, -⟩ := shortest_exponent canonical hm low high
  have := lt_of_ten_zpow least high
  exact ⟨hc, by omega⟩

/-- The significant digits, with the point where it stands for all digits, have the same value. -/
theorem significant_value (c : ℕ) (k : ℤ) :
    (natOfDigits (significant c) : ℚ) * 10 ^ (k + (digits c).length - (significant c).length)
      = c * 10 ^ k := by
  obtain ⟨zeros, whole⟩ := digits_eq_significant c
  have number : (natOfDigits (significant c) * 10 ^ zeros : ℕ) = c := by
    rw [← natOfDigits_append_zeros, ← whole, natOfDigits_digits]
  have places : k + (digits c).length - (significant c).length = zeros + k := by
    rw [whole, List.length_append, List.length_replicate]
    push_cast
    ring
  rw [places, zpow_add₀ (by norm_num), ← mul_assoc, zpow_natCast]
  congr 1
  exact_mod_cast number

theorem significant_ne_nil {c : ℕ} (hc : 0 < c) : significant c ≠ [] := by
  intro empty
  have value := significant_value c 0
  rw [empty] at value
  have zero : (c : ℚ) = 0 := by simpa [natOfDigits] using value.symm
  exact hc.ne' (by exact_mod_cast zero)

/-- With the point behind the first digit the significant digits are one or more. -/
theorem one_le_significant {c : ℕ} (hc : 0 < c) :
    (1 : ℚ) ≤ natOfDigits (significant c) * 10 ^ (1 - (significant c).length : ℤ) := by
  have value := significant_value c (1 - (digits c).length)
  rw [sub_add_cancel] at value
  rw [value]
  have low := (decimal_spec hc (1 - (digits c).length)).1
  rwa [sub_add_cancel, sub_self, zpow_zero] at low

end Decimal

end GcodeSender
