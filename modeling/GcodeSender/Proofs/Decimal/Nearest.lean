/-
# `GcodeSender.Proofs.Decimal.Nearest` — a number is nearest to all in its reach

Rounding a quotient gives the finite number `m · 2 ^ e` for every quotient in
its *reach*: between the middles to the two neighbours, the middles included
iff `m` is even.  Below a power of two the neighbour is nearer, and so is the
middle.

    reach of m · 2 ^ e        (m − 1/2) · 2 ^ e … (m + 1/2) · 2 ^ e
    at a power of two         (m − 1/4) · 2 ^ e … (m + 1/2) · 2 ^ e

A quotient in the lower quarter at a power of two lies in the binade below and
is rounded on a grid twice as fine; the carry out of that grid lands on the
same word (`grid_of_reach`).

The quotients are compared as rational numbers: `powerFraction_div` says what
the fraction of a power is.
-/
import Mathlib
import GcodeSender.Proofs.Decimal.Words

namespace GcodeSender.Decimal

/-! ## Powers -/

section Power

variable {base : ℕ} (h : 0 < base) (e : ℤ)
include h

theorem powerFraction_pos : 0 < (powerFraction base e).1 ∧ 0 < (powerFraction base e).2 :=
  ⟨Nat.pow_pos h, Nat.pow_pos h⟩

/-- The fraction of a power is the power. -/
theorem powerFraction_div :
    ((powerFraction base e).1 : ℚ) / (powerFraction base e).2 = (base : ℚ) ^ e := by
  have nonzero : (base : ℚ) ≠ 0 := Nat.cast_ne_zero.2 h.ne'
  simp only [powerFraction, Nat.pow_eq, Nat.cast_pow]
  rw [← zpow_natCast, ← zpow_natCast, ← zpow_sub₀ nonzero]
  congr 1
  omega

/-- The numerator of a power against its denominator. -/
theorem powerFraction_fst :
    ((powerFraction base e).1 : ℚ) = (base : ℚ) ^ e * (powerFraction base e).2 := by
  have nonzero : ((powerFraction base e).2 : ℚ) ≠ 0 :=
    Nat.cast_ne_zero.2 (powerFraction_pos h e).2.ne'
  rw [← powerFraction_div h, div_mul_cancel₀ _ nonzero]

/-- A quotient of naturals against a power, cleared of denominators. -/
theorem le_quotient_iff (num : ℕ) {den : ℕ} (pos : 0 < den) :
    den * (powerFraction base e).1 ≤ num * (powerFraction base e).2 ↔
      (base : ℚ) ^ e ≤ (num : ℚ) / den := by
  have denominator : (0 : ℚ) < (powerFraction base e).2 :=
    Nat.cast_pos.2 (powerFraction_pos h e).2
  have divisor : (0 : ℚ) < den := Nat.cast_pos.2 pos
  rw [← Nat.cast_le (α := ℚ), Nat.cast_mul, Nat.cast_mul, powerFraction_fst h, ← mul_assoc,
    mul_le_mul_iff_left₀ denominator, le_div_iff₀ divisor, mul_comm (den : ℚ)]

end Power

/-! ## Rounding a quotient -/

/-- A quotient is rounded to the number that it is within half a unit of, to an even one also at
exactly half a unit. -/
theorem roundDiv_eq_of_nat {num den n : ℕ} (pos : 0 < den) (low : 2 * (den * n) ≤ 2 * num + den)
    (high : 2 * num ≤ 2 * (den * n) + den)
    (inside : n % 2 = 1 → 2 * (den * n) < 2 * num + den ∧ 2 * num < 2 * (den * n) + den) :
    roundDiv num den = n := by
  have whole := Nat.div_add_mod num den
  have rest := Nat.mod_lt num pos
  unfold roundDiv
  simp only
  generalize num / den = q at *
  generalize num % den = r at *
  -- the quotient cut off is the number or the one before it
  obtain rfl | rfl : n = q ∨ n = q + 1 := by
    have least : ¬ n + 1 ≤ q := fun h => by
      have := Nat.mul_le_mul_left den h
      rw [Nat.mul_add] at this
      omega
    have most : ¬ q + 2 ≤ n := fun h => by
      have := Nat.mul_le_mul_left den h
      rw [Nat.mul_add] at this
      omega
    omega
  · split
    · rfl
    · rw [if_neg (by omega), if_pos (by omega)]
  · rw [Nat.mul_add] at low high inside
    rw [if_neg (by omega)]
    split
    · rfl
    · rw [if_neg (by omega)]

/-- The same, with the quotient as a rational number. -/
theorem roundDiv_eq {num den n : ℕ} (pos : 0 < den) (low : (n : ℚ) - 1 / 2 ≤ (num : ℚ) / den)
    (high : (num : ℚ) / den ≤ n + 1 / 2)
    (inside : n % 2 = 1 → (n : ℚ) - 1 / 2 < (num : ℚ) / den ∧ (num : ℚ) / den < n + 1 / 2) :
    roundDiv num den = n := by
  have divisor : (0 : ℚ) < den := Nat.cast_pos.2 pos
  rw [le_div_iff₀ divisor] at low
  rw [div_le_iff₀ divisor] at high
  rw [lt_div_iff₀ divisor, div_lt_iff₀ divisor] at inside
  have low' : (2 * (den * n) : ℚ) ≤ 2 * num + den := by linarith
  have high' : (2 * num : ℚ) ≤ 2 * (den * n) + den := by linarith
  refine roundDiv_eq_of_nat pos (by exact_mod_cast low') (by exact_mod_cast high') fun odd => ?_
  obtain ⟨above, under⟩ := inside odd
  have above' : (2 * (den * n) : ℚ) < 2 * num + den := by linarith
  have under' : (2 * num : ℚ) < 2 * (den * n) + den := by linarith
  exact ⟨by exact_mod_cast above', by exact_mod_cast under'⟩

/-- A rounded quotient is the quotient cut off, or the next number. -/
theorem roundDiv_eq_or (num den : ℕ) :
    roundDiv num den = num / den ∨ roundDiv num den = num / den + 1 := by
  rw [roundDiv]
  split
  · exact .inl rfl
  · split
    · exact .inr rfl
    · split
      · exact .inl rfl
      · exact .inr rfl

namespace Binary64

/-! ## Binades -/

/-- The binade of a quotient. -/
theorem floorLog2_spec {num den : ℕ} (hnum : 0 < num) (hden : 0 < den) :
    (2 : ℚ) ^ floorLog2 num den ≤ (num : ℚ) / den ∧
      (num : ℚ) / den < 2 ^ (floorLog2 num den + 1) := by
  have divisor : (0 : ℚ) < den := Nat.cast_pos.2 hden
  have numLow : (2 : ℚ) ^ (num.log2 : ℤ) ≤ num := by
    exact_mod_cast Nat.log2_self_le hnum.ne'
  have numHigh : (num : ℚ) < 2 ^ ((num.log2 : ℤ) + 1) := by
    exact_mod_cast Nat.lt_log2_self
  have denLow : (2 : ℚ) ^ (den.log2 : ℤ) ≤ den := by
    exact_mod_cast Nat.log2_self_le hden.ne'
  have denHigh : (den : ℚ) < 2 ^ ((den.log2 : ℤ) + 1) := by
    exact_mod_cast Nat.lt_log2_self
  have test := le_quotient_iff (by decide : 0 < 2) ((num.log2 : ℤ) - den.log2) num hden
  rw [floorLog2]
  simp only
  split
  next inBinade =>
    refine ⟨test.1 inBinade, ?_⟩
    rw [div_lt_iff₀ divisor]
    calc (num : ℚ) < 2 ^ ((num.log2 : ℤ) + 1) := numHigh
      _ = 2 ^ ((num.log2 : ℤ) - den.log2 + 1) * 2 ^ (den.log2 : ℤ) := by
        rw [← zpow_add₀ two_ne_zero]; congr 1; omega
      _ ≤ 2 ^ ((num.log2 : ℤ) - den.log2 + 1) * den := by gcongr
  next below =>
    refine ⟨?_, ?_⟩
    · rw [le_div_iff₀ divisor]
      calc (2 : ℚ) ^ ((num.log2 : ℤ) - den.log2 - 1) * den
          ≤ 2 ^ ((num.log2 : ℤ) - den.log2 - 1) * 2 ^ ((den.log2 : ℤ) + 1) := by gcongr
        _ = 2 ^ (num.log2 : ℤ) := by rw [← zpow_add₀ two_ne_zero]; congr 1; omega
        _ ≤ num := numLow
    · have := not_le.1 (mt test.2 below)
      simpa using this

/-- The binade of a value that is a power of two or more, in units of `2 ^ e`. -/
theorem add_le_of_binade {n : ℕ} {e l : ℤ} {v : ℚ} (low : ((2 ^ n : ℕ) : ℚ) * 2 ^ e ≤ v)
    (high : v < 2 ^ (l + 1)) : n + e ≤ l := by
  rw [Nat.cast_pow, Nat.cast_ofNat, ← zpow_natCast, ← zpow_add₀ two_ne_zero] at low
  have := (zpow_lt_zpow_iff_right₀ one_lt_two).1 (low.trans_lt high)
  omega

/-- The binade of a value that is below a power of two, in units of `2 ^ e`. -/
theorem lt_add_of_binade {n : ℕ} {e l : ℤ} {v : ℚ} (low : (2 : ℚ) ^ l ≤ v)
    (high : v < ((2 ^ n : ℕ) : ℚ) * 2 ^ e) : l < n + e := by
  rw [Nat.cast_pow, Nat.cast_ofNat, ← zpow_natCast, ← zpow_add₀ two_ne_zero] at high
  exact (zpow_lt_zpow_iff_right₀ one_lt_two).1 (low.trans_lt high)

/-! ## Reach -/

/-- How far the reach goes down, in units of the last bit. -/
def below (m : ℕ) (e : ℤ) : ℚ := if m = 2 ^ 52 ∧ -1074 < e then 1 / 4 else 1 / 2

/-- Is the value in the reach of `m · 2 ^ e`?  It is so far in units of the last bit. -/
structure Reach (m : ℕ) (e : ℤ) (v : ℚ) : Prop where
  low : (m - below m e) * 2 ^ e ≤ v
  high : v ≤ (m + 1 / 2) * 2 ^ e
  inside : m % 2 = 1 → (m - below m e) * 2 ^ e < v ∧ v < (m + 1 / 2) * 2 ^ e

theorem below_le (m : ℕ) (e : ℤ) : below m e ≤ 1 / 2 := by
  rw [below]; split <;> norm_num

theorem below_pos (m : ℕ) (e : ℤ) : 0 < below m e := by
  rw [below]; split <;> norm_num

/-- A number is in its own reach. -/
theorem Reach.self (m : ℕ) (e : ℤ) : Reach m e (m * 2 ^ e) := by
  have power : (0 : ℚ) < 2 ^ e := by positivity
  have positive := below_pos m e
  have low : (m - below m e) * 2 ^ e < (m * 2 ^ e : ℚ) := by
    refine mul_lt_mul_of_pos_right ?_ power
    linarith
  have high : (m * 2 ^ e : ℚ) < (m + 1 / 2) * 2 ^ e := by
    refine mul_lt_mul_of_pos_right ?_ power
    linarith
  exact ⟨low.le, high.le, fun _ => ⟨low, high⟩⟩

variable {m : ℕ} {e : ℤ}

theorem Reach.pos {v : ℚ} (h : Reach m e v) (hm : 0 < m) : 0 < v := by
  have one : (1 : ℚ) ≤ m := by exact_mod_cast hm
  have half := below_le m e
  have low : 0 < (m - below m e) * (2 : ℚ) ^ e := by
    refine mul_pos ?_ (by positivity)
    linarith
  exact low.trans_le h.low

/-- The grid on which a quotient in reach is rounded is that of the number, or the one below it at
a power of two. -/
theorem grid_of_reach (canonical : Canonical m e) {num den : ℕ} (hnum : 0 < num) (hden : 0 < den)
    (reach : Reach m e ((num : ℚ) / den)) :
    max (-1074) (floorLog2 num den - 52) = e ∨
      max (-1074) (floorLog2 num den - 52) = e - 1 ∧ m = 2 ^ 52 ∧ -1074 < e ∧
        (num : ℚ) / den < m * 2 ^ e := by
  obtain ⟨atLeast, less⟩ := floorLog2_spec hnum hden
  generalize floorLog2 num den = l at *
  generalize (num : ℚ) / den = v at *
  have power : (0 : ℚ) < 2 ^ e := by positivity
  have least := canonical.least
  have half := below_le m e
  -- the upper end is below `2 ^ (e + 53)`
  have notAbove : l < (53 : ℕ) + e := by
    refine lt_add_of_binade atLeast (reach.high.trans_lt (mul_lt_mul_of_pos_right ?_ power))
    have short : (m : ℚ) + 1 ≤ ((2 ^ 53 : ℕ) : ℚ) := by exact_mod_cast canonical.short
    exact lt_of_lt_of_le (by norm_num) short
  by_cases sameBinade : 52 + e ≤ l
  · left; omega
  rcases canonical.full with full | lowest
  · by_cases lowest : e = -1074
    · left; omega
    · right
      have lower : v < m * 2 ^ e := by
        by_contra! atLeast
        have : ((2 ^ 52 : ℕ) : ℚ) * 2 ^ e ≤ v := le_trans (by gcongr) atLeast
        have := add_le_of_binade this less
        omega
      -- only at a power of two does the reach go into the binade below
      have power : m = 2 ^ 52 := by
        by_contra more
        have more : (2 ^ 52 + 1 : ℕ) ≤ (m : ℚ) := by
          have : 2 ^ 52 + 1 ≤ m := by omega
          exact_mod_cast this
        have : ((2 ^ 52 : ℕ) : ℚ) * 2 ^ e ≤ v := by
          refine le_trans (mul_le_mul_of_nonneg_right ?_ power.le) reach.low
          push_cast at more ⊢
          linarith
        have := add_le_of_binade this less
        omega
      have quarter : ((2 ^ 51 : ℕ) : ℚ) * 2 ^ e ≤ v := by
        refine le_trans (mul_le_mul_of_nonneg_right ?_ (by positivity)) reach.low
        have : (m : ℚ) = 2 ^ 52 := by rw [power]; norm_num
        push_cast
        linarith
      have := add_le_of_binade quarter less
      exact ⟨by omega, power, by omega, lower⟩
  · left; omega

/-- A quotient against the grid of an exponent. -/
theorem quotient_scaled (num den : ℕ) (l : ℤ) :
    ((num * (powerFraction 2 l).2 : ℕ) : ℚ) / (den * (powerFraction 2 l).1 : ℕ)
      = (num : ℚ) / den / 2 ^ l := by
  rw [show (2 : ℚ) ^ l = ((2 : ℕ) : ℚ) ^ l by norm_num, ← powerFraction_div (by decide)]
  push_cast
  rw [div_div_div_eq]

/-- On the grid of a number, a quotient in its reach is rounded to it. -/
theorem roundDiv_of_reach {num den : ℕ} (hden : 0 < den) (reach : Reach m e ((num : ℚ) / den)) :
    roundDiv (num * (powerFraction 2 e).2) (den * (powerFraction 2 e).1) = m := by
  have width := Nat.mul_pos hden (powerFraction_pos (by decide : 0 < 2) e).1
  have unit : (0 : ℚ) < 2 ^ e := by positivity
  have half : (m : ℚ) - 1 / 2 ≤ m - below m e := sub_le_sub_left (below_le m e) _
  have lowest := mul_le_mul_of_nonneg_right half unit.le
  refine roundDiv_eq width ?_ ?_ fun odd => ?_
  · rw [quotient_scaled, le_div_iff₀ unit]
    exact lowest.trans reach.low
  · rw [quotient_scaled, div_le_iff₀ unit]
    exact reach.high
  · obtain ⟨above, under⟩ := reach.inside odd
    rw [quotient_scaled, lt_div_iff₀ unit, div_lt_iff₀ unit]
    exact ⟨lowest.trans_lt above, under⟩

/-- On the grid below a power of two, a quotient in its reach is rounded up to it. -/
theorem roundDiv_of_reach_below (notLeast : -1074 < e) {num den : ℕ} (hden : 0 < den)
    (reach : Reach (2 ^ 52) e ((num : ℚ) / den))
    (lower : (num : ℚ) / den < ((2 ^ 52 : ℕ) : ℚ) * 2 ^ e) :
    roundDiv (num * (powerFraction 2 (e - 1)).2) (den * (powerFraction 2 (e - 1)).1) = 2 ^ 53 := by
  have width := Nat.mul_pos hden (powerFraction_pos (by decide : 0 < 2) (e - 1)).1
  have unit : (0 : ℚ) < 2 ^ (e - 1) := by positivity
  have twice : (2 : ℚ) ^ e = 2 * 2 ^ (e - 1) := by
    rw [← zpow_one_add₀ two_ne_zero, add_sub_cancel]
  have low := reach.low
  rw [below, if_pos ⟨rfl, notLeast⟩, twice, ← mul_assoc] at low
  rw [twice, ← mul_assoc] at lower
  push_cast at low lower
  refine roundDiv_eq width ?_ ?_ fun odd => absurd odd (by decide)
  · rw [quotient_scaled, le_div_iff₀ unit]
    refine le_trans (mul_le_mul_of_nonneg_right ?_ unit.le) low
    norm_num
  · rw [quotient_scaled, div_le_iff₀ unit]
    refine le_trans lower.le (mul_le_mul_of_nonneg_right ?_ unit.le)
    norm_num

/-- A quotient in reach of a number has the word of the number. -/
theorem nearestWord_of_reach (canonical : Canonical m e) (hm : 0 < m) {num den : ℕ}
    (hden : 0 < den) (reach : Reach m e ((num : ℚ) / den)) :
    nearestWord num den = wordOf m e := by
  have hnum : 0 < num := by
    have := (div_pos_iff_of_pos_right (Nat.cast_pos.2 hden : (0 : ℚ) < den)).1 (reach.pos hm)
    exact_mod_cast this
  have grid := grid_of_reach canonical hnum hden reach
  have least := canonical.least
  rw [nearestWord, if_neg hnum.ne']
  simp only
  generalize max (-1074) (floorLog2 num den - 52) = l at grid
  rcases grid with rfl | ⟨rfl, rfl, notLeast, lower⟩
  · rw [roundDiv_of_reach hden reach]
    exact min_eq_right (wordOf_le canonical)
  · -- the carry out of the finer grid
    have words : (e - 1 + 1074).toNat * fractionUnit + 2 ^ 53 = wordOf (2 ^ 52) e := by
      rw [wordOf, fractionUnit]
      omega
    rw [roundDiv_of_reach_below notLeast hden reach lower, words]
    exact min_eq_right (wordOf_le canonical)

/-- A quotient in reach of a finite number is closed to it. -/
theorem nearest_of_reach {x : Float} {negative : Bool} (opened : ofFloat x = .finite negative m e)
    (hm : 0 < m) {num den : ℕ} (hden : 0 < den) (reach : Reach m e ((num : ℚ) / den)) :
    nearest negative num den = x := by
  obtain ⟨canonical, closed⟩ := ofFloat_eq_finite opened
  rw [nearest, nearestWord_of_reach canonical hm hden reach, closed]

/-- Zero is closed to the zero of its sign. -/
theorem nearest_zero {x : Float} {negative : Bool} (opened : ofFloat x = .finite negative 0 e) :
    nearest negative 0 1 = x := by
  obtain ⟨canonical, closed⟩ := ofFloat_eq_finite opened
  have lowest : e = -1074 := canonical.full.resolve_left (by decide)
  subst lowest
  rw [closed]
  rfl

/-! ## Above and below one -/

/-- The word of one. -/
def oneWord : ℕ := 1023 * fractionUnit

/-- A quotient of one or more does not come below the word of one. -/
theorem oneWord_le_nearestWord {num den : ℕ} (hden : 0 < den) (h : 1 ≤ (num : ℚ) / den) :
    oneWord ≤ nearestWord num den := by
  have divisor : (0 : ℚ) < den := Nat.cast_pos.2 hden
  have hnum : 0 < num := by
    have := (div_pos_iff_of_pos_right divisor).1 (zero_lt_one.trans_le h)
    exact_mod_cast this
  obtain ⟨low, high⟩ := floorLog2_spec hnum hden
  have binade : 0 ≤ floorLog2 num den := by
    have := (zpow_lt_zpow_iff_right₀ one_lt_two).1
      (lt_of_le_of_lt (show (2 : ℚ) ^ (0 : ℤ) ≤ num / den by simpa using h) high)
    omega
  rw [nearestWord, if_neg hnum.ne']
  simp only
  generalize floorLog2 num den = l at *
  rw [show max (-1074) (l - 52) = l - 52 by omega]
  have full : 2 ^ 52 ≤ roundDiv (num * (powerFraction 2 (l - 52)).2)
      (den * (powerFraction 2 (l - 52)).1) := by
    have width := Nat.mul_pos hden (powerFraction_pos (by decide : 0 < 2) (l - 52)).1
    have whole : 2 ^ 52 ≤ num * (powerFraction 2 (l - 52)).2
        / (den * (powerFraction 2 (l - 52)).1) := by
      rw [Nat.le_div_iff_mul_le width, ← Nat.cast_le (α := ℚ), Nat.cast_mul,
        ← le_div_iff₀ (Nat.cast_pos.2 width), quotient_scaled, le_div_iff₀ (by positivity)]
      calc ((2 ^ 52 : ℕ) : ℚ) * 2 ^ (l - 52) = 2 ^ l := by
            rw [Nat.cast_pow, Nat.cast_ofNat, ← zpow_natCast, ← zpow_add₀ two_ne_zero]
            congr 1
            omega
        _ ≤ num / den := low
    rcases roundDiv_eq_or (num * (powerFraction 2 (l - 52)).2)
      (den * (powerFraction 2 (l - 52)).1) with same | next <;> omega
  refine le_min (by decide) ?_
  simp only [oneWord, fractionUnit]
  omega

/-- A number below one has a word below that of one. -/
theorem wordOf_lt_oneWord (canonical : Canonical m e) (h : (m * 2 ^ e : ℚ) < 1) :
    wordOf m e < oneWord := by
  have short := canonical.short
  simp only [wordOf, oneWord, fractionUnit]
  rcases canonical.full with full | rfl
  · have small : ((2 ^ 52 : ℕ) : ℚ) * 2 ^ e ≤ m * 2 ^ e := by gcongr
    have := add_le_of_binade small (h.trans_eq (zpow_zero 2).symm : _ < (2 : ℚ) ^ (-1 + 1 : ℤ))
    omega
  · omega

end Binary64

end GcodeSender.Decimal
