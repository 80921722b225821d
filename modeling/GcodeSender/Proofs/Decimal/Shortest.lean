/-
# `GcodeSender.Proofs.Decimal.Shortest` — the shortest decimal reads back

A finite number other than zero has a decimal in reach on the grid of
seventeen digits, for that grid is finer than the numbers of the machine: half
its width is less than `1 / 2 ^ 54` of the value.  So the search for the
shortest decimal ends with one in reach (`shortest_spec`), and a numeral in
reach of a number is rounded to it (`Numeral.toFloat_of_reach`).

    10 ^ (d − 1) ≤ value < 10 ^ d             d = pointOf         (`pointOf_spec`)
    10 ^ (d − 1) ≤ shortest ≤ 10 ^ d          the upper end only where it rounds up to it
-/
import GcodeSender.Proofs.Decimal.Nearest

namespace GcodeSender.Decimal

/-! ## Places -/

theorem length_digits_pos (n : ℕ) : 0 < (digits n).length := Nat.length_toDigits_pos

/-- A positive number has as many digits as it takes powers of ten to pass it. -/
theorem length_digits_spec {n : ℕ} (h : 0 < n) :
    (10 : ℚ) ^ ((digits n).length - 1 : ℤ) ≤ n ∧ (n : ℚ) < 10 ^ ((digits n).length : ℤ) := by
  have nonempty := length_digits_pos n
  have high : n < 10 ^ (digits n).length :=
    (Nat.length_toDigits_le_iff (by decide) nonempty).1 le_rfl
  have low : 10 ^ ((digits n).length - 1) ≤ n := by
    by_contra! less
    by_cases single : (digits n).length = 1
    · rw [single] at less
      omega
    · have := (Nat.length_toDigits_le_iff (b := 10) (by decide) (by omega)).2 less
      have : (digits n).length ≤ (digits n).length - 1 := this
      omega
  constructor
  · rw [← Nat.cast_one, ← Nat.cast_sub nonempty, zpow_natCast]
    exact_mod_cast low
  · rw [zpow_natCast]
    exact_mod_cast high

/-- The digits and the exponent of a decimal say which powers of ten it is between. -/
theorem decimal_spec {c : ℕ} (h : 0 < c) (k : ℤ) :
    (10 : ℚ) ^ (k + (digits c).length - 1) ≤ c * 10 ^ k ∧
      (c * 10 ^ k : ℚ) < 10 ^ (k + (digits c).length) := by
  obtain ⟨low, high⟩ := length_digits_spec h
  have unit : (0 : ℚ) < 10 ^ k := by positivity
  constructor
  · rw [add_sub_assoc, add_comm, zpow_add₀ (by norm_num)]
    exact mul_le_mul_of_nonneg_right low unit.le
  · rw [add_comm, zpow_add₀ (by norm_num)]
    exact mul_lt_mul_of_pos_right high unit

/-- A value puts the powers of ten around it in order. -/
theorem lt_of_ten_zpow {a b : ℤ} {v : ℚ} (low : (10 : ℚ) ^ a ≤ v) (high : v < 10 ^ b) : a < b :=
  (zpow_lt_zpow_iff_right₀ (by norm_num)).1 (low.trans_lt high)

/-- The place of the point bounds the quotient. -/
theorem pointOf_spec {num den : ℕ} (hnum : 0 < num) (hden : 0 < den) :
    (10 : ℚ) ^ (pointOf num den - 1) ≤ (num : ℚ) / den ∧
      (num : ℚ) / den < 10 ^ pointOf num den := by
  have divisor : (0 : ℚ) < den := Nat.cast_pos.2 hden
  obtain ⟨numLow, numHigh⟩ := length_digits_spec hnum
  obtain ⟨denLow, denHigh⟩ := length_digits_spec hden
  have test := le_quotient_iff (by decide : 0 < 10)
    ((digits num).length - (digits den).length : ℤ) num hden
  rw [pointOf]
  simp only
  generalize ((digits num).length : ℤ) = a at *
  generalize ((digits den).length : ℤ) = b at *
  split
  next short =>
    refine ⟨?_, ?_⟩
    · rw [le_div_iff₀ divisor]
      calc (10 : ℚ) ^ (a - b - 1) * den ≤ 10 ^ (a - b - 1) * 10 ^ b := by gcongr
        _ = 10 ^ (a - 1) := by rw [← zpow_add₀ (by norm_num)]; congr 1; omega
        _ ≤ num := numLow
    · simpa using not_le.1 (mt test.2 (not_le.2 short))
  next long =>
    refine ⟨by simpa using test.1 (not_lt.1 long), ?_⟩
    rw [div_lt_iff₀ divisor]
    calc (num : ℚ) < 10 ^ a := numHigh
      _ = 10 ^ (a - b + 1) * 10 ^ (b - 1) := by rw [← zpow_add₀ (by norm_num)]; congr 1; omega
      _ ≤ 10 ^ (a - b + 1) * den := by gcongr

/-! ## Grids of powers of ten -/

/-- A fraction against a point of a grid, cleared of denominators. -/
theorem le_grid_iff (a : ℕ) {den : ℕ} (pos : 0 < den) (c : ℕ) (k : ℤ) :
    a * (powerFraction 10 k).2 ≤ c * (powerFraction 10 k).1 * den ↔
      (a : ℚ) / den ≤ c * 10 ^ k := by
  have denominator : (0 : ℚ) < (powerFraction 10 k).2 :=
    Nat.cast_pos.2 (powerFraction_pos (by decide) k).2
  have divisor : (0 : ℚ) < den := Nat.cast_pos.2 pos
  have power := powerFraction_fst (by decide : 0 < 10) k
  rw [← Nat.cast_le (α := ℚ), div_le_iff₀ divisor]
  push_cast at power ⊢
  rw [power, show (c * (10 ^ k * (powerFraction 10 k).2) * den : ℚ)
    = c * 10 ^ k * den * (powerFraction 10 k).2 by ring, mul_le_mul_iff_left₀ denominator]

theorem grid_le_iff (a : ℕ) {den : ℕ} (pos : 0 < den) (c : ℕ) (k : ℤ) :
    c * (powerFraction 10 k).1 * den ≤ a * (powerFraction 10 k).2 ↔
      (c : ℚ) * 10 ^ k ≤ a / den := by
  have denominator : (0 : ℚ) < (powerFraction 10 k).2 :=
    Nat.cast_pos.2 (powerFraction_pos (by decide) k).2
  have divisor : (0 : ℚ) < den := Nat.cast_pos.2 pos
  have power := powerFraction_fst (by decide : 0 < 10) k
  rw [← Nat.cast_le (α := ℚ), le_div_iff₀ divisor]
  push_cast at power ⊢
  rw [power, show (c * (10 ^ k * (powerFraction 10 k).2) * den : ℚ)
    = c * 10 ^ k * den * (powerFraction 10 k).2 by ring, mul_le_mul_iff_left₀ denominator]

namespace Interval

open Binary64

variable {m : ℕ} {e : ℤ}

/-! ## The interval of a number -/

theorem den_pos (m : ℕ) (e : ℤ) : 0 < (Interval.of m e).den := (powerFraction_pos (by decide) _).2

/-- The three numerators stand for the two ends of the reach and the number. -/
theorem of_spec (hm : 0 < m) (e : ℤ) :
    ((Interval.of m e).low : ℚ) / (Interval.of m e).den = (m - below m e) * 2 ^ e ∧
      ((Interval.of m e).value : ℚ) / (Interval.of m e).den = m * 2 ^ e ∧
      ((Interval.of m e).high : ℚ) / (Interval.of m e).den = (m + 1 / 2) * 2 ^ e := by
  have quarter : ((powerFraction 2 (e - 2)).1 : ℚ) / (powerFraction 2 (e - 2)).2 = 2 ^ e / 4 := by
    rw [powerFraction_div (by decide), Nat.cast_ofNat, zpow_sub₀ two_ne_zero]
    norm_num
  refine ⟨?_, ?_, ?_⟩
  · simp only [Interval.of, below, Nat.pow_eq]
    split
    all_goals
      rw [Nat.cast_mul, Nat.cast_sub (by omega), mul_div_assoc, quarter]
      push_cast
      ring
  all_goals
    simp only [Interval.of]
    push_cast
    rw [mul_div_assoc, quarter]
    ring

/-- A decimal is inside the interval if it is in reach. -/
theorem contains_iff (hm : 0 < m) (c : ℕ) (k : ℤ) :
    (Interval.of m e).contains c k = true ↔ Reach m e (c * 10 ^ k) := by
  obtain ⟨low, -, high⟩ := of_spec hm e
  have pos := den_pos m e
  have closed : (Interval.of m e).closed = decide (m % 2 = 0) := rfl
  have lowLe := le_grid_iff (Interval.of m e).low pos c k
  have highLe := le_grid_iff (Interval.of m e).high pos c k
  have leLow := grid_le_iff (Interval.of m e).low pos c k
  have leHigh := grid_le_iff (Interval.of m e).high pos c k
  rw [low] at lowLe leLow
  rw [high] at highLe leHigh
  rw [contains]
  simp only [closed, decide_eq_true_eq]
  split
  next even =>
    simp only [Bool.and_eq_true, decide_eq_true_eq, lowLe, leHigh]
    exact ⟨fun ⟨h, h'⟩ => ⟨h, h', fun odd => absurd even (by omega)⟩, fun h => ⟨h.low, h.high⟩⟩
  next odd =>
    simp only [Bool.and_eq_true, decide_eq_true_eq, ← not_le, leLow, highLe]
    simp only [not_le]
    exact ⟨fun ⟨h, h'⟩ => ⟨h.le, h'.le, fun _ => ⟨h, h'⟩⟩, fun h => h.inside (by omega)⟩

/-! ## Neighbours on a grid -/

/-- The last point of the grid up to a fraction. -/
theorem grid_floor (a : ℕ) {den : ℕ} (pos : 0 < den) (k : ℤ) :
    ((a * (powerFraction 10 k).2 / ((powerFraction 10 k).1 * den) : ℕ) : ℚ) * 10 ^ k ≤ a / den ∧
      (a : ℚ) / den
        < ((a * (powerFraction 10 k).2 / ((powerFraction 10 k).1 * den) + 1 : ℕ) : ℚ) * 10 ^ k := by
  have width : 0 < (powerFraction 10 k).1 * den :=
    Nat.mul_pos (powerFraction_pos (by decide) k).1 pos
  constructor
  · rw [← grid_le_iff a pos, mul_assoc]
    exact Nat.div_mul_le_self _ _
  · rw [← not_le, ← grid_le_iff a pos, not_le, mul_assoc]
    exact Nat.lt_mul_of_div_lt (Nat.lt_succ_self _) width

/-- A neighbour is in reach, and less than a unit of the grid away from the number. -/
theorem neighbour?_spec (hm : 0 < m) {k : ℤ} {c : ℕ}
    (h : (Interval.of m e).neighbour? k = some c) :
    Reach m e (c * 10 ^ k) ∧ ∃ n : ℕ, (c = n ∨ c = n + 1) ∧
      (n : ℚ) * 10 ^ k ≤ m * 2 ^ e ∧ (m * 2 ^ e : ℚ) < (n + 1 : ℕ) * 10 ^ k := by
  obtain ⟨floorLe, ltNext⟩ := grid_floor (Interval.of m e).value (den_pos m e) k
  rw [(of_spec hm e).2.1] at floorLe ltNext
  rw [neighbour?] at h
  simp only at h
  have rounded := roundDiv_eq_or ((Interval.of m e).value * (powerFraction 10 k).2)
    ((powerFraction 10 k).1 * (Interval.of m e).den)
  generalize (Interval.of m e).value * (powerFraction 10 k).2
    / ((powerFraction 10 k).1 * (Interval.of m e).den) = n at *
  have inside : (Interval.of m e).contains c k = true ∧ (c = n ∨ c = n + 1) := by
    split at h
    next here _ => cases h; exact ⟨here, .inl rfl⟩
    next _ there => cases h; exact ⟨there, .inr rfl⟩
    next => cases h
    next here there =>
      cases h
      refine ⟨?_, rounded⟩
      rcases rounded with same | next
      · rw [same]; exact here
      · rw [next]; exact there
  exact ⟨(contains_iff hm c k).1 inside.1, n, inside.2, floorLe, ltNext⟩

end Interval

namespace Binary64

variable {m : ℕ} {e : ℤ}

/-- What is nearer to a number than `1 / 2 ^ 54` of it is in reach. -/
theorem Reach.of_near (canonical : Canonical m e) {v : ℚ}
    (low : (m * 2 ^ e : ℚ) - m * 2 ^ e / 2 ^ 54 < v)
    (high : v < (m * 2 ^ e : ℚ) + m * 2 ^ e / 2 ^ 54) : Reach m e v := by
  have power : (0 : ℚ) < 2 ^ e := by positivity
  have short : (m : ℚ) < 2 ^ 53 := by exact_mod_cast canonical.short
  have down : (m : ℚ) / 2 ^ 54 ≤ below m e := by
    rw [below]
    split
    next h => rw [h.1]; norm_num
    next => rw [div_le_iff₀ (by norm_num)]; linarith
  have above : (m - below m e) * 2 ^ e < v := by
    have := mul_le_mul_of_nonneg_right down power.le
    calc (m - below m e) * 2 ^ e = m * 2 ^ e - below m e * 2 ^ e := by ring
      _ ≤ m * 2 ^ e - m / 2 ^ 54 * 2 ^ e := by linarith
      _ = m * 2 ^ e - m * 2 ^ e / 2 ^ 54 := by ring
      _ < v := low
  have under : v < (m + 1 / 2) * 2 ^ e := by
    have half : (m : ℚ) / 2 ^ 54 ≤ 1 / 2 := by rw [div_le_iff₀ (by norm_num)]; linarith
    have := mul_le_mul_of_nonneg_right half power.le
    calc v < m * 2 ^ e + m * 2 ^ e / 2 ^ 54 := high
      _ = m * 2 ^ e + m / 2 ^ 54 * 2 ^ e := by ring
      _ ≤ m * 2 ^ e + 1 / 2 * 2 ^ e := by linarith
      _ = (m + 1 / 2) * 2 ^ e := by ring
  exact ⟨above.le, under.le, fun _ => ⟨above, under⟩⟩

end Binary64

open Binary64

variable {m : ℕ} {e : ℤ}

/-! ## The search -/

/-- On a grid of seventeen digits a neighbour is in reach. -/
theorem Interval.isSome_neighbour? (canonical : Canonical m e) (hm : 0 < m) {k : ℤ}
    (fine : (10 : ℚ) ^ (k + 16) ≤ m * 2 ^ e) : ((Interval.of m e).neighbour? k).isSome := by
  obtain ⟨floorLe, ltNext⟩ := grid_floor (Interval.of m e).value (den_pos m e) k
  rw [(of_spec hm e).2.1] at floorLe ltNext
  rw [neighbour?]
  simp only
  generalize (Interval.of m e).value * (powerFraction 10 k).2
    / ((powerFraction 10 k).1 * (Interval.of m e).den) = n at *
  have positive : (0 : ℚ) < m * 2 ^ e :=
    mul_pos (Nat.cast_pos.2 hm) (by positivity)
  -- half the width of the grid is less than `1 / 2 ^ 54` of the number
  have half : (10 : ℚ) ^ k / 2 < m * 2 ^ e / 2 ^ 54 := by
    rw [zpow_add₀ (by norm_num)] at fine
    norm_num at fine ⊢
    linarith
  push_cast at ltNext
  have near : Reach m e (n * 10 ^ k) ∨ Reach m e ((n + 1 : ℕ) * 10 ^ k) := by
    rcases le_total ((m * 2 ^ e : ℚ) - n * 10 ^ k) (10 ^ k / 2) with lower | upper
    · exact .inl (.of_near canonical (by linarith) (by linarith))
    · refine .inr (.of_near canonical ?_ ?_) <;> push_cast <;> linarith
  rcases near with here | there
  · rw [(contains_iff hm n k).2 here]
    cases (Interval.of m e).contains (n + 1) k <;> rfl
  · rw [(contains_iff hm (n + 1) k).2 there]
    cases (Interval.of m e).contains n k <;> rfl

/-- The place of the point of a number. -/
theorem pointOf_value (hm : 0 < m) {d : ℤ} (low : (10 : ℚ) ^ (d - 1) ≤ m * 2 ^ e)
    (high : (m * 2 ^ e : ℚ) < 10 ^ d) :
    pointOf (Interval.of m e).value (Interval.of m e).den = d := by
  have hnum : 0 < (Interval.of m e).value :=
    Nat.mul_pos (by omega) (powerFraction_pos (by decide) _).1
  obtain ⟨atLeast, less⟩ := pointOf_spec hnum (Interval.den_pos m e)
  rw [(Interval.of_spec hm e).2.1] at atLeast less
  have := lt_of_ten_zpow low less
  have := lt_of_ten_zpow atLeast high
  omega

/-- The shortest decimal is a neighbour on a grid on which the number has at least one digit. -/
theorem exists_neighbour?_shortest (canonical : Canonical m e) (hm : 0 < m) {d : ℤ}
    (low : (10 : ℚ) ^ (d - 1) ≤ m * 2 ^ e) (high : (m * 2 ^ e : ℚ) < 10 ^ d) :
    ∃ p : ℕ, 1 ≤ p ∧ (shortest m e).2 = d - p ∧
      (Interval.of m e).neighbour? (d - p) = some (shortest m e).1 := by
  rw [shortest]
  simp only [pointOf_value hm low high]
  have found : ((List.range' 1 17).findSome? fun p : ℕ =>
      ((Interval.of m e).neighbour? (d - p)).map (·, d - (p : ℤ))).isSome := by
    rw [List.findSome?_isSome_iff]
    refine ⟨17, by simp, ?_⟩
    rw [Option.isSome_map]
    refine Interval.isSome_neighbour? canonical hm ?_
    rwa [show d - ((17 : ℕ) : ℤ) + 16 = d - 1 by omega]
  obtain ⟨⟨c, k⟩, found⟩ := Option.isSome_iff_exists.1 found
  obtain ⟨p, mem, hit⟩ := List.exists_of_findSome?_eq_some found
  obtain ⟨c', neighbour, same⟩ := Option.map_eq_some_iff.1 hit
  obtain ⟨rfl, rfl⟩ := Prod.mk.inj same
  rw [found]
  exact ⟨p, (List.mem_range'_1.1 mem).1, rfl, neighbour⟩

/-- A power of ten is a point of each finer grid. -/
theorem ten_zpow_eq_grid {p : ℕ} {d k : ℤ} (finer : d = k + p) :
    (10 : ℚ) ^ d = (10 ^ p : ℕ) * 10 ^ k := by
  rw [finer, add_comm, zpow_add₀ (by norm_num), zpow_natCast, Nat.cast_pow, Nat.cast_ofNat]

/-- The shortest decimal of a number is in its reach, and within the powers of ten around it. -/
theorem shortest_spec (canonical : Canonical m e) (hm : 0 < m) {d : ℤ}
    (low : (10 : ℚ) ^ (d - 1) ≤ m * 2 ^ e) (high : (m * 2 ^ e : ℚ) < 10 ^ d) :
    Reach m e ((shortest m e).1 * 10 ^ (shortest m e).2) ∧
      (10 : ℚ) ^ (d - 1) ≤ (shortest m e).1 * 10 ^ (shortest m e).2 ∧
      ((shortest m e).1 * 10 ^ (shortest m e).2 : ℚ) ≤ 10 ^ d := by
  obtain ⟨p, atLeastOne, grid, neighbour⟩ := exists_neighbour?_shortest canonical hm low high
  rw [grid]
  generalize (shortest m e).1 = c at neighbour
  obtain ⟨reach, n, near, floorLe, ltNext⟩ := Interval.neighbour?_spec hm neighbour
  have unit : (0 : ℚ) < 10 ^ (d - (p : ℤ)) := by positivity
  refine ⟨reach, ?_, ?_⟩
  · rw [@ten_zpow_eq_grid (p - 1) _ (d - p) (by omega)] at low ⊢
    have less := (mul_lt_mul_iff_left₀ unit).1 (low.trans_lt ltNext)
    have less : 10 ^ (p - 1) < n + 1 := by exact_mod_cast less
    have : 10 ^ (p - 1) ≤ c := by omega
    gcongr
  · rw [@ten_zpow_eq_grid p d (d - p) (by omega)] at high ⊢
    have less := (mul_lt_mul_iff_left₀ unit).1 (floorLe.trans_lt high)
    have less : n < 10 ^ p := by exact_mod_cast less
    have : c ≤ 10 ^ p := by omega
    gcongr

/-! ## Reading back -/

/-- A power of two with three times the exponent is at most the power of ten. -/
theorem two_pow_le_ten_pow (n : ℕ) : (2 : ℚ) ^ (3 * n) ≤ 10 ^ n := by
  rw [pow_mul]
  exact pow_le_pow_left₀ (by norm_num) (by norm_num) n

/-- What is in reach of a number is far above the numerals that are taken for zero. -/
theorem Binary64.Reach.least (canonical : Canonical m e) (hm : 0 < m) {v : ℚ}
    (reach : Reach m e v) : (10 : ℚ) ^ (-(400 : ℕ) : ℤ) ≤ v := by
  have one : (1 : ℚ) ≤ m := by exact_mod_cast hm
  have half := below_le m e
  have atLeast := canonical.least
  calc (10 : ℚ) ^ (-(400 : ℕ) : ℤ) ≤ 2 ^ (-(3 * 400 : ℕ) : ℤ) := by
        rw [zpow_neg, zpow_neg, zpow_natCast, zpow_natCast]
        exact inv_anti₀ (by positivity) (two_pow_le_ten_pow 400)
    _ ≤ 2 ^ (-1 + e) := zpow_le_zpow_right₀ one_le_two (by omega)
    _ = 1 / 2 * 2 ^ e := by rw [zpow_add₀ two_ne_zero]; norm_num
    _ ≤ (m - below m e) * 2 ^ e := by gcongr; linarith
    _ ≤ v := reach.low

/-- What is in reach of a number is far below the numerals that are taken for infinite. -/
theorem Binary64.Reach.greatest (canonical : Canonical m e) {v : ℚ} (reach : Reach m e v) :
    v < (10 : ℚ) ^ ((400 : ℕ) : ℤ) := by
  have atMost := canonical.greatest
  have short : (m : ℚ) + 1 ≤ 2 ^ (53 : ℤ) := by exact_mod_cast canonical.short
  calc v ≤ (m + 1 / 2) * 2 ^ e := reach.high
    _ ≤ 2 ^ (53 : ℤ) * 2 ^ e := by gcongr; linarith
    _ = 2 ^ (53 + e) := by rw [← zpow_add₀ two_ne_zero]
    _ < 2 ^ ((3 * 400 : ℕ) : ℤ) := zpow_lt_zpow_right₀ one_lt_two (by omega)
    _ ≤ 10 ^ ((400 : ℕ) : ℤ) := by
        rw [zpow_natCast, zpow_natCast]
        exact two_pow_le_ten_pow 400

end GcodeSender.Decimal

namespace GcodeSender.Numeral

open Decimal Decimal.Binary64

/-- The quotient that a numeral is rounded from is its value. -/
theorem quotient_eq (mantissa : ℕ) (exponent : ℤ) :
    ((mantissa * (powerFraction 10 exponent).1 : ℕ) : ℚ) / (powerFraction 10 exponent).2
      = mantissa * 10 ^ exponent := by
  rw [Nat.cast_mul, mul_div_assoc, powerFraction_div (by decide), Nat.cast_ofNat]

theorem mantissa_pos {mantissa : ℕ} {exponent : ℤ} (h : (0 : ℚ) < mantissa * 10 ^ exponent) :
    0 < mantissa := by
  have := (mul_pos_iff_of_pos_right (by positivity : (0 : ℚ) < 10 ^ exponent)).1 h
  exact_mod_cast this

/-- A numeral in reach of a finite number is rounded to it. -/
theorem toFloat_of_reach {x : Float} {negative : Bool} {m : ℕ} {e : ℤ}
    (opened : ofFloat x = .finite negative m e) (hm : 0 < m) {mantissa : ℕ} {exponent : ℤ}
    (reach : Reach m e (mantissa * 10 ^ exponent)) :
    (decimal negative mantissa exponent).toFloat = x := by
  obtain ⟨canonical, -⟩ := ofFloat_eq_finite opened
  obtain ⟨low, high⟩ := decimal_spec (mantissa_pos (reach.pos hm)) exponent
  have least := lt_of_ten_zpow (reach.least canonical hm) high
  have greatest := lt_of_ten_zpow low (reach.greatest canonical)
  have positive := mantissa_pos (reach.pos hm)
  rw [toFloat]
  simp only
  rw [if_neg (by omega), if_neg (by omega)]
  exact nearest_of_reach opened hm (powerFraction_pos (by decide) exponent).2
    ((quotient_eq mantissa exponent).symm ▸ reach)

/-- A zero is rounded to the zero of its sign. -/
theorem toFloat_zero {x : Float} {negative : Bool} {e : ℤ}
    (opened : ofFloat x = .finite negative 0 e) (exponent : ℤ) :
    (decimal negative 0 exponent).toFloat = x := by
  rw [toFloat]
  simp only [true_or, if_true]
  exact nearest_zero opened

/-- A numeral of one or more is not rounded to a number below one. -/
theorem toFloat_ne_of_one_le {x : Float} {negative : Bool} {m : ℕ} {e : ℤ}
    (opened : ofFloat x = .finite negative m e) (less : (m * 2 ^ e : ℚ) < 1) {mantissa : ℕ}
    {exponent : ℤ} (h : (1 : ℚ) ≤ mantissa * 10 ^ exponent) :
    (decimal negative mantissa exponent).toFloat ≠ x := by
  intro same
  have below := wordOf_lt_oneWord (ofFloat_eq_finite opened).1 less
  have positive := mantissa_pos (zero_lt_one.trans_le h)
  have size := lt_of_ten_zpow ((zpow_zero _).trans_le h) (decimal_spec positive exponent).2
  rw [toFloat] at same
  simp only at same
  rw [if_neg (by omega)] at same
  split at same
  · have word := eq_wordOf opened le_rfl same
    exact absurd (word ▸ below) (by decide)
  · have word := eq_wordOf opened (nearestWord_le _ _) same
    have above := oneWord_le_nearestWord (powerFraction_pos (by decide) exponent).2
      ((quotient_eq mantissa exponent).symm ▸ h)
    omega

end GcodeSender.Numeral
