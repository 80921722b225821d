/-
# `GcodeSender.Proofs.Decimal.Words` — the words of machine numbers

A machine number is its word: opened and closed again it is the same number
(`ofFloat_eq_finite`), and different words that do not pass infinity are
different numbers (`ofBits_inj`).  A number that a quotient is rounded to is not "no
number" (`nearest_ne_nan`).

    wordOf m e = (e + 1074) · 2 ^ 52 + m

The sum is right for both kinds of words: where `m` has its 53 bits, the
highest of them counts the exponent field one further.
-/
import Mathlib
import GcodeSender.Decimal.Numeral

namespace GcodeSender.Decimal.Binary64

/-! ## Words of the format -/

open Float.Model.UnpackedFloat (unpackExponent unpackMantissa)

/-- A word whose magnitude does not pass infinity is a word of the format. -/
theorem valid_ofNat {word : Nat} (h : word % signUnit ≤ infinityWord) :
    Float.Model.Format.binary64.Valid (UInt64.ofNat word).toBitVec := by
  constructor
  intro exponent mantissa
  have he := congrArg BitVec.toNat exponent
  have hm : (@unpackMantissa Float.Model.Format.binary64
      (UInt64.ofNat word).toBitVec).toNat ≠ 0 := fun zero => mantissa (BitVec.eq_of_toNat_eq zero)
  simp only [unpackExponent, unpackMantissa, BitVec.toNat_cast, BitVec.extractLsb_toNat,
    UInt64.toNat_toBitVec, UInt64.toNat_ofNat', Nat.shiftRight_eq_div_pow] at he hm
  -- the exponent field all ones, the fraction not zero: past infinity
  change word % 2 ^ 64 / 2 ^ 52 % 2048 = 2047 at he
  change word % 2 ^ 64 / 2 ^ 0 % 4503599627370496 ≠ 0 at hm
  simp only [signUnit, infinityWord] at h
  omega

/-- Such a word is the word of the number that it is closed to. -/
theorem toBits_ofBits {word : Nat} (h : word % signUnit ≤ infinityWord) :
    (Float.ofBits (.ofNat word)).toBits = .ofNat word := by
  have closed : Float.ofBits (.ofNat word) = ⟨⟨.ofNat word, valid_ofNat h⟩⟩ :=
    Float.ofBits_toBits ⟨⟨.ofNat word, valid_ofNat h⟩⟩
  rw [closed]
  rfl

theorem ofBits_ne_nan {word : Nat} (h : word % signUnit ≤ infinityWord) :
    Float.ofBits (.ofNat word) ≠ Float.nan := by
  intro same
  have bits := congrArg UInt64.toNat ((toBits_ofBits h).symm.trans (congrArg Float.toBits same))
  rw [UInt64.toNat_ofNat', show Float.nan.toBits.toNat = 0x7FF8000000000000 by decide] at bits
  simp only [signUnit, infinityWord] at h
  omega

/-- Different words are different numbers. -/
theorem ofBits_inj {word word' : Nat} (h : word % signUnit ≤ infinityWord)
    (h' : word' % signUnit ≤ infinityWord) (fits : word < 2 ^ 64) (fits' : word' < 2 ^ 64)
    (same : Float.ofBits (.ofNat word) = Float.ofBits (.ofNat word')) : word = word' := by
  have bits := congrArg Float.toBits same
  rw [toBits_ofBits h, toBits_ofBits h'] at bits
  have words := congrArg UInt64.toNat bits
  rw [UInt64.toNat_ofNat', UInt64.toNat_ofNat'] at words
  omega

theorem signed_mod_le (negative : Bool) {magnitude : Nat} (h : magnitude ≤ infinityWord) :
    ((if negative then signUnit else 0) + magnitude) % signUnit ≤ infinityWord := by
  simp only [signUnit, infinityWord] at h ⊢
  cases negative <;> simp only [if_true, Bool.false_eq_true, if_false] <;> omega

theorem nearestWord_le (num den : Nat) : nearestWord num den ≤ infinityWord := by
  rw [nearestWord]
  split
  · exact Nat.zero_le _
  · exact Nat.min_le_left _ _

theorem nearest_ne_nan (negative : Bool) (num den : Nat) : nearest negative num den ≠ Float.nan :=
  ofBits_ne_nan (signed_mod_le negative (nearestWord_le num den))

theorem infinity_ne_nan (negative : Bool) : infinity negative ≠ Float.nan :=
  ofBits_ne_nan (signed_mod_le negative (Nat.le_refl _))

/-! ## Finite numbers -/

/-- The pairs `m`, `e` that open a finite number: `m` fills its 53 bits, or `e` is the least
exponent. -/
structure Canonical (m : ℕ) (e : ℤ) : Prop where
  short : m < 2 ^ 53
  least : -1074 ≤ e
  greatest : e ≤ 971
  full : 2 ^ 52 ≤ m ∨ e = -1074

/-- The word of `m · 2 ^ e`. -/
def wordOf (m : ℕ) (e : ℤ) : ℕ := (e + 1074).toNat * fractionUnit + m

/-- A finite number is opened into a canonical pair, and closed again by its sign and its word. -/
theorem ofFloat_eq_finite {x : Float} {negative : Bool} {m : ℕ} {e : ℤ}
    (h : ofFloat x = .finite negative m e) :
    Canonical m e ∧ x = .ofBits (.ofNat ((if negative then signUnit else 0) + wordOf m e)) := by
  have closed : ∀ w, w = x.toBits.toNat → Float.ofBits (.ofNat w) = x := by
    rintro w rfl
    rw [UInt64.ofNat_toNat, Float.ofBits_toBits]
  have bound := x.toBits.toNat_lt
  rw [ofFloat] at h
  generalize word : x.toBits.toNat = w at *
  have sign : (if decide (signUnit ≤ w) then signUnit else 0) = w / 2 ^ 63 * 2 ^ 63 := by
    by_cases high : signUnit ≤ w
    · rw [if_pos (decide_eq_true high)]
      simp only [signUnit] at high ⊢
      omega
    · rw [if_neg (by simpa using high)]
      simp only [signUnit] at high
      omega
  split at h
  · split at h <;> cases h
  next finite =>
    split at h
    next subnormal =>
      cases h
      rw [sign]
      simp only [wordOf, fractionUnit] at finite subnormal ⊢
      refine ⟨⟨by omega, le_rfl, by decide, .inr rfl⟩, (closed _ ?_).symm⟩
      rw [show (-1074 + 1074 : ℤ).toNat = 0 from rfl]
      omega
    next normal =>
      cases h
      rw [sign]
      simp only [wordOf, fractionUnit] at finite normal ⊢
      refine ⟨⟨by omega, by omega, by omega, .inl (by omega)⟩, (closed _ ?_).symm⟩
      omega

/-- The finite words end before that of infinity. -/
theorem wordOf_le {m : ℕ} {e : ℤ} (h : Canonical m e) : wordOf m e ≤ infinityWord := by
  have short := h.short
  have greatest := h.greatest
  simp only [wordOf, fractionUnit, infinityWord]
  omega

/-- What is closed to a finite number is the word of the number. -/
theorem eq_wordOf {x : Float} {negative : Bool} {m : ℕ} {e : ℤ}
    (opened : ofFloat x = .finite negative m e) {word : ℕ} (h : word ≤ infinityWord)
    (same : Float.ofBits (.ofNat ((if negative then signUnit else 0) + word)) = x) :
    word = wordOf m e := by
  obtain ⟨canonical, closed⟩ := ofFloat_eq_finite opened
  have bound : infinityWord < 2 ^ 63 := by decide
  have sign : (if negative then signUnit else 0) ≤ 2 ^ 63 := by cases negative <;> decide
  have h' := wordOf_le canonical
  have words := ofBits_inj (signed_mod_le negative h) (signed_mod_le negative h')
    (by omega) (by omega) (same.trans closed)
  omega

end GcodeSender.Decimal.Binary64
