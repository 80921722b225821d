/-
# `GcodeSender.Decimal.Rounding` — rounding a quotient

`roundDiv num den` is the natural number nearest to `num / den`; a quotient
half-way between two goes to the even one.  Every number that the program
writes or reads is rounded by this one function: decimals to binary when a
numeral is read, binary to decimals when a position is printed.

    |den · roundDiv num den − num| ≤ den / 2          (`roundDiv_near`)
-/

namespace GcodeSender.Decimal

/-- The natural number nearest to `num / den`, an exact half going to the even neighbour. -/
def roundDiv (num den : Nat) : Nat :=
  let q := num / den
  let twice := 2 * (num % den)
  if twice < den then q
  else if den < twice then q + 1
  else if q % 2 = 0 then q
  else q + 1

/-- The rounded quotient is within half a unit of the quotient. -/
theorem roundDiv_near {num den : Nat} (h : 0 < den) :
    2 * (den * roundDiv num den) ≤ 2 * num + den ∧ 2 * num ≤ 2 * (den * roundDiv num den) + den := by
  have split_num := Nat.div_add_mod num den
  have rest := Nat.mod_lt num h
  unfold roundDiv
  simp only
  generalize num / den = q at *
  generalize num % den = r at *
  subst split_num
  split
  · omega
  · split
    · rw [Nat.mul_add]; omega
    · split
      · omega
      · rw [Nat.mul_add]; omega

/-- A multiple of the divisor is divided exactly. -/
theorem roundDiv_mul {q den : Nat} (h : 0 < den) : roundDiv (den * q) den = q := by
  simp [roundDiv, Nat.mul_div_cancel_left q h, h]

end GcodeSender.Decimal
