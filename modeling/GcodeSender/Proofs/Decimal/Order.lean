/-
# `GcodeSender.Proofs.Decimal.Order` — the order of machine numbers

Machine numbers are compared by what they are when opened.  Each has a place,
and a number that is no number has none:

    −∞        −m · 2 ^ e       ±0        m · 2 ^ e      +∞
    (−2,0,0)  (−1, −e, −m)     (0,0,0)   (1, e, m)      (2,0,0)

One number is less than another where its place comes before the other's
(`lt_iff`), so "at most" and "less" chain as they do for any order
(`lt_of_le_of_lt`).
-/
import Mathlib
import GcodeSender.Scalar

namespace GcodeSender.Decimal

open Float.Model (UnpackedFloat)

/-- Where an opened number stands: its side of zero, its exponent, its mantissa. -/
def place? : UnpackedFloat → Option (ℤ × ℤ × ℤ)
  | .notANumber => none
  | .infinity .negative => some (-2, 0, 0)
  | .finite .negative m e _ => some (-1, -e, -m)
  | .zero _ => some (0, 0, 0)
  | .finite .positive m e _ => some (1, e, m)
  | .infinity .positive => some (2, 0, 0)

/-- The order of places. -/
def Before (p q : ℤ × ℤ × ℤ) : Prop :=
  p.1 < q.1 ∨ p.1 = q.1 ∧ (p.2.1 < q.2.1 ∨ p.2.1 = q.2.1 ∧ p.2.2 < q.2.2)

theorem isLE_compare_then {e e' : ℤ} {m m' : ℕ} :
    ((compare e e').then (compare m m')).isLE = true ↔ e ≤ e' ∧ (e' = e → m ≤ m') := by
  rw [Ordering.isLE_then_iff_or, compare_lt_iff_lt, compare_eq_iff_eq, Ordering.isLE_iff_ne_gt,
    compare_gt_iff_gt]
  omega

theorem lt_iff (a b : UnpackedFloat) :
    a.lt b = true ↔ ∃ p q, place? a = some p ∧ place? b = some q ∧ Before p q := by
  rcases a with (_ | _) | _ | _ | ⟨_ | _, m, e, _⟩ <;>
    rcases b with (_ | _) | _ | _ | ⟨_ | _, m', e', _⟩ <;>
    simp [place?, Before, UnpackedFloat.lt, UnpackedFloat.compare, Ordering.swap_then,
      Ordering.then_eq_lt, Ordering.swap_eq_lt, compare_lt_iff_lt, compare_gt_iff_gt]
  -- the two infinities, whose signs are compared
  all_goals decide

theorem le_iff (a b : UnpackedFloat) :
    a.le b = true ↔ ∃ p q, place? a = some p ∧ place? b = some q ∧ ¬ Before q p := by
  rcases a with (_ | _) | _ | _ | ⟨_ | _, m, e, _⟩ <;>
    rcases b with (_ | _) | _ | _ | ⟨_ | _, m', e', _⟩ <;>
    simp [place?, Before, UnpackedFloat.le, UnpackedFloat.compare, isLE_compare_then]
  case finite.negative.finite.negative =>
    rw [← Ordering.isLE_swap, Ordering.swap_then, ← Std.OrientedOrd.eq_swap,
      ← Std.OrientedOrd.eq_swap, isLE_compare_then, eq_comm]
  all_goals decide

theorem lt_of_le_of_lt {a b c : Float} (h : a ≤ b) (h' : b < c) : a < c := by
  have below : a.toModel.unpack.le b.toModel.unpack = true := of_decide_eq_true h
  have above : b.toModel.unpack.lt c.toModel.unpack = true := of_decide_eq_true h'
  obtain ⟨p, q, ha, hb, before⟩ := (le_iff _ _).1 below
  obtain ⟨q', r, hb', hc, before'⟩ := (lt_iff _ _).1 above
  cases hb.symm.trans hb'
  refine decide_eq_true ((lt_iff _ _).2 ⟨p, r, ha, hc, ?_⟩)
  rw [Before] at before before' ⊢
  omega

end GcodeSender.Decimal
