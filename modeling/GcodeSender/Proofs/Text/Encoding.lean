/-
# `GcodeSender.Proofs.Text.Encoding` — what is written in UTF-8 is read back

The bytes of a text are the bytes of its characters, one after the other, and
each character is one piece of them (`pieces_encode`): its lead byte announces
as many bytes as follow, and the bits that lead and trail contribute make up
its number again.  So every text is read back from its bytes.

    number              lead          trail
    0 … 7F              number        —
    80 … 7FF            C0 + n/64     1
    800 … FFFF          E0 + n/64²    2     no surrogates
    10000 … 10FFFF      F0 + n/64³    3
-/
import GcodeSender.Text.Utf8
import GcodeSender.Proofs.Text.Printable

namespace GcodeSender

namespace Text.Utf8

/-! ## Lead bytes -/

theorem lead?_one {b : UInt8} (h : b.toNat < 0x80) : lead? b = some ⟨b.toNat, 0x80, 0xBF, 0⟩ := by
  rw [lead?, if_pos (UInt8.lt_iff_toNat_lt.2 h)]

/-- A byte of at least `n` is not below a byte of at most `n`. -/
theorem not_lt_of_le {b k : UInt8} {n : Nat} (low : n ≤ b.toNat) (h : k.toNat ≤ n) : ¬ b < k :=
  fun below => Nat.not_lt.2 (Nat.le_trans h low) (UInt8.lt_iff_toNat_lt.1 below)

theorem beq_iff_toNat {b k : UInt8} : (b == k) = true ↔ b.toNat = k.toNat := by
  rw [beq_iff_eq, ← UInt8.toNat_inj]

theorem lead?_two {b : UInt8} (low : 0xC2 ≤ b.toNat) (high : b.toNat < 0xE0) :
    lead? b = some ⟨b.toNat - 0xC0, 0x80, 0xBF, 1⟩ := by
  rw [lead?, if_neg (not_lt_of_le low (by decide)), if_neg (not_lt_of_le low (by decide)),
    if_pos (UInt8.lt_iff_toNat_lt.2 high)]

/-- A lead byte of three: the second byte is narrowed behind the first of the row, and behind the
one that would lead into the surrogates. -/
theorem lead?_three {b : UInt8} (low : 0xE0 ≤ b.toNat) (high : b.toNat < 0xF0) :
    lead? b = some ⟨b.toNat - 0xE0, if b.toNat = 0xE0 then 0xA0 else 0x80,
      if b.toNat = 0xED then 0x9F else 0xBF, 2⟩ := by
  rw [lead?, if_neg (not_lt_of_le low (by decide)), if_neg (not_lt_of_le low (by decide)),
    if_neg (not_lt_of_le low (by decide))]
  by_cases first : b.toNat = 0xE0
  · rw [if_pos (beq_iff_toNat.2 first), if_pos first, if_neg (by omega), first]
  · rw [if_neg (fun h => first (beq_iff_toNat.1 h)), if_neg first]
    by_cases surrogate : b.toNat = 0xED
    · rw [if_pos (beq_iff_toNat.2 surrogate), if_pos surrogate, surrogate]
    · rw [if_neg (fun h => surrogate (beq_iff_toNat.1 h)), if_neg surrogate,
        if_pos (UInt8.lt_iff_toNat_lt.2 high)]

/-- A lead byte of four: the second byte is narrowed behind the first of the row and the last. -/
theorem lead?_four {b : UInt8} (low : 0xF0 ≤ b.toNat) (high : b.toNat ≤ 0xF4) :
    lead? b = some ⟨b.toNat - 0xF0, if b.toNat = 0xF0 then 0x90 else 0x80,
      if b.toNat = 0xF4 then 0x8F else 0xBF, 3⟩ := by
  have other : ∀ k : UInt8, k.toNat < 0xF0 → ¬ (b == k) = true := by
    intro k small same
    have := beq_iff_toNat.1 same
    omega
  rw [lead?, if_neg (not_lt_of_le low (by decide)), if_neg (not_lt_of_le low (by decide)),
    if_neg (not_lt_of_le low (by decide)), if_neg (other 0xE0 (by decide)),
    if_neg (other 0xED (by decide)), if_neg (not_lt_of_le low (by decide))]
  by_cases first : b.toNat = 0xF0
  · rw [if_pos (beq_iff_toNat.2 first), if_pos first, if_neg (by omega), first]
  · rw [if_neg (fun h => first (beq_iff_toNat.1 h)), if_neg first]
    by_cases last : b.toNat = 0xF4
    · rw [if_neg (not_lt_of_le (Nat.le_of_eq last.symm) (by decide)),
        if_pos (beq_iff_toNat.2 last), if_pos last, last]
    · have below : b.toNat < 0xF4 := by omega
      rw [if_pos (UInt8.lt_iff_toNat_lt.2 below), if_neg last]

/-! ## Characters -/

theorem gather_cons {low high b : UInt8} (h : low.toNat ≤ b.toNat) (h' : b.toNat ≤ high.toNat)
    (bits taken wanted : Nat) (rest : Bytes) :
    gather low high bits taken (wanted + 1) (b :: rest)
      = gather 0x80 0xBF (64 * bits + (b.toNat - 0x80)) (taken + 1) wanted rest := by
  have within : (low ≤ b && b ≤ high) = true := by
    simp only [Bool.and_eq_true, decide_eq_true_eq, UInt8.le_iff_toNat_le]
    exact ⟨h, h'⟩
  rw [gather, if_pos within]

theorem toNat_ofNat {n : Nat} (bound : n < 256) : (UInt8.ofNat n).toNat = n := by
  rw [UInt8.toNat_ofNat']
  omega

theorem toNat_tail (v : Nat) : (UInt8.ofNat (v % 64 + 128)).toNat = v % 64 + 128 :=
  toNat_ofNat (by omega)

/-- A byte behind the second brings six bits. -/
theorem gather_tail (v bits taken wanted : Nat) (rest : Bytes) :
    gather 0x80 0xBF bits taken (wanted + 1) (UInt8.ofNat (v % 64 + 128) :: rest)
      = gather 0x80 0xBF (64 * bits + v % 64) (taken + 1) wanted rest := by
  have tail := toNat_tail v
  rw [gather_cons (by rw [tail]; simp) (by rw [tail]; simp; omega), tail, Nat.add_sub_cancel]

/-- A character is a number that is no surrogate. -/
theorem toNat_valid (c : Char) : c.toNat < 0xD800 ∨ 0xDFFF < c.toNat ∧ c.toNat < 0x110000 := c.valid

/-- The bytes of a character are one piece, which is read as that character. -/
theorem pieces_encode (c : Char) (rest : Bytes) :
    pieces (String.utf8EncodeChar c ++ rest) = some c :: pieces rest := by
  have valid := toNat_valid c
  have self : ∀ n, n = c.toNat → Char.ofNat n = c := fun n same => by rw [same, Char.ofNat_toNat]
  have number : c.val.toNat = c.toNat := rfl
  rw [String.utf8EncodeChar, number]
  generalize c.toNat = v at valid self
  split
  next one =>
    rw [List.singleton_append, pieces, pieceAt, lead?_one (by rw [toNat_ofNat] <;> omega)]
    simp only [gather, toNat_ofNat (show v < 256 by omega), self v rfl, List.drop_zero]
  next =>
  split
  next two =>
    have lead : (UInt8.ofNat (v / 64 % 32 + 192)).toNat = v / 64 % 32 + 192 :=
      toNat_ofNat (by omega)
    rw [List.cons_append, List.singleton_append, pieces, pieceAt,
      lead?_two (by omega) (by omega), lead]
    dsimp only
    rw [gather_tail]
    simp only [gather]
    rw [self _ (by omega)]
    rfl
  next =>
  split
  next three =>
    have lead : (UInt8.ofNat (v / 4096 % 16 + 224)).toNat = v / 4096 % 16 + 224 :=
      toNat_ofNat (by omega)
    have second := toNat_tail (v / 64)
    rw [List.cons_append, List.cons_append, List.singleton_append, pieces, pieceAt,
      lead?_three (by omega) (by omega), lead]
    dsimp only
    rw [gather_cons (by rw [second]; split <;> simp; omega)
        (by rw [second]; split <;> (simp; omega)), second, gather_tail]
    simp only [gather]
    rw [self _ (by omega)]
    rfl
  next =>
    have lead : (UInt8.ofNat (v / 262144 % 8 + 240)).toNat = v / 262144 % 8 + 240 :=
      toNat_ofNat (by omega)
    have second := toNat_tail (v / 4096)
    rw [List.cons_append, List.cons_append, List.cons_append, List.singleton_append, pieces,
      pieceAt, lead?_four (by omega) (by omega), lead]
    dsimp only
    rw [gather_cons (by rw [second]; split <;> simp; omega)
        (by rw [second]; split <;> (simp; omega)), second, gather_tail, gather_tail]
    simp only [gather]
    rw [self _ (by omega)]
    rfl

theorem pieces_flatMap (s : List Char) :
    pieces (s.flatMap String.utf8EncodeChar) = s.map some := by
  induction s with
  | nil => rw [List.flatMap_nil, pieces, List.map_nil]
  | cons c rest ih => rw [List.flatMap_cons, pieces_encode, ih, List.map_cons]

/-- Every text is read back from its bytes. -/
theorem decode?_ofText (s : String) : decode? (Bytes.ofText s) = some s.toList := by
  rw [decode?, Bytes.ofText_eq, pieces_flatMap, List.mapM_map]
  show s.toList.mapM (fun c => (pure (id c) : Option Char)) = some s.toList
  rw [List.mapM_pure, List.map_id]
  rfl

/-- A byte of ASCII at the head of a text is its first character. -/
theorem eq_of_ofText_eq_cons {c : Char} {rest : List Char} {b : UInt8} {more : Bytes}
    (ascii : b.toNat < 0x80) (h : Bytes.ofText (.ofList (c :: rest)) = b :: more) :
    c = Char.ofNat b.toNat := by
  have read := pieces_flatMap (c :: rest)
  have bytes : (c :: rest).flatMap String.utf8EncodeChar = b :: more := by
    rw [← h, Bytes.ofText_eq, String.toList_ofList]
  rw [bytes, pieces, pieceAt, lead?_one ascii] at read
  exact (Option.some.inj (List.cons.inj read).1).symm

end Text.Utf8

end GcodeSender
