/-
# `GcodeSender.Text.Bytes` — what travels over the wire

A serial line carries bytes.  `Bytes` is a list of them, so that the laws of
lists are the laws of the wire: a chunk boundary is an append, a line is a
part before the first line end, a head is a list head.

The one operation of its own is the cut at a pattern: `cutAt? pattern s` is
the part of `s` before the first occurrence of `pattern` and the part behind
it.
-/
import GcodeSender.Text.Blank

namespace GcodeSender

/-- Bytes as they are written to and read from a serial line. -/
abbrev Bytes := List UInt8

namespace Bytes

/-- The bytes of a text in UTF-8. -/
def ofText (s : String) : Bytes := s.toUTF8.toList

/-- Does `s` begin with `head`? -/
def startsWith (s head : Bytes) : Bool := head.isPrefixOf s

/-- Bytes without the ASCII blanks in front and behind. -/
def trim (s : Bytes) : Bytes := Text.trimBytes s

/-- The part before the first occurrence of `pattern`, and the part behind it. -/
def cutAt? (pattern : Bytes) : Bytes → Option (Bytes × Bytes)
  | [] => if pattern.isEmpty then some ([], []) else none
  | b :: rest =>
    if startsWith (b :: rest) pattern then some ([], (b :: rest).drop pattern.length)
    else (cutAt? pattern rest).map fun (before, behind) => (b :: before, behind)

/-- The two parts of a cut and the pattern make up the whole. -/
theorem append_of_cutAt? {pattern s before behind : Bytes}
    (h : cutAt? pattern s = some (before, behind)) : before ++ pattern ++ behind = s := by
  induction s generalizing before behind with
  | nil =>
    simp only [cutAt?] at h
    split at h <;> simp_all
  | cons b rest ih =>
    simp only [cutAt?] at h
    split at h
    · rename_i hp
      obtain ⟨t, ht⟩ := List.isPrefixOf_iff_prefix.1 hp
      simp only [Option.some.injEq, Prod.mk.injEq] at h
      obtain ⟨rfl, rfl⟩ := h
      simp [← ht]
    · obtain ⟨⟨u, v⟩, hu, hv⟩ := Option.map_eq_some_iff.1 h
      simp only [Prod.mk.injEq] at hv
      obtain ⟨rfl, rfl⟩ := hv
      simpa using ih hu

end Bytes

end GcodeSender
