/-
# `GcodeSender.Proofs.Text.Wire` — lines on the wire, however they are cut

A stream of lines is the lines, each followed by its end, one behind the other
(`onWire`).  Whoever reads it sees pieces, and looks for the first line end in
what has come so far.

    cutAt?_append    a line that is there stays the first one when more comes
    cutAt?_onWire    the first line end ends the first line
    trimWith_append  trimming keeps what begins with nothing to be trimmed
    trimWith_around  trimming takes off what surrounds such a text
    trim_trim        trimming twice is trimming once

So a reader that takes lines off what has come so far takes exactly the lines
that were sent, wherever the pieces were cut.
-/
import GcodeSender.Text.Bytes

namespace GcodeSender.Bytes

/-- Line feed, the last byte of a line end. -/
def lineFeed : UInt8 := 0x0A

/-- A stream of lines, each followed by a line end. -/
def onWire (ending : Bytes) (lines : List Bytes) : Bytes := (lines.map (· ++ ending)).flatten

@[simp] theorem onWire_nil (ending : Bytes) : onWire ending [] = [] := rfl

@[simp] theorem onWire_cons (ending line : Bytes) (rest : List Bytes) :
    onWire ending (line :: rest) = line ++ ending ++ onWire ending rest := by
  simp [onWire]

theorem onWire_append (ending : Bytes) (lines more : List Bytes) :
    onWire ending (lines ++ more) = onWire ending lines ++ onWire ending more := by
  simp [onWire]

/-! ## Cutting -/

/-- A cut that is there stays the first one when more comes. -/
theorem cutAt?_append {pattern s before behind : Bytes}
    (h : cutAt? pattern s = some (before, behind)) (more : Bytes) :
    cutAt? pattern (s ++ more) = some (before, behind ++ more) := by
  induction s generalizing before behind with
  | nil =>
    have nothing : pattern = [] := by
      cases pattern with
      | nil => rfl
      | cons _ _ => cases h
    subst nothing
    cases h
    cases more <;> rfl
  | cons b rest ih =>
    simp only [cutAt?, List.cons_append] at h ⊢
    split at h
    next here =>
      cases h
      obtain ⟨behind, hbehind⟩ := List.isPrefixOf_iff_prefix.1 here
      have still : startsWith (b :: (rest ++ more)) pattern = true := by
        refine List.isPrefixOf_iff_prefix.2 ⟨behind ++ more, ?_⟩
        rw [← List.append_assoc, hbehind, List.cons_append]
      rw [if_pos still, ← List.cons_append, ← hbehind]
      simp
    next notHere =>
      obtain ⟨⟨before', behind'⟩, hcut, heq⟩ := Option.map_eq_some_iff.1 h
      cases heq
      -- what comes later cannot complete the pattern here: it occurs in `rest` as a whole
      have long : pattern.length ≤ (b :: rest).length := by
        rw [← append_of_cutAt? hcut]
        simp only [List.length_cons, List.length_append]
        omega
      have notThere : ¬ startsWith (b :: (rest ++ more)) pattern = true := by
        intro there
        have prefix_ := List.isPrefixOf_iff_prefix.1 there
        rw [← List.cons_append] at prefix_
        exact notHere (List.isPrefixOf_iff_prefix.2
          (List.prefix_of_prefix_length_le prefix_ (List.prefix_append _ _) long))
      rw [if_neg notThere, ih hcut]
      rfl

/-- The first line end after a line without a line feed ends that line. -/
theorem cutAt?_lineEnd {line : Bytes} (h : lineFeed ∉ line) (rest : Bytes) :
    cutAt? [0x0D, lineFeed] (line ++ [0x0D, lineFeed] ++ rest) = some (line, rest) := by
  induction line with
  | nil => simp [cutAt?, startsWith]
  | cons b line ih =>
    have more : lineFeed ∉ line := fun mem => h (List.mem_cons_of_mem _ mem)
    have notHere :
        startsWith (b :: (line ++ [0x0D, lineFeed] ++ rest)) [0x0D, lineFeed] = false := by
      cases line with
      | nil => simp [startsWith, List.isPrefixOf, lineFeed]
      | cons b' line =>
        have other : (lineFeed == b') = false := by
          simpa using fun same => more (by simp [same])
        simp only [startsWith, List.cons_append, List.isPrefixOf, other, Bool.false_and,
          Bool.and_false]
    rw [List.cons_append, List.cons_append, cutAt?, notHere, ih more]
    rfl

/-- So the first line end on the wire ends the first line. -/
theorem cutAt?_onWire {line : Bytes} (h : lineFeed ∉ line) (rest : List Bytes) :
    cutAt? [0x0D, lineFeed] (onWire [0x0D, lineFeed] (line :: rest)) =
      some (line, onWire [0x0D, lineFeed] rest) := by
  rw [onWire_cons]
  exact cutAt?_lineEnd h _

/-! ## Trimming -/

section
variable {α : Type} {p : α → Bool}

theorem dropWhile_of_head {l : List α} (h : ∀ a, l.head? = some a → p a = false) :
    l.dropWhile p = l := by
  cases l with
  | nil => rfl
  | cons a rest => exact List.dropWhile_cons_of_neg (by simp [h a rfl])

theorem head?_dropWhile {l : List α} {a : α} (h : (l.dropWhile p).head? = some a) :
    p a = false := by
  induction l with
  | nil => cases h
  | cons b rest ih =>
    cases hb : p b with
    | true =>
      rw [List.dropWhile_cons_of_pos hb] at h
      exact ih h
    | false =>
      rw [List.dropWhile_cons_of_neg (by simp [hb])] at h
      cases h
      exact hb

/-- Trimming keeps what begins with nothing to be trimmed. -/
theorem trimWith_append {head : List α} (h : ∀ a ∈ head, p a = false) (nonempty : head ≠ [])
    (s : List α) : ∃ s', Text.trimWith p (head ++ s) = head ++ s' := by
  have front : (head ++ s).dropWhile p = head ++ s := by
    refine dropWhile_of_head fun a ha => h a ?_
    cases head with
    | nil => exact absurd rfl nonempty
    | cons b rest =>
      cases ha
      exact List.mem_cons_self
  have back : head.reverse.dropWhile p = head.reverse := by
    refine dropWhile_of_head fun a ha => h a ?_
    exact List.mem_reverse.1 (List.mem_of_mem_head? ha)
  simp only [Text.trimWith, front, List.reverse_append, List.dropWhile_append, back]
  split
  · exact ⟨[], by simp⟩
  · exact ⟨(s.reverse.dropWhile p).reverse, by simp⟩

/-- Trimming takes off what surrounds a list that begins and ends with nothing to be trimmed. -/
theorem trimWith_around {lead core tail : List α} (front : ∀ a ∈ lead, p a = true)
    (behind : ∀ a ∈ tail, p a = true) (first : ∀ a ∈ core.head?, p a = false)
    (last : ∀ a ∈ core.getLast?, p a = false) :
    Text.trimWith p (lead ++ (core ++ tail)) = core := by
  rw [Text.trimWith, List.dropWhile_append_of_pos front]
  cases core with
  | nil =>
    have nothing : (tail ++ []).dropWhile p = [] := List.dropWhile_append_of_pos behind
    rw [List.append_nil] at nothing
    rw [List.nil_append, nothing]
    rfl
  | cons a rest =>
    have stays : (a :: rest ++ tail).dropWhile p = a :: rest ++ tail := by
      refine dropWhile_of_head fun b hb => first b ?_
      simpa using hb
    have stays' : (a :: rest).reverse.dropWhile p = (a :: rest).reverse := by
      refine dropWhile_of_head fun b hb => last b ?_
      rwa [List.head?_reverse] at hb
    rw [stays, List.reverse_append,
      List.dropWhile_append_of_pos fun b mem => behind b (List.mem_reverse.1 mem), stays',
      List.reverse_reverse]

theorem trimWith_trimWith (s : List α) :
    Text.trimWith p (Text.trimWith p s) = Text.trimWith p s := by
  have front : (Text.trimWith p s).dropWhile p = Text.trimWith p s := by
    refine dropWhile_of_head fun a ha => ?_
    have inFront : Text.trimWith p s <+: s.dropWhile p := by
      have behind := List.dropWhile_suffix (l := (s.dropWhile p).reverse) p
      simpa [Text.trimWith] using List.reverse_prefix.2 behind
    obtain ⟨cut, hcut⟩ := inFront
    refine head?_dropWhile (l := s) ?_
    rw [← hcut, List.head?_append, ha]
    rfl
  have back : (Text.trimWith p s).reverse.dropWhile p = (Text.trimWith p s).reverse := by
    refine dropWhile_of_head fun a ha => ?_
    rw [Text.trimWith, List.reverse_reverse] at ha
    exact head?_dropWhile ha
  rw [Text.trimWith, front, back, List.reverse_reverse]

end

theorem trim_trim (s : Bytes) : trim (trim s) = trim s := trimWith_trimWith s

end GcodeSender.Bytes
