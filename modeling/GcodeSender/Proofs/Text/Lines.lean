/-
# `GcodeSender.Proofs.Text.Lines` — the lines of a stream

A stream of bytes is lines, each followed by a carriage return and a line feed,
and an unfinished tail.  `Framed` says it without saying how the lines are
found:

    stream = line ++ ending ++ line ++ ending ++ … ++ tail

with no ending inside a line or the tail.  Cutting at the first ending, again
and again, finds them (`framing_framed`), and there is only one such division
(`Framed.eq_framing`): an ending begins with a byte that it does not end with,
so none lies across the end of a line.
-/
import GcodeSender.Proofs.Text.Wire

namespace GcodeSender.Bytes

/-- What ends a line that comes in: carriage return, line feed. -/
def lineBreak : Bytes := [0x0D, lineFeed]

/-- The stream is the lines, each followed by its ending, and the tail; no other ending is in it. -/
structure Framed (stream : Bytes) (lines : List Bytes) (tail : Bytes) : Prop where
  whole : onWire lineBreak lines ++ tail = stream
  lines : ∀ line ∈ lines, ¬ lineBreak <:+: line
  tail : ¬ lineBreak <:+: tail

/-! ## The first ending -/

/-- Where nothing is cut there is no ending. -/
theorem not_infix_of_cutAt?_none {s : Bytes} (h : cutAt? lineBreak s = none) :
    ¬ lineBreak <:+: s := by
  induction s with
  | nil => simp [lineBreak]
  | cons b rest ih =>
    rw [cutAt?] at h
    split at h
    next => cases h
    next notHere =>
      rw [List.infix_cons_iff]
      rintro (here | later)
      · exact notHere (List.isPrefixOf_iff_prefix.2 here)
      · exact ih (Option.map_eq_none_iff.1 h) later

/-- What stands before the first ending has none. -/
theorem not_infix_of_cutAt?_some {s before behind : Bytes}
    (h : cutAt? lineBreak s = some (before, behind)) : ¬ lineBreak <:+: before := by
  induction s generalizing before behind with
  | nil => cases h
  | cons b rest ih =>
    have whole := append_of_cutAt? h
    rw [cutAt?] at h
    split at h
    next =>
      cases h
      simp [lineBreak]
    next notHere =>
      obtain ⟨⟨before', behind'⟩, hcut, heq⟩ := Option.map_eq_some_iff.1 h
      cases heq
      rw [List.infix_cons_iff]
      rintro (⟨more, here⟩ | later)
      · -- it would be an ending of the stream itself, before the first one
        refine notHere (List.isPrefixOf_iff_prefix.2 ⟨more ++ lineBreak ++ behind, ?_⟩)
        rw [← whole, ← here, List.append_assoc, List.append_assoc, List.append_assoc]
      · exact ih hcut later

theorem cutAt?_of_absent {s : Bytes} (h : ¬ lineBreak <:+: s) : cutAt? lineBreak s = none := by
  cases hcut : cutAt? lineBreak s with
  | none => rfl
  | some parts =>
    obtain ⟨before, behind⟩ := parts
    exact absurd ⟨before, behind, append_of_cutAt? hcut⟩ h

/-- The ending behind a line without one is the first. -/
theorem cutAt?_lineBreak {line : Bytes} (h : ¬ lineBreak <:+: line) (rest : Bytes) :
    cutAt? lineBreak (line ++ lineBreak ++ rest) = some (line, rest) := by
  induction line with
  | nil => simp [cutAt?, startsWith, lineBreak]
  | cons b line ih =>
    rw [List.infix_cons_iff, not_or] at h
    obtain ⟨notHere, notLater⟩ := h
    have across : startsWith (b :: (line ++ lineBreak ++ rest)) lineBreak = false := by
      cases line with
      | nil => simp [startsWith, lineBreak, lineFeed, List.isPrefixOf]
      | cons b' line =>
        have apart : ¬ (0x0D = b ∧ lineFeed = b') := by
          rintro ⟨rfl, rfl⟩
          exact notHere ⟨line, rfl⟩
        simpa [startsWith, lineBreak, List.isPrefixOf] using apart
    rw [List.cons_append, List.cons_append, cutAt?, across, ih notLater]
    rfl

theorem length_of_cutAt? {s before behind : Bytes}
    (h : cutAt? lineBreak s = some (before, behind)) : behind.length < s.length := by
  rw [← append_of_cutAt? h]
  simp only [lineBreak, List.length_append, List.length_cons, List.length_nil]
  omega

/-! ## All lines -/

/-- The lines of a stream, and its tail. -/
def framing (stream : Bytes) : List Bytes × Bytes :=
  match _cut : cutAt? lineBreak stream with
  | none => ([], stream)
  | some (line, rest) => (line :: (framing rest).1, (framing rest).2)
  termination_by stream.length
  decreasing_by all_goals exact length_of_cutAt? _cut

theorem framing_of_none {stream : Bytes} (h : cutAt? lineBreak stream = none) :
    framing stream = ([], stream) := by
  rw [framing]
  split
  next => rfl
  next heq => cases h.symm.trans heq

theorem framing_of_some {stream line rest : Bytes}
    (h : cutAt? lineBreak stream = some (line, rest)) :
    framing stream = (line :: (framing rest).1, (framing rest).2) := by
  rw [framing]
  split
  next heq => cases h.symm.trans heq
  next heq => cases h.symm.trans heq; rfl

theorem framing_framed (stream : Bytes) :
    Framed stream (framing stream).1 (framing stream).2 := by
  induction stream using framing.induct with
  | case1 stream cut =>
    rw [framing_of_none cut]
    exact ⟨rfl, nofun, not_infix_of_cutAt?_none cut⟩
  | case2 stream line rest cut ih =>
    rw [framing_of_some cut]
    refine ⟨?_, ?_, ih.tail⟩
    · rw [onWire_cons, List.append_assoc, ih.whole]
      exact append_of_cutAt? cut
    · intro other mem
      rcases List.mem_cons.1 mem with rfl | later
      · exact not_infix_of_cutAt?_some cut
      · exact ih.lines other later

/-- There is no other division into lines. -/
theorem Framed.eq_framing {stream tail : Bytes} {lines : List Bytes}
    (h : Framed stream lines tail) : framing stream = (lines, tail) := by
  obtain ⟨rfl, unbroken, unfinished⟩ := h
  induction lines with
  | nil => exact framing_of_none (cutAt?_of_absent unfinished)
  | cons line rest ih =>
    have first := cutAt?_lineBreak (unbroken line List.mem_cons_self)
      (onWire lineBreak rest ++ tail)
    have later := ih fun other mem => unbroken other (List.mem_cons_of_mem _ mem)
    rw [onWire_cons, List.append_assoc, framing_of_some first, later]

/-! ## What a reader takes up -/

/-- The messages of a stream: its lines without the blanks around them, blank ones left out. -/
def messages (stream : Bytes) : List Bytes :=
  ((framing stream).1.map trim).filter (!·.isEmpty)

theorem messages_of_none {stream : Bytes} (h : cutAt? lineBreak stream = none) :
    messages stream = [] := by
  rw [messages, framing_of_none h]
  rfl

theorem messages_of_some {stream line rest : Bytes}
    (h : cutAt? lineBreak stream = some (line, rest)) :
    messages stream = (if line.trim.isEmpty then [] else [line.trim]) ++ messages rest := by
  rw [messages, framing_of_some h, List.map_cons, List.filter_cons, messages]
  by_cases blank : line.trim.isEmpty <;> simp [blank]

end GcodeSender.Bytes
