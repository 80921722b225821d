/-
# `GcodeSender.Gcode.Comment` — comments in a line of G-code

    ( … )    a comment in brackets
    ; …      a comment to the end of the line

A bracket comment reaches to the *last* closing bracket of its line, so
whatever stands between two bracket comments goes with them.  An opening
bracket that is never closed on its line is no comment; neither is a closing
bracket on its own.  Lines end at the line feed and nowhere else.
-/

namespace GcodeSender.Gcode

/-- The text behind the last closing bracket of the first line, if that line has one. -/
def afterLastClose? : List Char → Option (List Char)
  | [] => none
  | c :: rest =>
    if c = '\n' then none
    else
      match afterLastClose? rest with
      | some behind => some behind
      | none => if c = ')' then some rest else none

/-- What stands behind a closing bracket is shorter than the whole. -/
theorem length_afterLastClose? {s behind : List Char} (h : afterLastClose? s = some behind) :
    behind.length < s.length := by
  induction s generalizing behind with
  | nil => simp [afterLastClose?] at h
  | cons c rest ih =>
    rw [afterLastClose?] at h
    split at h
    · simp at h
    · split at h
      · next b hb =>
        simp only [Option.some.injEq] at h
        subst h
        have := ih hb
        simp only [List.length_cons]; omega
      · split at h <;> simp_all

/-- The text of a line without its comments. -/
def removeComments : List Char → List Char
  | [] => []
  | c :: rest =>
    if c = '(' then
      match h : afterLastClose? rest with
      | some behind =>
        have := length_afterLastClose? h
        removeComments behind
      | none => c :: removeComments rest
    else if c = ';' then removeComments (rest.dropWhile (· ≠ '\n'))
    else c :: removeComments rest
termination_by s => s.length
decreasing_by
  all_goals simp only [List.length_cons]
  · omega
  · omega
  · have := (List.dropWhile_sublist (p := fun c : Char => decide (c ≠ '\n')) (l := rest)).length_le
    omega
  · omega

end GcodeSender.Gcode
