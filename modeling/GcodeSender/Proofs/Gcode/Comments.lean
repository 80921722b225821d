/-
# `GcodeSender.Proofs.Gcode.Comments` — what the comments of a line take with them

A line with comments is text, bracket comments with text behind each, and at the
end perhaps a semicolon and a tail:

    lead (comment) behind (comment) behind … ; tail

The first opening bracket of a line looks for the last closing one
(`afterLastClose?_append`), and all between the two goes (`removeComments_bracket`).

    the line has                          what is left of it
    no bracket comment                    `lead`
    some, and no `)` in its tail          `lead`, and the text behind the last one
    some, and a `)` in its tail           `lead`, and what stands behind the last `)`
                                          of the tail, up to the next semicolon

So text between two bracket comments is lost, and a tail that closes a bracket
is read as text.  Only where no text stands between two comments, and no `)` in
the tail, what is left is sure to be the text of the line (`code`).
-/
import GcodeSender.Gcode.Comment
import Mathlib.Data.List.TakeWhile

namespace GcodeSender.Gcode

/-! ## The last closing bracket -/

theorem afterLastClose?_none {s : List Char} (h : ')' ∉ s) : afterLastClose? s = none := by
  induction s with
  | nil => rfl
  | cons c rest ih =>
    rw [List.mem_cons, not_or] at h
    obtain ⟨here, later⟩ := h
    rw [afterLastClose?, ih later, if_neg (Ne.symm here)]
    split <;> rfl

/-- The last closing bracket of a line is the one that none follows. -/
theorem afterLastClose?_append {inside behind : List Char} (last : ')' ∉ behind)
    (single : '\n' ∉ inside) : afterLastClose? (inside ++ ')' :: behind) = some behind := by
  induction inside with
  | nil => simp [afterLastClose?, afterLastClose?_none last]
  | cons c inside ih =>
    rw [List.mem_cons, not_or] at single
    obtain ⟨here, later⟩ := single
    rw [List.cons_append, afterLastClose?, if_neg (Ne.symm here), ih later]

/-! ## What is left of a text -/

/-- Text in which no comment begins stays in front of what is left. -/
theorem removeComments_append {lead : List Char} (h : ∀ c ∈ lead, c ≠ '(' ∧ c ≠ ';')
    (s : List Char) : removeComments (lead ++ s) = lead ++ removeComments s := by
  induction lead with
  | nil => rfl
  | cons c rest ih =>
    obtain ⟨notBracket, notSemicolon⟩ := h c List.mem_cons_self
    rw [List.cons_append, removeComments, if_neg notBracket, if_neg notSemicolon,
      ih fun c' mem => h c' (List.mem_cons_of_mem _ mem), List.cons_append]

/-- Text in which no comment begins is left as it is. -/
theorem removeComments_eq {s : List Char} (h : ∀ c ∈ s, c ≠ '(' ∧ c ≠ ';') :
    removeComments s = s := by
  have left := removeComments_append h []
  rwa [removeComments, List.append_nil] at left

/-- Nothing is left of the last part of a line behind a semicolon. -/
theorem removeComments_semicolon {tail : List Char} (single : '\n' ∉ tail) :
    removeComments (';' :: tail) = [] := by
  have all : tail.dropWhile (· ≠ '\n') = [] := by
    refine List.dropWhile_eq_nil_iff.2 fun c mem => decide_eq_true ?_
    rintro rfl
    exact single mem
  rw [removeComments, if_neg (by decide), if_pos rfl, all, removeComments]

/-- Where no bracket is closed, only a semicolon begins a comment. -/
theorem removeComments_unclosed {s : List Char} (open_ : ')' ∉ s) (single : '\n' ∉ s) :
    removeComments s = s.takeWhile (· ≠ ';') := by
  induction s with
  | nil => rw [removeComments, List.takeWhile_nil]
  | cons c rest ih =>
    have later : removeComments rest = rest.takeWhile (· ≠ ';') :=
      ih (fun mem => open_ (List.mem_cons_of_mem _ mem))
        (fun mem => single (List.mem_cons_of_mem _ mem))
    by_cases semicolon : c = ';'
    · subst semicolon
      rw [removeComments_semicolon fun mem => single (List.mem_cons_of_mem _ mem)]
      rfl
    · have kept : removeComments (c :: rest) = c :: removeComments rest := by
        rw [removeComments, if_neg semicolon]
        have unclosed : afterLastClose? rest = none :=
          afterLastClose?_none fun mem => open_ (List.mem_cons_of_mem _ mem)
        split
        · split
          next behind found => rw [unclosed] at found; cases found
          next => rfl
        · rfl
      rw [kept, later, List.takeWhile_cons_of_pos (by simpa using semicolon)]

/-- A bracket that is opened takes everything up to the last closing one of the line. -/
theorem removeComments_bracket {inside behind : List Char} (last : ')' ∉ behind)
    (single : '\n' ∉ inside ++ behind) :
    removeComments ('(' :: (inside ++ ')' :: behind)) = behind.takeWhile (· ≠ ';') := by
  rw [List.mem_append, not_or] at single
  have closed : afterLastClose? (inside ++ ')' :: behind) = some behind :=
    afterLastClose?_append last single.1
  rw [removeComments, if_pos rfl]
  split
  next behind' found =>
    rw [closed] at found
    cases found
    exact removeComments_unclosed last single.2
  next found => rw [closed] at found; cases found

/-! ## A line with comments -/

/-- A bracket comment, and the text behind it. -/
structure Remark where
  comment : List Char
  behind : List Char

/-- A remark as it is written. -/
def Remark.text (r : Remark) : List Char := '(' :: (r.comment ++ ')' :: r.behind)

/-- The characters of a line that have to do with no comment. -/
def isPlain (c : Char) : Bool := c ≠ '(' && c ≠ ')' && c ≠ ';' && c ≠ '\n'

theorem isPlain_spec {c : Char} (h : isPlain c = true) :
    c ≠ '(' ∧ c ≠ ')' ∧ c ≠ ';' ∧ c ≠ '\n' := by
  simpa [isPlain, and_assoc] using h

/-- A single line: text, bracket comments with text behind each, and perhaps a semicolon and
anything behind it. -/
structure Annotated where
  lead : List Char
  remarks : List Remark := []
  tail : Option (List Char) := none
  lead_plain : lead.all isPlain = true
  behind_plain : remarks.all (·.behind.all isPlain) = true
  comment_closed : remarks.all (·.comment.all fun c => c ≠ ')' && c ≠ '\n') = true
  tail_single : '\n' ∉ tail.getD []

namespace Annotated

/-- The semicolon and what stands behind it. -/
def ending (a : Annotated) : List Char := (a.tail.map (';' :: ·)).getD []

/-- The line as it is written. -/
def text (a : Annotated) : List Char := a.lead ++ (a.remarks.flatMap Remark.text ++ a.ending)

/-- What is no comment in the line. -/
def code (a : Annotated) : List Char := a.lead ++ a.remarks.flatMap Remark.behind

variable (a : Annotated)

theorem removeComments_text :
    removeComments a.text = a.lead ++ removeComments (a.remarks.flatMap Remark.text ++ a.ending) := by
  refine removeComments_append (fun c mem => ?_) _
  obtain ⟨notBracket, -, notSemicolon, -⟩ := isPlain_spec (List.all_eq_true.1 a.lead_plain c mem)
  exact ⟨notBracket, notSemicolon⟩

theorem removeComments_ending : removeComments a.ending = [] := by
  have single := a.tail_single
  rw [ending]
  cases tail : a.tail with
  | none => rw [Option.map_none, Option.getD_none, removeComments]
  | some tail =>
    rw [tail, Option.getD_some] at single
    exact removeComments_semicolon single

theorem mem_behind {r : Remark} (mem : r ∈ a.remarks) {c : Char} (inside : c ∈ r.behind) :
    c ≠ '(' ∧ c ≠ ')' ∧ c ≠ ';' ∧ c ≠ '\n' :=
  isPlain_spec (List.all_eq_true.1 (List.all_eq_true.1 a.behind_plain r mem) c inside)

theorem single_remarks : '\n' ∉ a.remarks.flatMap Remark.text := by
  intro newline
  obtain ⟨r, mem, inside⟩ := List.mem_flatMap.1 newline
  have closed := List.all_eq_true.1 (List.all_eq_true.1 a.comment_closed r mem)
  simp only [Remark.text, List.mem_cons, List.mem_append] at inside
  rcases inside with bracket | comment | bracket | behind
  · exact absurd bracket (by decide)
  · exact absurd (closed _ comment) (by decide)
  · exact absurd bracket (by decide)
  · exact (a.mem_behind mem behind).2.2.2 rfl

theorem single_ending : '\n' ∉ a.ending := by
  have single := a.tail_single
  rw [ending]
  cases tail : a.tail with
  | none => exact List.not_mem_nil
  | some tail =>
    rw [tail, Option.getD_some] at single
    exact List.not_mem_cons_of_ne_of_not_mem (by decide) single

/-- The bracket comments of a line make one, which the last of them closes. -/
theorem remarks_text {r : Remark} (last : a.remarks.getLast? = some r) :
    ∃ inside, a.remarks.flatMap Remark.text = '(' :: (inside ++ ')' :: r.behind) := by
  obtain ⟨before, split⟩ := List.getLast?_eq_some_iff.1 last
  rw [split, List.flatMap_append, List.flatMap_singleton]
  cases before with
  | nil => exact ⟨r.comment, rfl⟩
  | cons first rest =>
    refine ⟨first.comment ++ ')' :: (first.behind ++ (rest.flatMap Remark.text ++ '(' :: r.comment)),
      ?_⟩
    simp [Remark.text]

/-- What stands behind the last closing bracket is left, up to a semicolon. -/
theorem removeComments_of_split {inside behind : List Char} (last : ')' ∉ behind)
    (split : a.remarks.flatMap Remark.text ++ a.ending = '(' :: (inside ++ ')' :: behind)) :
    removeComments a.text = a.lead ++ behind.takeWhile (· ≠ ';') := by
  have single : '\n' ∉ a.remarks.flatMap Remark.text ++ a.ending :=
    List.not_mem_append a.single_remarks a.single_ending
  rw [a.removeComments_text, split, removeComments_bracket last]
  intro newline
  refine single (split ▸ List.mem_cons_of_mem _ ?_)
  rcases List.mem_append.1 newline with inside | behind
  · exact List.mem_append_left _ inside
  · exact List.mem_append_right _ (List.mem_cons_of_mem _ behind)

variable {a} {r : Remark}

theorem removeComments_of_open_tail (last : a.remarks.getLast? = some r)
    (open_ : ')' ∉ a.tail.getD []) : removeComments a.text = a.lead ++ r.behind := by
  obtain ⟨inside, remarks⟩ := a.remarks_text last
  have plain := fun c inside => a.mem_behind (c := c) (List.mem_of_getLast? last) inside
  have text : ')' ∉ r.behind := fun mem => (plain _ mem).2.1 rfl
  have semicolon : ∀ c ∈ r.behind, decide (c ≠ ';') = true := fun c mem =>
    decide_eq_true (plain c mem).2.2.1
  have open_ending : ')' ∉ a.ending := by
    rw [ending]
    cases tail : a.tail with
    | none => exact List.not_mem_nil
    | some tail =>
      rw [tail, Option.getD_some] at open_
      exact List.not_mem_cons_of_ne_of_not_mem (by decide) open_
  have split : a.remarks.flatMap Remark.text ++ a.ending =
      '(' :: (inside ++ ')' :: (r.behind ++ a.ending)) := by
    rw [remarks]
    simp
  have stops : a.ending.takeWhile (· ≠ ';') = [] := by
    rw [ending]
    cases a.tail <;> rfl
  rw [a.removeComments_of_split (List.not_mem_append text open_ending) split,
    List.takeWhile_append_of_pos semicolon, stops, List.append_nil]

theorem removeComments_of_closing_tail (last : a.remarks.getLast? = some r)
    {before behind : List Char} (tail : a.tail = some (before ++ ')' :: behind))
    (final : ')' ∉ behind) : removeComments a.text = a.lead ++ behind.takeWhile (· ≠ ';') := by
  obtain ⟨inside, remarks⟩ := a.remarks_text last
  have split : a.remarks.flatMap Remark.text ++ a.ending =
      '(' :: ((inside ++ ')' :: (r.behind ++ ';' :: before)) ++ ')' :: behind) := by
    rw [remarks, ending, tail]
    simp
  exact a.removeComments_of_split final split

theorem code_of_last (last : a.remarks.getLast? = some r) :
    a.code = a.lead ++ (a.remarks.dropLast.flatMap Remark.behind ++ r.behind) := by
  obtain ⟨before, split⟩ := List.getLast?_eq_some_iff.1 last
  rw [code, split, List.dropLast_concat, List.flatMap_append, List.flatMap_singleton]

/-- What is left of a line with comments.  Where it has no bracket comment, that is its text.  Else
it is the lead, and what stands behind the last closing bracket of the line, up to a semicolon: if
that is the bracket of the last comment, the text is left exactly if none stands between two
comments; if it stands in the tail, the text is left exactly if the rest of the tail, up to a
semicolon, happens to be the text behind the comments. -/
theorem left_behind_last_bracket (a : Annotated) :
    (a.remarks = [] → removeComments a.text = a.code) ∧
      (∀ r, a.remarks.getLast? = some r → ')' ∉ a.tail.getD [] →
        removeComments a.text = a.lead ++ r.behind ∧
          (removeComments a.text = a.code ↔ ∀ r' ∈ a.remarks.dropLast, r'.behind = [])) ∧
      ∀ before behind, a.remarks ≠ [] → a.tail = some (before ++ ')' :: behind) → ')' ∉ behind →
        removeComments a.text = a.lead ++ behind.takeWhile (· ≠ ';') ∧
          (removeComments a.text = a.code ↔
            behind.takeWhile (· ≠ ';') = a.remarks.flatMap Remark.behind) := by
  refine ⟨fun plain => ?_, fun r last open_ => ?_, fun before behind noted tail final => ?_⟩
  · rw [a.removeComments_text, code, plain, List.flatMap_nil, List.nil_append,
      a.removeComments_ending, List.flatMap_nil]
  · have left := removeComments_of_open_tail last open_
    refine ⟨left, ?_⟩
    rw [left, code_of_last last, List.append_cancel_left_eq, List.self_eq_append_left,
      List.flatMap_eq_nil_iff]
  · have left := removeComments_of_closing_tail (List.getLast?_eq_some_getLast noted) tail final
    exact ⟨left, by rw [left, code, List.append_cancel_left_eq]⟩

/-- Two comments with a word between them, and a tail that closes a bracket. -/
theorem left_behind_last_bracket_tail :
    let remarks : List Remark := [⟨['a'], [' ', 'X', '1', ' ']⟩, ⟨['b'], [' ', 'Y', '2', ' ']⟩]
    let tail := ['c'] ++ ')' :: [' ', 'Z', '3', ';', 'd']
    let a : Annotated :=
      { lead := ['G', '1', ' '], remarks, tail := some tail
        lead_plain := rfl, behind_plain := rfl, comment_closed := rfl, tail_single := by decide }
    a.text = "G1 (a) X1 (b) Y2 ;c) Z3;d".toList ∧ remarks ≠ [] ∧
      ')' ∉ [' ', 'Z', '3', ';', 'd'] ∧ removeComments a.text = "G1  Z3".toList := by
  intro remarks tail a
  obtain ⟨-, -, closing⟩ := left_behind_last_bracket a
  have noted : remarks ≠ [] := List.cons_ne_nil _ _
  have final : ')' ∉ [' ', 'Z', '3', ';', 'd'] := by decide
  obtain ⟨left, -⟩ := closing ['c'] [' ', 'Z', '3', ';', 'd'] noted rfl final
  exact ⟨by decide +kernel, noted, final, left⟩

/-- A word between two comments is lost. -/
theorem word_between_comments_lost :
    let a : Annotated :=
      { lead := ['G', '1', ' ']
        remarks := [⟨['a'], [' ', 'X', '1', ' ']⟩, ⟨['b'], [' ', 'Y', '2']⟩]
        lead_plain := rfl, behind_plain := rfl, comment_closed := rfl, tail_single := by decide }
    a.text = "G1 (a) X1 (b) Y2".toList ∧ removeComments a.text = "G1  Y2".toList ∧
      a.code = "G1  X1  Y2".toList ∧ removeComments a.text ≠ a.code := by
  decide +kernel

end Annotated

end GcodeSender.Gcode
