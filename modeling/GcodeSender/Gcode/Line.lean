/-
# `GcodeSender.Gcode.Line` — a line of G-code, word by word

A line is decoded, freed of comments, trimmed, and then cut into words from the
left.  The next word begins at the next letter on the same physical line;
whatever stands before that letter is passed over.  Behind the letter come
blanks and then the number, in the form its letter asks for.

    next letter found, number fits      a word; go on behind the number
    next letter found, number does not  refused: word 'X' value invalid
    no letter, only blanks left         the end of the line
    no letter, something left           refused: block code remaining '…'

A refusal (`LineError`) is an answer: the caller ignores the line.  Two lines
cannot be answered at all and are faults: a character that only looks like a
letter, and a line number past the range of the machine.

Whole numbers behind L and N may have at most `digitLimit` digits.
-/
import GcodeSender.Fault
import GcodeSender.Text.Utf8
import GcodeSender.Gcode.Comment
import GcodeSender.Gcode.Word

namespace GcodeSender.Gcode

open Text

/-! ## Refusals -/

/-- Why a text cannot be cut into words. -/
inductive Cause where
  | badNumber (letter : Char)
  | remaining (rest : List Char)
  | tooManyDigits (count : Nat)
  deriving DecidableEq, Repr

/-- Why a line is refused. -/
inductive LineError where
  /-- The bytes are not text. -/
  | notText (line : Bytes)
  | invalid (text : List Char) (cause : Cause)
  deriving DecidableEq, Repr

/-- The most digits a whole number may have. -/
def digitLimit : Nat := 4300

/-- The wording of a cause. -/
def Cause.message : Cause → String
  | .badNumber letter => s!"word '{letter}' value invalid"
  | .remaining rest => "block code remaining '" ++ String.ofList rest ++ "'"
  | .tooManyDigits count =>
    s!"Exceeds the limit ({digitLimit} digits) for integer string conversion: value has {count} " ++
      "digits; use sys.set_int_max_str_digits() to increase the limit"

/-- The wording of a refusal. -/
def LineError.message : LineError → String
  | .notText line => "Line is not valid text: " ++ line.literal
  | .invalid text cause => "Invalid gcode '" ++ String.ofList text ++ "': " ++ cause.message

/-! ## One word -/

/-- The next letter and what follows it, if one comes before the end of the physical line. -/
def nextLetter? : List Char → Option (Char × List Char)
  | [] => none
  | c :: rest =>
    if isWordLetter c then some (c, rest)
    else if c = '\n' then none
    else nextLetter? rest

/-- The digits at the head of a text and the rest. -/
def spanDigits (s : List Char) : List Char × List Char := (s.takeWhile isDigit, s.dropWhile isDigit)

/-- The fraction at the head of a text: a point, and digits if there are any. -/
def fractionAt : List Char → List Char × List Char
  | '.' :: rest => spanDigits rest
  | rest => ([], rest)

/-- A decimal number without its sign: digits with an optional point and digits, or a point and
digits. -/
def magnitudeAt? (negative : Bool) (s : List Char) : Option (Numeral × List Char) :=
  let whole := spanDigits s
  let fraction := fractionAt whole.2
  if (whole.1 ++ fraction.1).isEmpty then none
  else some (.decimal negative (natOfDigits (whole.1 ++ fraction.1)) (-fraction.1.length), fraction.2)

/-- A code: digits, and one more behind a point. -/
def codeAt? (s : List Char) : Option (Numeral × List Char) :=
  match spanDigits s with
  | ([], _) => none
  | (ds, '.' :: d :: rest) =>
    if isDigit d then some (.decimal false (natOfDigits (ds ++ [d])) (-1), rest)
    else some (.ofNat (natOfDigits ds), '.' :: d :: rest)
  | (ds, rest) => some (.ofNat (natOfDigits ds), rest)

/-- Digits, with their count. -/
def wholeAt? (s : List Char) : Option (Nat × Nat × List Char) :=
  match spanDigits s with
  | ([], _) => none
  | (ds, rest) => some (natOfDigits ds, ds.length, rest)

/-- The least whole number that rounds to nothing finite. -/
def wholeLimit : Nat := Nat.pow 2 1024 - Nat.pow 2 970

/-- How the number behind a letter turned out. -/
inductive Reading where
  | number (value : Numeral) (rest : List Char)
  | refused (cause : Cause)
  | fault (cause : Fault)

/-- The number behind a letter, in the form that the letter asks for. -/
def readNumber (letter : Char) (form : Form) (s : List Char) : Reading :=
  let ofOption : Option (Numeral × List Char) → Reading
    | some (value, rest) => .number value rest
    | none => .refused (.badNumber letter)
  let t := s.dropWhile isBlank
  match form with
  | .decimal =>
    match t with
    | '-' :: rest => ofOption (magnitudeAt? true rest)
    | _ => ofOption (magnitudeAt? false t)
  | .code => ofOption (codeAt? t)
  | .digits => ofOption ((wholeAt? t).map fun (n, _, rest) => (.ofNat n, rest))
  | .whole =>
    match wholeAt? t with
    | none => .refused (.badNumber letter)
    | some (n, count, rest) =>
      if digitLimit < count then .refused (.tooManyDigits count)
      else if wholeLimit ≤ n then .fault .numberTooLarge
      else .number (.ofNat n) rest
  | .rest =>
    if s.isEmpty || s.contains '\n' then .refused (.badNumber letter)
    else .number ((Numeral.read? s).getD .undefined) []

/-! ## What is left is shorter -/

/-- What follows the next letter is shorter than the whole. -/
theorem length_nextLetter? {s rest : List Char} {c : Char} (h : nextLetter? s = some (c, rest)) :
    rest.length < s.length := by
  induction s with
  | nil => simp [nextLetter?] at h
  | cons d more ih =>
    rw [nextLetter?] at h
    split at h
    · simp only [Option.some.injEq, Prod.mk.injEq] at h
      obtain ⟨_, rfl⟩ := h
      simp
    · split at h
      · simp at h
      · have := ih h
        simp only [List.length_cons]; omega

/-- What remains behind the leading elements that satisfy a test is no longer than the whole. -/
theorem length_dropWhile_le' {β : Type} (p : β → Bool) (s : List β) :
    (s.dropWhile p).length ≤ s.length := (List.dropWhile_sublist p).length_le

/-- The rest behind a run of digits is no longer than the whole. -/
theorem length_spanDigits (s : List Char) : (spanDigits s).2.length ≤ s.length :=
  length_dropWhile_le' isDigit s

theorem length_fractionAt (s : List Char) : (fractionAt s).2.length ≤ s.length := by
  unfold fractionAt
  split
  · next rest =>
    have := length_spanDigits rest
    simp only [List.length_cons]; omega
  · exact Nat.le_refl _

theorem length_magnitudeAt? {negative : Bool} {s rest : List Char} {v : Numeral}
    (h : magnitudeAt? negative s = some (v, rest)) : rest.length ≤ s.length := by
  have whole := length_spanDigits s
  have fraction := length_fractionAt (spanDigits s).2
  simp only [magnitudeAt?] at h
  split at h
  · simp at h
  · simp only [Option.some.injEq, Prod.mk.injEq] at h
    rw [← h.2]; omega

theorem length_codeAt? {s rest : List Char} {v : Numeral} (h : codeAt? s = some (v, rest)) :
    rest.length ≤ s.length := by
  have whole := length_spanDigits s
  unfold codeAt? at h
  split at h
  · simp at h
  next heq =>
    rw [heq] at whole
    simp only [List.length_cons] at whole
    split at h <;> simp only [Option.some.injEq, Prod.mk.injEq] at h
    · rw [← h.2]; omega
    · rw [← h.2]; simpa using whole
  next heq =>
    rw [heq] at whole
    simp only [Option.some.injEq, Prod.mk.injEq] at h
    rw [← h.2]; exact whole

theorem length_wholeAt? {s rest : List Char} {n k : Nat} (h : wholeAt? s = some (n, k, rest)) :
    rest.length ≤ s.length := by
  have whole := length_spanDigits s
  unfold wholeAt? at h
  split at h
  · simp at h
  next heq =>
    rw [heq] at whole
    simp only [Option.some.injEq, Prod.mk.injEq] at h
    rw [← h.2.2]; exact whole

/-- What is left behind a number is no longer than what the number was read from. -/
theorem length_readNumber {letter : Char} {form : Form} {s rest : List Char} {v : Numeral}
    (h : readNumber letter form s = .number v rest) : rest.length ≤ s.length := by
  have blanks := length_dropWhile_le' isBlank s
  have ofSome : ∀ {o : Option (Numeral × List Char)},
      (match o with
        | some (value, rest) => Reading.number value rest
        | none => .refused (.badNumber letter)) = .number v rest → o = some (v, rest) := by
    intro o ho
    split at ho <;> simp_all
  simp only [readNumber] at h
  split at h
  · split at h
    next more hm =>
      have := length_magnitudeAt? (ofSome h)
      rw [hm] at blanks
      simp only [List.length_cons] at blanks
      omega
    next => have := length_magnitudeAt? (ofSome h); omega
  · have := length_codeAt? (ofSome h); omega
  · obtain ⟨⟨n, k, r⟩, hw, hr⟩ := Option.map_eq_some_iff.1 (ofSome h)
    simp only [Prod.mk.injEq] at hr
    obtain ⟨_, rfl⟩ := hr
    have := length_wholeAt? hw
    omega
  · split at h
    · simp at h
    next hw =>
      split at h
      · simp at h
      · split at h
        · simp at h
        · simp only [Reading.number.injEq] at h
          rw [← h.2]
          have := length_wholeAt? hw
          omega
  · split at h
    · simp at h
    · simp only [Reading.number.injEq] at h
      rw [← h.2]; simp

/-! ## The whole line -/

/-- What stops the cutting of a text into words. -/
inductive Stop where
  | refused (cause : Cause)
  | fault (cause : Fault)
  deriving DecidableEq, Repr

/-- The words of a text, from the left. -/
def wordsOf (s : List Char) : Except Stop (List Word) :=
  match hl : nextLetter? s with
  | none => if s.all isBlank then .ok [] else .error (.refused (.remaining s))
  | some (c, behind) =>
    let raw := upper c
    match formOf? raw with
    | none => .error (.fault (.unmappedLetter raw))
    | some form =>
      match hn : readNumber raw form behind with
      | .refused cause => .error (.refused cause)
      | .fault cause => .error (.fault cause)
      | .number value rest =>
        have : rest.length < s.length :=
          Nat.lt_of_le_of_lt (length_readNumber hn) (length_nextLetter? hl)
        match wordsOf rest with
        | .ok more => .ok (⟨.ofUpper raw, raw, value⟩ :: more)
        | .error stop => .error stop
termination_by s.length

/-- A parsed line: its words, or the refusal. -/
abbrev Parsed := Except LineError (List Word)

/-- The words of a line of text. -/
def parseText (line : List Char) : Except Fault Parsed :=
  let text := trim (removeComments line)
  match wordsOf text with
  | .ok words => .ok (.ok words)
  | .error (.refused cause) => .ok (.error (.invalid text cause))
  | .error (.fault cause) => .error cause

/-- The words of a line as it goes over the wire. -/
def parseLine (line : Bytes) : Except Fault Parsed :=
  match Utf8.decode? line with
  | none => .ok (.error (.notText line))
  | some text => parseText text

end GcodeSender.Gcode
