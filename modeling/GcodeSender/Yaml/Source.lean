/-
# `GcodeSender.Yaml.Source` — the text of a document, and places in it

A document is read from front to back.  A cursor is the text that is left and
the place it begins at; places count lines and columns from zero, and a byte
order mark takes no column.

    line end     CR LF, LF, CR, next line, line separator, paragraph separator
    as content   a line feed, but for the two separators, which stay

Behind the text a cursor shows the character zero, which no document holds.
Everything that can be wrong with a document is a `Problem`; most problems
are a complaint about one place.
-/
import GcodeSender.Text.Literal

namespace GcodeSender.Yaml

/-! ## Places and problems -/

/-- A place in a document. -/
structure Mark where
  line : Nat := 0
  column : Nat := 0
  deriving DecidableEq, Repr

/-- What can be wrong at a place. -/
inductive Complaint where
  /-- No token begins with this character. -/
  | noToken
  /-- A sequence entry, a mapping key or a mapping value must not stand here. -/
  | entryNotAllowed
  | keyNotAllowed
  | valueNotAllowed
  /-- A key without its colon. -/
  | missingColon
  /-- A quoted scalar that does not end, or that a document mark interrupts. -/
  | unclosedQuote
  | badEscape
  | badDirective
  | badName
  | badTag
  | badBlockHeader
  /-- A token that the grammar does not admit here. -/
  | unexpectedToken
  | unknownHandle
  | unknownAlias
  | secondDocument
  /-- A tag that no value has, or a value of another kind. -/
  | unknownTag
  | duplicateKey
  /-- A mapping that is a key. -/
  | badKey
  /-- Something to be merged that is no mapping. -/
  | badMerge
  deriving DecidableEq, Repr

/-- Why a document cannot be read. -/
inductive Problem where
  | misplaced (complaint : Complaint) (mark : Mark)
  /-- A character that no document may hold, and where it stands. -/
  | unprintable (c : Char) (position : Nat)
  /-- A block scalar that begins with a blank line narrower than what follows. -/
  | narrowStart (mark : Mark)
  /-- A scalar that its type does not admit. -/
  | badNumber (reason : String)
  | badTruth (text : String)
  /-- A sequence that is a key and holds a sequence. -/
  | nestedKey
  deriving DecidableEq, Repr

/-! ## Characters -/

/-- What stands behind the end of the text. -/
def atEnd : Char := '\x00'

/-- Does the character end a line? -/
def isBreak (c : Char) : Bool :=
  c == '\n' || c == '\r' || c == '\u0085' || c == '\u2028' || c == '\u2029'

/-- Does the character end a line, or the text, for what runs to the end of its line? -/
def endsRun (c : Char) : Bool := c == '\n' || c == atEnd || c == '\r' || c == '\u0085'

/-- The character is a blank, or ends what runs to the end of its line. -/
def endsWord (c : Char) : Bool := c == ' ' || c == '\t' || endsRun c

/-- The character is a space, a line end or the end of the text. -/
def endsName (c : Char) : Bool := c == atEnd || c == ' ' || isBreak c

/-- May a document hold the character? -/
def isPrintable (c : Char) : Bool :=
  let n := c.toNat
  n == 0x09 || n == 0x0A || n == 0x0D || (0x20 ≤ n && n ≤ 0x7E) || n == 0x85 ||
    (0xA0 ≤ n && n ≤ 0xD7FF) || (0xE000 ≤ n && n ≤ 0xFFFD) || 0x10000 ≤ n

/-- The first character that no document may hold. -/
def firstUnprintable? (s : List Char) : Option Problem :=
  (s.zipIdx.find? fun (c, _) => !isPrintable c).map fun (c, i) => .unprintable c i

/-! ## Cursors -/

/-- The text that is left, and where it begins. -/
structure Cursor where
  rest : List Char
  index : Nat := 0
  mark : Mark := {}
  deriving Repr

namespace Cursor

def column (c : Cursor) : Nat := c.mark.column

/-- The character `n` places on. -/
def peek (c : Cursor) (n : Nat := 0) : Char := (c.rest[n]?).getD atEnd

/-- The cursor one character on. -/
def next (c : Cursor) : Cursor :=
  match c.rest with
  | [] => c
  | x :: rest =>
    let index := c.index + 1
    if isBreak x && !(x == '\r' && rest.head? == some '\n') then
      { rest, index, mark := ⟨c.mark.line + 1, 0⟩ }
    else if x == '\uFEFF' then { rest, index, mark := c.mark }
    else { rest, index, mark := ⟨c.mark.line, c.mark.column + 1⟩ }

/-- The cursor `n` characters on. -/
def skip : Nat → Cursor → Cursor
  | 0, c => c
  | n + 1, c => skip n c.next

/-- The characters that satisfy a test, and the cursor behind them. -/
def run (p : Char → Bool) (c : Cursor) : List Char × Cursor :=
  let taken := c.rest.takeWhile p
  (taken, c.skip taken.length)

/-- The cursor behind the characters that satisfy a test. -/
def pass (p : Char → Bool) (c : Cursor) : Cursor := (c.run p).2

/-- What a line end counts as, and the cursor behind it; nothing where no line ends. -/
def lineBreak (c : Cursor) : List Char × Cursor :=
  match c.rest with
  | '\r' :: '\n' :: _ => (['\n'], c.skip 2)
  | x :: _ =>
    if x == '\u2028' || x == '\u2029' then ([x], c.next)
    else if isBreak x then (['\n'], c.next)
    else ([], c)
  | [] => ([], c)

/-- Do three of this character stand here, and nothing behind them? -/
def hasTriple (c : Cursor) (x : Char) : Bool :=
  c.peek 0 == x && c.peek 1 == x && c.peek 2 == x && endsWord (c.peek 3)

/-- Does a document begin or end here? -/
def atDocumentMark (c : Cursor) : Bool := c.hasTriple '-' || c.hasTriple '.'

/-- Complain about this place. -/
def complain {ρ : Type} (c : Cursor) (complaint : Complaint) : Except Problem ρ :=
  .error (.misplaced complaint c.mark)

end Cursor

end GcodeSender.Yaml
