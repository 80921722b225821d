/-
# `GcodeSender.Yaml.Block` — block scalars

    |   literal: line ends stay as they are
    >   folded: a line end between two lines that begin with no blank is a
        space, or nothing where blank lines follow

    +   all line ends at the end stay
    -   none stays
        otherwise one stays

The indentation of the content is that of its first line, or follows from a
digit in the header.
-/
import GcodeSender.Yaml.Token

namespace GcodeSender.Yaml

open Cursor

/-- What is done with the line ends at the end of a block scalar. -/
inductive Chomping where
  | clip
  | strip
  | keep
  deriving DecidableEq, Repr

/-- The sign in a header, if one stands here. -/
def chomping? : Char → Option Chomping
  | '+' => some .keep
  | '-' => some .strip
  | _ => none

/-- The digit in a header, if one stands here. -/
def increment? (c : Cursor) : Except Problem (Option Nat × Cursor) :=
  if c.peek == '0' then c.complain .badBlockHeader
  else if c.peek.isDigit then .ok (some (c.peek.toNat - 0x30), c.next)
  else .ok (none, c)

/-- The sign and the digit of a header, in either order. -/
def blockIndicators (c : Cursor) : Except Problem (Chomping × Option Nat × Cursor) :=
  let found : Except Problem (Chomping × Option Nat × Cursor) :=
    match chomping? c.peek with
    | some chomping => (increment? c.next).map fun (n, c) => (chomping, n, c)
    | none =>
      (increment? c).map fun (n, c) =>
        match n, chomping? c.peek with
        | some _, some chomping => (chomping, n, c.next)
        | _, _ => (.clip, n, c)
  found.bind fun (chomping, n, c) =>
    if endsName c.peek then .ok (chomping, n, c) else c.complain .badBlockHeader

/-- The rest of the line of a header: blanks and a comment. -/
def restOfHeader (c : Cursor) : Except Problem Cursor :=
  let c := c.pass (· == ' ')
  let c := if c.peek == '#' then c.pass fun x => !endsRun x else c
  if endsRun c.peek then .ok c.lineBreak.2 else c.complain .badBlockHeader

/-- The line ends before the first line, the width of the widest indentation up to it, the width
at the first line end, and the cursor there. -/
def blockStart : Nat → Cursor → List Char × Nat × Option Nat × Cursor
  | 0, c => ([], 0, none, c)
  | fuel + 1, c =>
    if isBreak c.peek then
      let (head, c') := c.lineBreak
      let (breaks, width, _, last) := blockStart fuel c'
      (head ++ breaks, width, some c.column, last)
    else if c.peek == ' ' then
      let (breaks, width, first, last) := blockStart fuel c.next
      (breaks, max width c.next.column, first, last)
    else ([], 0, none, c)

/-- The cursor behind at most as many spaces as lead to a column. -/
def indentTo : Nat → Nat → Cursor → Cursor
  | 0, _, c => c
  | fuel + 1, column, c =>
    if c.column < column && c.peek == ' ' then indentTo fuel column c.next else c

/-- Line ends of lines that are blank up to a column. -/
def blockBreaks (column : Nat) : Nat → Cursor → List Char × Cursor
  | 0, c => ([], c)
  | fuel + 1, c =>
    let c := indentTo column column c
    if isBreak c.peek then
      let (head, c) := c.lineBreak
      let (tail, c) := blockBreaks column fuel c
      (head ++ tail, c)
    else ([], c)

/-- Does a line of the content begin here? -/
def atLine (column : Nat) (c : Cursor) : Bool := c.column == column && c.peek != atEnd

/-- Is the character a blank? -/
def isBlankChar (c : Char) : Bool := c == ' ' || c == '\t'

/-- The lines of the content: their text, the last line end, the line ends behind it. -/
def blockLines (folded top : Bool) (column : Nat) :
    Nat → Cursor → List Char × List Char × List Char × Cursor
  | 0, c => ([], [], [], c)
  | fuel + 1, c =>
    let leading := isBlankChar c.peek
    let (line, c) := c.run fun x => !endsRun x
    let (ending, c) := c.lineBreak
    let (breaks, c) := blockBreaks column (c.rest.length + 1) c
    if (top && c.column == 0 && c.atDocumentMark) || !atLine column c then (line, ending, breaks, c)
    else
      let joint :=
        if folded && ending == ['\n'] && !leading && !isBlankChar c.peek then
          if breaks.isEmpty then [' '] else []
        else ending
      let (tail, lastEnding, lastBreaks, c) := blockLines folded top column fuel c
      (line ++ joint ++ breaks ++ tail, lastEnding, lastBreaks, c)

/-- The content of a block scalar, indented to a column. -/
def blockContent (folded top : Bool) (column : Nat) (chomping : Chomping)
    (breaks : List Char) (c : Cursor) : List Char × Cursor :=
  let (text, ending, last, c) :=
    if atLine column c then
      let (text, ending, last, c) := blockLines folded top column (c.rest.length + 1) c
      (breaks ++ text, ending, last, c)
    else ([], [], breaks, c)
  match chomping with
  | .clip => (text ++ ending, c)
  | .keep => (text ++ ending ++ last, c)
  | .strip => (text, c)

/-- A block scalar that begins here, inside a block with this indentation. -/
def blockToken (indent : Int) (c : Cursor) : Except Problem (Token × Cursor) :=
  let folded := c.peek == '>'
  let least := (indent + 1).toNat
  (blockIndicators c.next).bind fun (chomping, increment, c') =>
    (restOfHeader c').bind fun c' =>
      match increment with
      | some n =>
        let column := max least 1 + n - 1
        let (breaks, c') := blockBreaks column (c'.rest.length + 1) c'
        let (text, last) := blockContent folded false column chomping breaks c'
        .ok (⟨.scalar (String.ofList text) false, c.mark, last.mark⟩, last)
      | none =>
        let (breaks, width, first, c') := blockStart (c'.rest.length + 1) c'
        if first.any fun f => 0 < f && f < width then .error (.narrowStart c'.mark)
        else
          let (text, last) :=
            blockContent folded (least == 0) (max least width) chomping breaks c'
          .ok (⟨.scalar (String.ofList text) false, c.mark, last.mark⟩, last)

end GcodeSender.Yaml
