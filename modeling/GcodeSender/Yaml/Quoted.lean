/-
# `GcodeSender.Yaml.Quoted` — quoted scalars

    '…'   a quotation mark inside is written twice
    "…"   a backslash begins an escape

In both a line end inside becomes one space, blanks around it are dropped, and
every further line end stays.  In double quotes a backslash at the end of a
line joins the lines.
-/
import GcodeSender.Yaml.Token

namespace GcodeSender.Yaml

open Cursor

/-- What an escape of one character stands for. -/
def escaped? : Char → Option Char
  | '0' => some '\x00'
  | 'a' => some '\x07'
  | 'b' => some '\x08'
  | 't' | '\t' => some '\t'
  | 'n' => some '\n'
  | 'v' => some '\x0b'
  | 'f' => some '\x0c'
  | 'r' => some '\r'
  | 'e' => some '\x1b'
  | ' ' => some ' '
  | '"' => some '"'
  | '/' => some '/'
  | '\\' => some '\\'
  | 'N' => some '\u0085'
  | '_' => some '\u00a0'
  | 'L' => some '\u2028'
  | 'P' => some '\u2029'
  | _ => none

/-- How many hexadecimal digits follow the letter of an escape by number. -/
def escapeWidth? : Char → Option Nat
  | 'x' => some 2
  | 'u' => some 4
  | 'U' => some 8
  | _ => none

/-- The value of a hexadecimal digit. -/
def hexValue? (c : Char) : Option Nat :=
  if c.isDigit then some (c.toNat - 0x30)
  else if 'a' ≤ c && c ≤ 'f' then some (c.toNat - 0x57)
  else if 'A' ≤ c && c ≤ 'F' then some (c.toNat - 0x37)
  else none

/-- The number that hexadecimal digits write. -/
def hexNumber? (ds : List Char) : Option Nat :=
  ds.foldl (fun n d => n.bind fun n => (hexValue? d).map (16 * n + ·)) (some 0)

/-- Line ends, with blanks in front of each, and the cursor behind them. -/
def quotedBreaks : Nat → Cursor → Except Problem (List Char × Cursor)
  | 0, c => .ok ([], c)
  | fuel + 1, c =>
    if c.atDocumentMark then c.complain .unclosedQuote
    else
      let c := c.pass fun x => x == ' ' || x == '\t'
      if isBreak c.peek then
        let (head, c) := c.lineBreak
        (quotedBreaks fuel c).map fun (tail, c) => (head ++ tail, c)
      else .ok ([], c)

/-- An escape, behind its backslash. -/
def quotedEscape (c : Cursor) : Except Problem (List Char × Cursor) :=
  match escaped? c.peek, escapeWidth? c.peek with
  | some x, _ => .ok ([x], c.next)
  | none, some width =>
    let c := c.next
    let digits := c.rest.take width
    match if digits.length = width then hexNumber? digits else none with
    | some n => .ok ([Char.ofNat n], c.skip width)
    | none => c.complain .badEscape
  | none, none =>
    if isBreak c.peek then quotedBreaks (c.rest.length + 1) c.lineBreak.2
    else c.complain .badEscape

/-- May the character stand for itself in both kinds of quotes? -/
def isOrdinary (c : Char) : Bool :=
  !(c == ' ' || c == '\t' || c == '\'' || c == '"' || c == '\\' || c == atEnd || isBreak c)

/-- The characters up to the next blank, line end or closing mark. -/
def quotedWord (double : Bool) : Nat → Cursor → Except Problem (List Char × Cursor)
  | 0, c => .ok ([], c)
  | fuel + 1, c =>
    let (plain, c) := c.run isOrdinary
    let go := fun (found : List Char) (c : Cursor) =>
      (quotedWord double fuel c).map fun (tail, c) => (plain ++ found ++ tail, c)
    let x := c.peek
    if !double && x == '\'' && c.peek 1 == '\'' then go ['\''] (c.skip 2)
    else if (double && x == '\'') || (!double && (x == '"' || x == '\\')) then go [x] c.next
    else if double && x == '\\' then
      match quotedEscape c.next with
      | .ok (found, c) => go found c
      | .error problem => .error problem
    else .ok (plain, c)

/-- The blanks between two words, folded. -/
def quotedSpaces (c : Cursor) : Except Problem (List Char × Cursor) :=
  let (blanks, c) := c.run fun x => x == ' ' || x == '\t'
  if c.peek == atEnd then c.complain .unclosedQuote
  else if isBreak c.peek then
    let (first, c) := c.lineBreak
    (quotedBreaks (c.rest.length + 1) c).map fun (more, c) =>
      if first != ['\n'] then (first ++ more, c)
      else if more.isEmpty then ([' '], c)
      else (more, c)
  else .ok (blanks, c)

/-- Words and blanks up to the closing mark. -/
def quotedBody (mark : Char) : Nat → Cursor → Except Problem (List Char × Cursor)
  | 0, c => c.complain .unclosedQuote
  | fuel + 1, c =>
    match quotedWord (mark == '"') (c.rest.length + 1) c with
    | .error problem => .error problem
    | .ok (word, c) =>
      if c.peek == mark then .ok (word, c)
      else
        match quotedSpaces c with
        | .error problem => .error problem
        | .ok (blanks, c) =>
          (quotedBody mark fuel c).map fun (tail, c) => (word ++ blanks ++ tail, c)

/-- A quoted scalar that begins here. -/
def quotedToken (c : Cursor) : Except Problem (Token × Cursor) :=
  (quotedBody c.peek (c.rest.length + 1) c.next).map fun (text, last) =>
    let c' := last.next
    (⟨.scalar (String.ofList text) false, c.mark, c'.mark⟩, c')

end GcodeSender.Yaml
