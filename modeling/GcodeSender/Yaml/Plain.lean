/-
# `GcodeSender.Yaml.Plain` — plain scalars, names, tags and directives

A plain scalar goes on over blanks and line ends, as long as the next line is
indented enough and does not begin a comment or a document.  It ends at a
colon with a blank behind it, and in flow context also at the characters of
flow collections.  One line end inside becomes a space; of several, all but
the first stay.
-/
import GcodeSender.Yaml.Token

namespace GcodeSender.Yaml

open Cursor

/-! ## Plain scalars -/

/-- The characters that only indicators and quoted scalars begin with. -/
def indicators : List Char :=
  ['-', '?', ':', ',', '[', ']', '{', '}', '#', '&', '*', '!', '|', '>', '\'', '"', '%', '@', '`']

/-- Can a plain scalar begin here? -/
def plainBegins (inFlow : Bool) (c : Cursor) : Bool :=
  let x := c.peek
  let next := c.peek 1
  (!indicators.contains x && !endsWord x && !isBreak x) ||
    (x == '-' && !endsWord next) ||
    (x == ':' && inFlow && !(next == ' ' || next == '\t')) ||
    (!inFlow && (x == '?' || x == ':') && !endsWord next)

/-- Does the character end a word of a plain scalar, with this character behind it? -/
def endsPlainWord (inFlow : Bool) (x next : Char) : Bool :=
  if x == ':' && !endsWord next then false
  else if x == '?' then false
  else
    endsWord x || (!inFlow && x == ':') ||
      (inFlow && (x == ',' || x == ':' || x == '[' || x == ']' || x == '{' || x == '}'))

/-- The length of the word of a plain scalar that a text begins with. -/
def plainWordLength (inFlow : Bool) : List Char → Nat
  | [] => 0
  | x :: rest =>
    if endsPlainWord inFlow x (rest.headD atEnd) then 0 else plainWordLength inFlow rest + 1

/-- Line ends and spaces behind the first line end, `none` if a document mark comes. -/
def plainBreaks : Nat → Cursor → Option (List Char) × Cursor
  | 0, c => (some [], c)
  | fuel + 1, c =>
    if c.peek == ' ' then plainBreaks fuel c.next
    else if isBreak c.peek then
      let (head, c) := c.lineBreak
      if c.atDocumentMark then (none, c)
      else
        let (tail, c) := plainBreaks fuel c
        (tail.map (head ++ ·), c)
    else (some [], c)

/-- The blanks behind a word, folded; whether they hold a line end; nothing if the scalar ends. -/
def plainSpaces (c : Cursor) : List Char × Bool × Cursor :=
  let (blanks, c) := c.run (· == ' ')
  if isBreak c.peek then
    let (first, c) := c.lineBreak
    if c.atDocumentMark then ([], true, c)
    else
      match plainBreaks (c.rest.length + 1) c with
      | (none, c) => ([], true, c)
      | (some more, c) =>
        if first != ['\n'] then (first ++ more, true, c)
        else if more.isEmpty then ([' '], true, c)
        else (more, true, c)
  else (blanks, false, c)

/-- What has been read of a plain scalar. -/
structure PlainText where
  text : List Char := []
  /-- Where the last word ends. -/
  stop : Mark
  /-- Has a line end been read since the last word? -/
  crossed : Bool := false
  cursor : Cursor

/-- Words and blanks of a plain scalar; `blanks` stand before the next word. -/
def plainBody (inFlow : Bool) (indent : Int) : Nat → List Char → PlainText → PlainText
  | 0, _, p => p
  | fuel + 1, blanks, p =>
    if p.cursor.peek == '#' then p
    else
      let length := plainWordLength inFlow p.cursor.rest
      if length = 0 then p
      else
        let word := p.cursor.rest.take length
        let behind := p.cursor.skip length
        let (spaces, crossed, cursor) := plainSpaces behind
        let p := { text := p.text ++ blanks ++ word, stop := behind.mark, crossed, cursor }
        if spaces.isEmpty || cursor.peek == '#' || (!inFlow && cursor.column < indent) then p
        else plainBody inFlow indent fuel spaces p

/-- A plain scalar that begins here, inside a block with this indentation; and whether a line end
has been read behind it. -/
def plainToken (inFlow : Bool) (indent : Int) (c : Cursor) : Token × Bool × Cursor :=
  let p := plainBody inFlow (indent + 1) (c.rest.length + 1) [] { stop := c.mark, cursor := c }
  (⟨.scalar (String.ofList p.text) true, c.mark, p.stop⟩, p.crossed, p.cursor)

/-! ## Anchors and aliases -/

/-- May the character stand in the name of an anchor? -/
def isNameChar (c : Char) : Bool :=
  let n := c.toNat
  !(c == ',' || c == '[' || c == ']' || c == '{' || c == '}') &&
    ((0x21 ≤ n && n ≤ 0x7E) || (0xA0 ≤ n && n ≤ 0xD7FF) ||
      (0xE000 ≤ n && n ≤ 0xFFFD && n != 0xFEFF) || 0x10000 ≤ n)

/-- The name behind `&` or `*`. -/
def nameToken (kind : String → TokenKind) (c : Cursor) : Except Problem (Token × Cursor) :=
  let (name, last) := c.next.run isNameChar
  if name.isEmpty || last.peek == '\uFEFF' then last.complain .badName
  else .ok (⟨kind (String.ofList name), c.mark, last.mark⟩, last)

/-! ## Tags -/

/-- Is the character a letter or digit of ASCII? -/
def isAlphanumeric (c : Char) : Bool := c.isAlpha || c.isDigit

/-- May the character stand in the suffix of a tag? -/
def isTagChar (c : Char) : Bool :=
  isAlphanumeric c || "-;/?:@&=+$,_.!~*'()[]%#".toList.contains c

/-- The suffix of a tag, or the text that a handle stands for. -/
def tagSuffix (c : Cursor) : Except Problem (String × Cursor) :=
  let (suffix, last) := c.run isTagChar
  if suffix.isEmpty then last.complain .badTag else .ok (String.ofList suffix, last)

/-- The handle of a tag: `!`, `!!` or `!word!`. -/
def tagHandle (c : Cursor) : Except Problem (String × Cursor) :=
  if c.peek != '!' then c.complain .badTag
  else if c.peek 1 == ' ' then .ok ("!", c.next)
  else
    let (word, last) := c.next.run fun x => isAlphanumeric x || x == '-' || x == '_'
    if last.peek != '!' then last.complain .badTag
    else .ok ("!" ++ String.ofList word ++ "!", last.next)

/-- Does a `!` come before the next space or line end behind the first one? -/
def hasHandle (c : Cursor) : Bool :=
  ((c.rest.drop 1).takeWhile (!endsName ·)).contains '!'

/-- A tag that begins here. -/
def tagToken (c : Cursor) : Except Problem (Token × Cursor) :=
  let x := c.peek 1
  let found : Except Problem (Option String × String × Cursor) :=
    if x == '<' then
      (tagSuffix (c.skip 2)).bind fun (suffix, last) =>
        if last.peek == '>' then .ok (none, suffix, last.next) else last.complain .badTag
    else if endsWord x || isBreak x then .ok (none, "!", c.next)
    else
      (if hasHandle c then tagHandle c else .ok ("!", c.next)).bind fun (handle, c) =>
        (tagSuffix c).map fun (suffix, last) => (some handle, suffix, last)
  found.bind fun (handle, suffix, last) =>
    if endsName last.peek then .ok (⟨.tag handle suffix, c.mark, last.mark⟩, last)
    else last.complain .badTag

/-! ## Directives -/

/-- A whole number in a directive. -/
def directiveNumber (c : Cursor) : Except Problem (Nat × Cursor) :=
  let (digits, last) := c.run Char.isDigit
  if digits.isEmpty then c.complain .badDirective
  else .ok (digits.foldl (fun n d => 10 * n + (d.toNat - 0x30)) 0, last)

/-- The version behind `%YAML`. -/
def versionDirective (c : Cursor) : Except Problem (Directive × Cursor) :=
  (directiveNumber (c.pass (· == ' '))).bind fun (major, c) =>
    if c.peek != '.' then c.complain .badDirective
    else
      (directiveNumber c.next).bind fun (minor, c) =>
        if endsName c.peek then .ok (.version major minor, c) else c.complain .badDirective

/-- The handle and its text behind `%TAG`. -/
def tagDirective (c : Cursor) : Except Problem (Directive × Cursor) :=
  (tagHandle (c.pass (· == ' '))).bind fun (handle, c) =>
    if c.peek != ' ' then c.complain .badDirective
    else
      (tagSuffix (c.pass (· == ' '))).bind fun (text, c) =>
        if endsName c.peek then .ok (.tag handle text, c) else c.complain .badDirective

/-- A directive that begins here. -/
def directiveToken (c : Cursor) : Except Problem (Token × Cursor) :=
  let (name, c') := c.next.run fun x =>
    isAlphanumeric x || x == '-' || x == '_' || x == ':' || x == '.'
  if name.isEmpty || !endsName c'.peek then c'.complain .badDirective
  else
    let found : Except Problem (Directive × Cursor) :=
      if name = "YAML".toList then versionDirective c'
      else if name = "TAG".toList then tagDirective c'
      else .ok (.other, c'.pass fun x => !endsRun x)
    found.bind fun (directive, last) =>
      let c' := last.pass (· == ' ')
      let c' := if c'.peek == '#' then c'.pass fun x => !endsRun x else c'
      if endsRun c'.peek then .ok (⟨.directive directive, c.mark, last.mark⟩, c'.lineBreak.2)
      else c'.complain .badDirective

end GcodeSender.Yaml
