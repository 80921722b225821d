/-
# `GcodeSender.Yaml.Lexer` — from text to tokens

The lexer fetches one token after another.  Whether a token is a simple key
shows only when its colon is found, on the same line and at most
`keyReach` characters on; until then it waits in a queue together with what
follows it, and at the colon the announcement of the key, and perhaps of a
block mapping, is put in front of it.

    possible key      what becomes of it
    colon comes       it is announced
    line ends first   it is none; in a place where only a key can stand, that
                      is a problem
    too far           the same

A place where only a key can stand is one in block context at the current
indentation.  Tokens leave the queue as soon as no possible key is before
them, so the tokens in front of a problem are all those that can be known
without the text behind it.
-/
import GcodeSender.Yaml.Block
import GcodeSender.Yaml.Plain
import GcodeSender.Yaml.Quoted

namespace GcodeSender.Yaml

open Cursor

/-- How far a colon may be from the beginning of its key. -/
def keyReach : Nat := 1024

/-- A token that may turn out to be a key. -/
structure PossibleKey where
  /-- How many tokens are before it. -/
  number : Nat
  required : Bool
  index : Nat
  mark : Mark
  deriving Repr

/-- A lexer at work. -/
structure Lexer where
  cursor : Cursor
  /-- The flow collections that are open, the innermost first; is it a mapping? -/
  flow : List Bool := []
  indent : Int := -1
  /-- The indentations around the current one. -/
  indents : List Int := []
  allowKey : Bool := true
  /-- The possible key of each depth of flow collections. -/
  keys : List (Nat × PossibleKey) := []
  /-- How many tokens have left the queue. -/
  taken : Nat := 0
  queue : List Token := []
  /-- The tokens that have left the queue, the last one first. -/
  out : List Token := []

namespace Lexer

def depth (l : Lexer) : Nat := l.flow.length

def inFlow (l : Lexer) : Bool := !l.flow.isEmpty

/-- Queue a token. -/
def push (l : Lexer) (t : Token) : Lexer := { l with queue := l.queue ++ [t] }

/-- Queue a token that takes no room. -/
def pushHere (l : Lexer) (kind : TokenKind) : Lexer :=
  l.push ⟨kind, l.cursor.mark, l.cursor.mark⟩

/-- Queue a token of `n` characters and go behind it. -/
def pushIndicator (l : Lexer) (kind : TokenKind) (n : Nat) : Lexer :=
  let last := l.cursor.skip n
  { l.push ⟨kind, l.cursor.mark, last.mark⟩ with cursor := last }

/-- Put a token in front of the token with this number. -/
def insert (l : Lexer) (number : Nat) (t : Token) : Lexer :=
  let before := number - l.taken
  { l with queue := l.queue.take before ++ t :: l.queue.drop before }

/-- Set whether the next token may be a key. -/
def allowing (l : Lexer) (allowKey : Bool) : Lexer := { l with allowKey }

/-! ## Possible keys -/

/-- Drop the possible key of this depth; it must not be a required one. -/
def dropKey (l : Lexer) : Except Problem Lexer :=
  match l.keys.lookup l.depth with
  | some key =>
    if key.required then l.cursor.complain .missingColon
    else .ok { l with keys := l.keys.filter (·.1 != l.depth) }
  | none => .ok l

/-- Note that the next token may be a key, where one is allowed. -/
def noteKey (l : Lexer) : Except Problem Lexer :=
  if l.allowKey then
    l.dropKey.map fun l =>
      let key :=
        { number := l.taken + l.queue.length
          required := !l.inFlow && l.indent == l.cursor.column
          index := l.cursor.index, mark := l.cursor.mark }
      { l with keys := l.keys ++ [(l.depth, key)] }
  else .ok l

/-- Is the possible key too far back to be one? -/
def isStale (l : Lexer) (key : PossibleKey) : Bool :=
  key.mark.line != l.cursor.mark.line || keyReach < l.cursor.index - key.index

/-- Drop the possible keys that are too far back; none of them must be required. -/
def dropStale (l : Lexer) : Except Problem Lexer :=
  if l.keys.any fun (_, key) => l.isStale key && key.required then
    l.cursor.complain .missingColon
  else .ok { l with keys := l.keys.filter fun (_, key) => !l.isStale key }

/-- Let the tokens out that no possible key is before. -/
def release (l : Lexer) : Lexer :=
  let n :=
    match (l.keys.map (·.2.number)).min? with
    | some first => first - l.taken
    | none => l.queue.length
  { l with
    out := (l.queue.take n).reverse ++ l.out
    taken := l.taken + (l.queue.take n).length
    queue := l.queue.drop n }

/-! ## Indentation -/

/-- End the blocks that are indented more than a column. -/
def unwindTo (column : Int) : List Int → Lexer → Lexer
  | [], l => l
  | outer :: rest, l =>
    if column < l.indent then
      unwindTo column rest { l.pushHere .blockEnd with indent := outer, indents := rest }
    else l

/-- End the blocks that are indented more than a column; in flow context there are none. -/
def unwind (l : Lexer) (column : Int) : Lexer :=
  if l.inFlow then l else unwindTo column l.indents l

/-- Is a column indented more than the current block? -/
def isDeeper (l : Lexer) (column : Nat) : Bool := l.indent < column

/-- Begin a block that is indented to a column. -/
def indentTo (l : Lexer) (column : Nat) : Lexer :=
  { l with indents := l.indent :: l.indents, indent := column }

/-! ## Tokens -/

/-- The end of the text. -/
def fetchEnd (l : Lexer) : Except Problem Lexer :=
  (l.unwind (-1)).dropKey.map fun l =>
    { l with allowKey := false, keys := [] }.pushHere .streamEnd

/-- A directive. -/
def fetchDirective (l : Lexer) : Except Problem Lexer :=
  (l.unwind (-1)).dropKey.bind fun l =>
    (directiveToken l.cursor).map fun (t, cursor) =>
      { l.push t with allowKey := false, cursor }

/-- The mark of a document's beginning or end. -/
def fetchDocumentMark (l : Lexer) (kind : TokenKind) : Except Problem Lexer :=
  (l.unwind (-1)).dropKey.map fun l => (l.allowing false).pushIndicator kind 3

/-- The beginning of a flow collection. -/
def fetchFlowStart (l : Lexer) (mapping : Bool) : Except Problem Lexer :=
  l.noteKey.map fun l =>
    { l with flow := mapping :: l.flow, allowKey := true }.pushIndicator
      (if mapping then .flowMappingStart else .flowSequenceStart) 1

/-- The end of a flow collection. -/
def fetchFlowEnd (l : Lexer) (kind : TokenKind) : Except Problem Lexer :=
  l.dropKey.map fun l =>
    { l with flow := l.flow.drop 1, allowKey := false }.pushIndicator kind 1

/-- A comma between two entries of a flow collection. -/
def fetchFlowEntry (l : Lexer) : Except Problem Lexer :=
  (l.allowing true).dropKey.map fun l => l.pushIndicator .flowEntry 1

/-- Begin a block collection here, where the column is deeper than the current block. -/
def beginBlock (l : Lexer) (kind : TokenKind) : Lexer :=
  if l.isDeeper l.cursor.column then (l.indentTo l.cursor.column).pushHere kind else l

/-- The hyphen of a sequence entry. -/
def fetchBlockEntry (l : Lexer) : Except Problem Lexer :=
  if l.inFlow then
    (l.allowing true).dropKey.map fun l => l.pushIndicator .blockEntry 1
  else if !l.allowKey then l.cursor.complain .entryNotAllowed
  else (l.beginBlock .blockSequenceStart).dropKey.map fun l => l.pushIndicator .blockEntry 1

/-- The question mark of a key. -/
def fetchKey (l : Lexer) : Except Problem Lexer :=
  if l.inFlow then
    (l.allowing false).dropKey.map fun l => l.pushIndicator .key 1
  else if !l.allowKey then l.cursor.complain .keyNotAllowed
  else (l.beginBlock .blockMappingStart).dropKey.map fun l => l.pushIndicator .key 1

/-- Announce a key, and a block mapping if it begins one. -/
def announce (l : Lexer) (key : PossibleKey) : Lexer :=
  let l := { l with keys := l.keys.filter (·.1 != l.depth), allowKey := false }
  let l := l.insert key.number ⟨.key, key.mark, key.mark⟩
  if !l.inFlow && l.isDeeper key.mark.column then
    (l.indentTo key.mark.column).insert key.number ⟨.blockMappingStart, key.mark, key.mark⟩
  else l

/-- The colon of a value. -/
def fetchValue (l : Lexer) : Except Problem Lexer :=
  match l.keys.lookup l.depth with
  | some key => .ok ((l.announce key).pushIndicator .value 1)
  | none =>
    if l.inFlow then
      (l.allowing false).dropKey.map fun l => l.pushIndicator .value 1
    else if !l.allowKey then l.cursor.complain .valueNotAllowed
    else (l.beginBlock .blockMappingStart).dropKey.map fun l => l.pushIndicator .value 1

/-- A token that may be a key. -/
def fetchNamed (l : Lexer) (scan : Cursor → Except Problem (Token × Cursor)) :
    Except Problem Lexer :=
  l.noteKey.bind fun l =>
    (scan l.cursor).map fun (t, cursor) => { l.push t with allowKey := false, cursor }

/-- A block scalar. -/
def fetchBlockScalar (l : Lexer) : Except Problem Lexer :=
  (l.allowing true).dropKey.bind fun l =>
    (blockToken l.indent l.cursor).map fun (t, cursor) => { l.push t with cursor }

/-- A plain scalar. -/
def fetchPlain (l : Lexer) : Except Problem Lexer :=
  l.noteKey.map fun l =>
    let (t, crossed, cursor) := plainToken l.inFlow l.indent l.cursor
    { l.push t with allowKey := crossed, cursor }

/-- Does a colon here begin a value? -/
def atValue (l : Lexer) : Bool :=
  let blankBehind := endsWord (l.cursor.peek 1)
  match l.flow with
  | [] | false :: _ => blankBehind
  | true :: _ => blankBehind || (l.queue.getLast?.map (·.kind)) != some .value

/-- Fetch the token that begins here. -/
def fetchToken (l : Lexer) : Except Problem Lexer :=
  let c := l.cursor
  let next := c.peek 1
  let lineStart := c.column == 0
  match c.peek with
  | '\x00' => l.fetchEnd
  | '[' => l.fetchFlowStart false
  | '{' => l.fetchFlowStart true
  | ']' => l.fetchFlowEnd .flowSequenceEnd
  | '}' => l.fetchFlowEnd .flowMappingEnd
  | ',' => l.fetchFlowEntry
  | '*' => l.fetchNamed (nameToken .alias)
  | '&' => l.fetchNamed (nameToken .anchor)
  | '!' => l.fetchNamed tagToken
  | '\'' | '"' => l.fetchNamed quotedToken
  | x =>
    if x == '%' && lineStart then l.fetchDirective
    else if lineStart && c.hasTriple '-' then l.fetchDocumentMark .documentStart
    else if lineStart && c.hasTriple '.' then l.fetchDocumentMark .documentEnd
    else if x == '-' && endsWord next then l.fetchBlockEntry
    else if x == '?' && (l.inFlow || endsWord next) then l.fetchKey
    else if x == ':' && l.atValue then l.fetchValue
    else if (x == '|' || x == '>') && !l.inFlow then l.fetchBlockScalar
    else if plainBegins l.inFlow c then l.fetchPlain
    else c.complain .noToken

/-- Go to the next token, over blanks, comments and line ends; behind a line end in block context
a key is allowed. -/
def skipBlanks : Nat → Lexer → Lexer
  | 0, l => l
  | fuel + 1, l =>
    let c := l.cursor
    let c := if c.index == 0 && c.peek == '\uFEFF' then c.next else c
    let c := c.pass fun x => x == ' ' || (l.inFlow && x == '\t')
    let c := if c.peek == '#' then c.pass fun x => !endsRun x else c
    if isBreak c.peek then
      skipBlanks fuel { l with cursor := c.lineBreak.2, allowKey := l.allowKey || !l.inFlow }
    else { l with cursor := c }

/-- Fetch the next token, and let out what is certain then. -/
def fetch (l : Lexer) : Except Problem Lexer :=
  (skipBlanks (l.cursor.rest.length + 1) l).dropStale.bind fun l =>
    (l.unwind l.cursor.column).fetchToken.bind fun l => l.dropStale.map release

/-- Fetch tokens up to the end of the text, or to a problem. -/
def fetchAll : Nat → Lexer → Tokens
  | 0, l => { tokens := l.out.reverse }
  | fuel + 1, l =>
    match l.fetch with
    | .error problem => { tokens := l.out.reverse, problem := some problem }
    | .ok l' =>
      if (l'.out.head?.map (·.kind)) == some .streamEnd then { tokens := l'.out.reverse }
      else fetchAll fuel l'

end Lexer

/-- The tokens of a document.  Every token but the last takes at least one character. -/
def Tokens.ofText (s : List Char) : Tokens :=
  Lexer.fetchAll (s.length + 1) { cursor := { rest := s } }

end GcodeSender.Yaml
