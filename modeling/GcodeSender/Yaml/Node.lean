/-
# `GcodeSender.Yaml.Node` — from tokens to the tree of a document

    stream      document? and nothing behind it
    document    directives `---` node?, or node; perhaps `...`
    node        alias, or properties and content, or properties alone
    properties  an anchor and a tag, in either order
    content     scalar, flow collection, block collection
    sequence    entries, each of them a node or nothing
    mapping     keys and values, each of them a node or nothing

Nothing where a node could be counts as an empty plain scalar, which is null.
A sequence that is the value of a key need not be indented.  A node with an
anchor can be used again behind its end, by an alias.

The functions follow the grammar.  Each takes an allowance for how often it
may go deeper or on; a document of `n` tokens needs less than `4 · n + 8`.
-/
import GcodeSender.Yaml.Lexer
import GcodeSender.Yaml.Tag

namespace GcodeSender.Yaml

/-- What the merge keys of a mapping led to. -/
structure Merging where
  /-- Have entries been merged into the mapping? -/
  any : Bool := false
  problem : Option Problem := none
  deriving DecidableEq, Repr

/-- The tree of a document; every node knows where it begins. -/
inductive Node where
  | scalar (tag : Tag) (text : String) (start : Mark)
  | sequence (tag : Tag) (items : List Node) (start : Mark)
  | mapping (tag : Tag) (entries : List (Node × Node)) (merging : Merging) (start : Mark)

namespace Node

/-- Where a node begins. -/
def start : Node → Mark
  | .scalar _ _ m | .sequence _ _ m | .mapping _ _ _ m => m

/-- The kind of a node. -/
def tag : Node → Tag
  | .scalar t _ _ | .sequence t _ _ | .mapping t _ _ _ => t

/-- An empty plain scalar. -/
def empty (m : Mark) : Node := .scalar .null "" m

/-! ## Merging -/

/-- What a node gives to the mapping that merges it. -/
def mergeable (n : Node) : Except Problem (List (Node × Node)) :=
  match n with
  | .mapping _ entries merging _ =>
    match merging.problem with
    | some problem => .error problem
    | none => .ok entries
  | _ => .error (.misplaced .badMerge n.start)

/-- What the value of a merge key gives: the entries of a mapping, or of several in a sequence,
those of the last one first. -/
def mergeableAll (n : Node) : Except Problem (List (Node × Node)) :=
  match n with
  | .sequence _ items _ => (items.mapM mergeable).map fun l => l.reverse.flatten
  | n => n.mergeable

/-- The entries of a mapping, in two parts: those merged into it, and its own. -/
def parted : List (Node × Node) → List (Node × Node) → List (Node × Node) →
    Except Problem (List (Node × Node) × List (Node × Node))
  | [], merged, own => .ok (merged, own)
  | (key, value) :: rest, merged, own =>
    match key with
    | .scalar .merge _ m =>
      if !merged.isEmpty then .error (.misplaced .duplicateKey m)
      else
        match value.mergeableAll with
        | .error problem => .error problem
        | .ok more => parted rest more own
    | .scalar .value text m => parted rest merged (own ++ [(.scalar .str text m, value)])
    | key => parted rest merged (own ++ [(key, value)])

/-- A mapping with these entries: the key `<<` merges the entries of other mappings into it, which
come first, and the key `=` is a text. -/
def ofEntries (tag : Tag) (entries : List (Node × Node)) (start : Mark) : Node :=
  match parted entries [] [] with
  | .error problem => .mapping tag entries { problem := some problem } start
  | .ok (merged, own) => .mapping tag (merged ++ own) { any := !merged.isEmpty } start

end Node

/-! ## The state of reading -/

/-- What is left to be read, and what has been named. -/
structure Stream where
  input : Tokens
  anchors : List (String × Node) := []
  handles : List (String × String) := []

/-- Reading may change the state, and may end with a problem. -/
abbrev Reading := StateT Stream (Except Problem)

namespace Reading

/-- The handles that need no directive. -/
def commonHandles : List (String × String) := [("!", "!"), ("!!", Tag.commonNames)]

/-- End with a complaint. -/
def complain {ρ : Type} (complaint : Complaint) (m : Mark) : Reading ρ :=
  throw (.misplaced complaint m)

/-- The next token. -/
def peek : Reading Token := do
  let input := (← get).input
  match input.tokens, input.problem with
  | t :: _, _ => pure t
  | [], some problem => throw problem
  | [], none => complain .unexpectedToken {}

/-- Take the next token. -/
def take : Reading Token := do
  let t ← peek
  modify fun s => { s with input := { s.input with tokens := s.input.tokens.drop 1 } }
  pure t

/-- Is the next token of one of these kinds? -/
def next (kinds : List TokenKind) : Reading Bool := do
  return kinds.contains (← peek).kind

/-- Is the next token of this kind?  If so, it is taken. -/
def takeIf (kind : TokenKind) : Reading Bool := do
  if ← next [kind] then
    let _ ← take
    return true
  return false

/-- Give a node a name. -/
def name (anchor : Option String) (n : Node) : Reading Node := do
  if let some a := anchor then modify fun s => { s with anchors := (a, n) :: s.anchors }
  pure n

/-! ## Properties of nodes -/

/-- The properties in front of a node's content. -/
structure Properties where
  anchor : Option String := none
  tag : Option (Option String × String) := none
  /-- Where the first property begins. -/
  start : Option Mark := none
  /-- Where the tag begins. -/
  tagStart : Mark := {}

/-- Read at most two properties, an anchor and a tag. -/
def properties : Nat → Properties → Reading Properties
  | 0, p => pure p
  | n + 1, p => do
    let t ← peek
    let start := some (p.start.getD t.start)
    match t.kind, p.anchor, p.tag with
    | .anchor a, none, _ =>
      let _ ← take
      properties n { p with anchor := some a, start }
    | .tag handle suffix, _, none =>
      let _ ← take
      properties n { p with tag := some (handle, suffix), start, tagStart := t.start }
    | _, _, _ => pure p

/-- The full name of a tag; no name for the tag `!`, which says nothing. -/
def fullName (p : Properties) : Reading (Option String) := do
  match p.tag with
  | none => pure none
  | some (none, suffix) => pure (if suffix = "!" then none else some suffix)
  | some (some handle, suffix) =>
    match (← get).handles.lookup handle with
    | some text => pure (some (text ++ suffix))
    | none => complain .unknownHandle p.tagStart

/-- The kind of a collection. -/
def kindOr (default : Tag) : Option String → Tag
  | none => default
  | some name => Tag.ofName name

/-- The kind of a scalar: what its tag says, else what it looks like if that counts. -/
def scalarKind (p : Properties) (full : Option String) (text : String) (plain : Bool) : Tag :=
  match full with
  | some name => Tag.ofName name
  | none => if plain || p.tag.isSome then Tag.ofPlain text else .str

/-! ## The grammar -/

mutual

/-- A node.  In block context it may be a block collection; where `unindented` is set it may be a
sequence that is not indented. -/
def node : Nat → Bool → Bool → Reading Node
  | 0, _, _ => complain .unexpectedToken {}
  | fuel + 1, block, unindented => do
    let t ← peek
    match t.kind with
    | .alias a =>
      let _ ← take
      match (← get).anchors.lookup a with
      | some n => pure n
      | none => complain .unknownAlias t.start
    | _ =>
      let p ← properties 2 {}
      let full ← fullName p
      let t ← peek
      let start := p.start.getD t.start
      match t.kind, block with
      | .scalar text plain, _ =>
        let _ ← take
        name p.anchor (.scalar (scalarKind p full text plain) text start)
      | .flowSequenceStart, _ =>
        let _ ← take
        let items ← flowSequence fuel true
        name p.anchor (.sequence (kindOr .sequence full) items start)
      | .flowMappingStart, _ =>
        let _ ← take
        let entries ← flowMapping fuel true
        name p.anchor (.ofEntries (kindOr .mapping full) entries start)
      | .blockSequenceStart, true =>
        let _ ← take
        let items ← blockSequence fuel false
        name p.anchor (.sequence (kindOr .sequence full) items start)
      | .blockMappingStart, true =>
        let _ ← take
        let entries ← blockMapping fuel
        name p.anchor (.ofEntries (kindOr .mapping full) entries start)
      | kind, _ =>
        if unindented && kind = .blockEntry then
          let items ← blockSequence fuel true
          name p.anchor (.sequence (kindOr .sequence full) items start)
        else if p.start.isSome then
          let kind := (full.map Tag.ofName).getD .null
          name p.anchor (.scalar kind "" start)
        else complain .unexpectedToken t.start

/-- The entries of a block sequence and its end; a sequence that is not indented has none. -/
def blockSequence : Nat → Bool → Reading (List Node)
  | 0, _ => complain .unexpectedToken {}
  | fuel + 1, unindented => do
    let t ← peek
    if t.kind = .blockEntry then
      let _ ← take
      let noItem ←
        if unindented then next [.blockEntry, .key, .value, .blockEnd]
        else next [.blockEntry, .blockEnd]
      let item ← if noItem then pure (.empty t.stop) else node fuel true false
      let rest ← blockSequence fuel unindented
      return item :: rest
    else if unindented then return []
    else if ← takeIf .blockEnd then return []
    else complain .unexpectedToken t.start

/-- The entries of a block mapping and its end. -/
def blockMapping : Nat → Reading (List (Node × Node))
  | 0 => complain .unexpectedToken {}
  | fuel + 1 => do
    let t ← peek
    if t.kind = .key then
      let _ ← take
      let key ←
        if ← next [.key, .value, .blockEnd] then pure (.empty t.stop) else node fuel true true
      let value ← blockValue fuel
      let rest ← blockMapping fuel
      return (key, value) :: rest
    else if t.kind = .value then
      let value ← blockValue fuel
      let rest ← blockMapping fuel
      return (.empty t.start, value) :: rest
    else if ← takeIf .blockEnd then return []
    else complain .unexpectedToken t.start

/-- The value of an entry of a block mapping. -/
def blockValue : Nat → Reading Node
  | 0 => complain .unexpectedToken {}
  | fuel + 1 => do
    let t ← peek
    if t.kind = .value then
      let _ ← take
      if ← next [.key, .value, .blockEnd] then pure (.empty t.stop) else node fuel true true
    else pure (.empty t.start)

/-- The entries of a flow sequence and its end. -/
def flowSequence : Nat → Bool → Reading (List Node)
  | 0, _ => complain .unexpectedToken {}
  | fuel + 1, first => do
    if ← takeIf .flowSequenceEnd then return []
    if !first then
      if !(← takeIf .flowEntry) then complain .unexpectedToken (← peek).start
    let t ← peek
    match t.kind with
    | .flowSequenceEnd =>
      let _ ← take
      return []
    | .key =>
      let _ ← take
      let key ←
        if ← next [.value, .flowEntry, .flowSequenceEnd] then pure (.empty t.stop)
        else node fuel false false
      let value ← flowValue fuel .flowSequenceEnd
      let rest ← flowSequence fuel false
      return .ofEntries .mapping [(key, value)] t.start :: rest
    | _ =>
      let item ← node fuel false false
      let rest ← flowSequence fuel false
      return item :: rest

/-- The entries of a flow mapping and its end. -/
def flowMapping : Nat → Bool → Reading (List (Node × Node))
  | 0, _ => complain .unexpectedToken {}
  | fuel + 1, first => do
    if ← takeIf .flowMappingEnd then return []
    if !first then
      if !(← takeIf .flowEntry) then complain .unexpectedToken (← peek).start
    let t ← peek
    match t.kind with
    | .flowMappingEnd =>
      let _ ← take
      return []
    | .key =>
      let _ ← take
      let key ←
        if ← next [.value, .flowEntry, .flowMappingEnd] then pure (.empty t.stop)
        else node fuel false false
      let value ← flowValue fuel .flowMappingEnd
      let rest ← flowMapping fuel false
      return (key, value) :: rest
    | .value =>
      let value ← flowValue fuel .flowMappingEnd
      let rest ← flowMapping fuel false
      return (.empty t.stop, value) :: rest
    | _ =>
      let key ← node fuel false false
      let value := .empty (← peek).start
      let rest ← flowMapping fuel false
      return (key, value) :: rest

/-- The value of an entry of a flow collection that ends in this way. -/
def flowValue : Nat → TokenKind → Reading Node
  | 0, _ => complain .unexpectedToken {}
  | fuel + 1, closing => do
    let t ← peek
    if t.kind = .value then
      let _ ← take
      if ← next [.flowEntry, closing] then pure (.empty t.stop) else node fuel false false
    else pure (.empty t.start)

end

/-! ## Documents -/

/-- The directives in front of a document. -/
def directives : Nat → Bool → List (String × String) → Reading (List (String × String))
  | 0, _, handles => pure handles
  | fuel + 1, versioned, handles => do
    let t ← peek
    match t.kind with
    | .directive d =>
      let _ ← take
      match d with
      | .version major _ =>
        if versioned || major != 1 then complain .badDirective t.start
        directives fuel true handles
      | .tag handle text =>
        if (handles.lookup handle).isSome then complain .badDirective t.start
        directives fuel versioned ((handle, text) :: handles)
      | .other => directives fuel versioned handles
    | _ => pure handles

/-- Pass over the marks of a document's end. -/
def passEnds : Nat → Reading Unit
  | 0 => pure ()
  | fuel + 1 => do if ← takeIf .documentEnd then passEnds fuel

/-- The beginning of a document that is announced: where it is, or nothing at the end. -/
def announced (fuel : Nat) : Reading (Option Mark) := do
  passEnds fuel
  if ← next [.streamEnd] then return none
  let handles ← directives fuel false []
  modify fun s => { s with handles := handles ++ commonHandles }
  let t ← peek
  if ← takeIf .documentStart then return some t.start
  complain .unexpectedToken t.start

/-- Does a document begin here without being announced? -/
def unannounced : Reading Bool := do
  match (← peek).kind with
  | .directive _ | .documentStart | .streamEnd => return false
  | _ => return true

/-- Nothing but the end may come behind a document. -/
def finish (fuel : Nat) : Reading Unit := do
  let t ← peek
  let ended ← takeIf .documentEnd
  let t ← if ended then peek else pure t
  if ended && (← unannounced) then complain .secondDocument t.start
  match ← announced fuel with
  | some m => complain .secondDocument m
  | none => pure ()

/-- The one document of a stream, if it holds one. -/
def stream (fuel : Nat) : Reading (Option Node) := do
  if ← unannounced then
    let root ← node fuel true false
    finish fuel
    return some root
  match ← announced fuel with
  | none => return none
  | some _ =>
    let t ← peek
    let noContent :=
      match t.kind with
      | .directive _ | .documentStart | .documentEnd | .streamEnd => true
      | _ => false
    let root ← if noContent then pure (.empty t.start) else node fuel true false
    finish fuel
    return some root

end Reading

/-- The tree of the one document in a text, if there is one. -/
def Node.ofText? (s : List Char) : Except Problem (Option Node) :=
  match firstUnprintable? s with
  | some problem => .error problem
  | none =>
    let input := Tokens.ofText s
    let fuel := 4 * input.tokens.length + 8
    (Reading.stream fuel).run' { input, handles := Reading.commonHandles }

end GcodeSender.Yaml
