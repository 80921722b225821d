/-
# `GcodeSender.Yaml.Token` — the tokens of a document

Indentation is turned into tokens: a block collection begins where a line is
indented more than the lines before, and ends where one is indented less.  A
key is announced by a token in front of it, even though only the colon behind
it shows that it is one.
-/
import GcodeSender.Yaml.Source

namespace GcodeSender.Yaml

/-- The directives that a document can begin with. -/
inductive Directive where
  | version (major minor : Nat)
  | tag (handle replacement : String)
  | other
  deriving DecidableEq, Repr

/-- The kinds of tokens. -/
inductive TokenKind where
  | streamEnd
  | directive (d : Directive)
  | documentStart
  | documentEnd
  | blockSequenceStart
  | blockMappingStart
  | blockEnd
  | flowSequenceStart
  | flowSequenceEnd
  | flowMappingStart
  | flowMappingEnd
  | flowEntry
  | blockEntry
  | key
  | value
  | alias (name : String)
  | anchor (name : String)
  | tag (handle : Option String) (suffix : String)
  | scalar (text : String) (plain : Bool)
  deriving DecidableEq, Repr

/-- A token, and the places where it begins and ends. -/
structure Token where
  kind : TokenKind
  start : Mark
  stop : Mark
  deriving DecidableEq, Repr

/-- The tokens of a document, up to the problem that ends them, if there is one. -/
structure Tokens where
  tokens : List Token
  problem : Option Problem := none
  deriving Repr

end GcodeSender.Yaml
