/-
# `GcodeSender.Config.Value` — what a configuration is made of

A configuration is a tree: scalars of five kinds, lists, and mappings that
keep the order of their entries.  Keys are values too; where a key is looked
up it is a text.

A value is written in two ways, which differ for texts alone.

    value      by itself (`text`)    inside another (`shown`)
    null       None                  None
    booleans   True, False           True, False
    numbers    the fewest digits     the same
    text       as it is              quoted
    list       [a, b]                [a, b]; as a key (a, b)
    mapping    {k: v, l: w}          {k: v, l: w}

Every value also counts as true or false: null, zero and what is empty are
false, everything else is true.
-/
import GcodeSender.Decimal.Shortest
import GcodeSender.Text.Literal

namespace GcodeSender.Config

/-- A value of a configuration. -/
inductive Value where
  | null
  | bool (b : Bool)
  | int (n : Int)
  | float (x : Float)
  | str (s : String)
  | list (items : List Value)
  | map (entries : List (Value × Value))
  deriving Inhabited

namespace Value

/-- Does the value count as true? -/
def isTruthy : Value → Bool
  | .null => false
  | .bool b => b
  | .int n => n != 0
  | .float x => x != 0.0
  | .str s => !s.isEmpty
  | .list items => !items.isEmpty
  | .map entries => !entries.isEmpty

/-- Can the value be a key, or a member of a set? -/
def isAtomic : Value → Bool
  | .list _ | .map _ => false
  | _ => true

/-- Does the value have a length? -/
def isSized : Value → Bool
  | .str _ | .list _ | .map _ => true
  | _ => false

/-- The text that the value is, if it is one. -/
def asText? : Value → Option String
  | .str s => some s
  | _ => none

/-- The value under a text in a mapping. -/
def get? (entries : List (Value × Value)) (key : String) : Option Value :=
  (entries.find? fun (k, _) => k.asText? = some key).map (·.2)

/-! ## Writing -/

/-- A value that is neither a text nor made of others. -/
def plainText : Value → String
  | .null => "None"
  | .bool true => "True"
  | .bool false => "False"
  | .int n => Decimal.signed (n < 0) (Decimal.digits n.natAbs)
  | .float x => Decimal.text x
  | _ => ""

/-- Items between brackets. -/
def inBrackets (opening closing : String) (items : List String) : String :=
  opening ++ ", ".intercalate items ++ closing

/-- A list that is a key: round brackets, and a comma behind a single item. -/
def inKeyBrackets : List String → String
  | [item] => "(" ++ item ++ ",)"
  | items => inBrackets "(" ")" items

mutual

/-- A value as it is written inside another. -/
def shown : Value → String
  | .str s => Text.quoted s.toList
  | .list items => inBrackets "[" "]" (shownAll items)
  | .map entries => inBrackets "\x7b" "\x7d" (shownEntries entries)
  | v => v.plainText

/-- The items of a list. -/
def shownAll : List Value → List String
  | [] => []
  | v :: rest => shown v :: shownAll rest

/-- A key of a mapping. -/
def shownKey : Value → String
  | .str s => Text.quoted s.toList
  | .list items => inKeyBrackets (shownAll items)
  | v => v.plainText

/-- The entries of a mapping. -/
def shownEntries : List (Value × Value) → List String
  | [] => []
  | (k, v) :: rest => (shownKey k ++ ": " ++ shown v) :: shownEntries rest

end

/-- A value written by itself. -/
def text : Value → String
  | .str s => s
  | v => v.shown

/-- A key written by itself. -/
def keyText : Value → String
  | .str s => s
  | v => v.shownKey

/-- How many digits a whole number may have to be written. -/
def digitLimit : Nat := 4300

mutual

/-- Can the value be written?  A whole number that is too long cannot. -/
def isWritable : Value → Bool
  | .int n => (Decimal.digits n.natAbs).length ≤ digitLimit
  | .list items => areWritable items
  | .map entries => areWritableEntries entries
  | _ => true

/-- Can all items of a list be written? -/
def areWritable : List Value → Bool
  | [] => true
  | v :: rest => isWritable v && areWritable rest

/-- Can all entries of a mapping be written? -/
def areWritableEntries : List (Value × Value) → Bool
  | [] => true
  | (k, v) :: rest => isWritable k && isWritable v && areWritableEntries rest

end

end Value

end GcodeSender.Config
