/-
# `GcodeSender.Yaml.Document` — from the tree of a document to its value

A node of a known kind has a value.  A mapping must not hold a key twice,
unless it merges others; no key may be a mapping, and a sequence that is a key
must hold single values.

Problems are found level by level: first those of the root with its keys and
scalars, then those of the collections in it, in their order, and so on down.
Of two problems of one document this decides which is reported.  Keys are
looked through to the bottom at once.
-/
import GcodeSender.Config.Value
import GcodeSender.Yaml.Node

namespace GcodeSender.Yaml

open Config

/-! ## Keys -/

/-- The whole number that a value is or counts as. -/
def whole? : Value → Option Int
  | .int n => some n
  | .bool b => some (if b then 1 else 0)
  | _ => none

/-- The number that a value is or counts as. -/
def number? : Value → Option Float
  | .float x => some x
  | v => (whole? v).map Float.ofInt

mutual

/-- Are two keys the same?  Numbers are compared by value, whatever their kind, and truth counts as
one and zero. -/
def sameKey : Value → Value → Bool
  | .null, .null => true
  | .str a, .str b => a == b
  | .list a, .list b => sameKeys a b
  | a, b =>
    match whole? a, whole? b, number? a, number? b with
    | some m, some n, _, _ => m == n
    | _, _, some x, some y => x == y
    | _, _, _, _ => false

/-- Are the items of two keys the same? -/
def sameKeys : List Value → List Value → Bool
  | [], [] => true
  | a :: as, b :: bs => sameKey a b && sameKeys as bs
  | _, _ => false

end

/-- Entries after one more assignment: a key that is there keeps its place. -/
def assign (entries : List (Value × Value)) (key value : Value) : List (Value × Value) :=
  if entries.any fun (k, _) => sameKey k key then
    entries.map fun (k, v) => if sameKey k key then (k, value) else (k, v)
  else entries ++ [(key, value)]

/-- Are all items of a key single values? -/
def isFlatKey : Value → Bool
  | .list items => items.all (·.isAtomic)
  | _ => true

/-- Is the value a mapping? -/
def isMapping : Value → Bool
  | .map _ => true
  | _ => false

/-! ## Values -/

/-- The value of a scalar. -/
def scalarValue (tag : Tag) (text : String) (m : Mark) : Except Problem Value :=
  match tag with
  | .null => .ok .null
  | .bool => (truthOf text).map .bool
  | .int => (intOf text).map .int
  | .float => (floatOf text).map .float
  | .str => .ok (.str text)
  | _ => .error (.misplaced .unknownTag m)

namespace Node

mutual

/-- The value of a node; what has none counts as null. -/
def value : Node → Value
  | .scalar tag text m => (scalarValue tag text m).toOption.getD .null
  | .sequence _ items _ => .list (values items)
  | .mapping _ entries _ _ => .map (entryValues entries [])

/-- The values of the items of a sequence. -/
def values : List Node → List Value
  | [] => []
  | n :: rest => n.value :: values rest

/-- The entries of a mapping, assigned one after another. -/
def entryValues : List (Node × Node) → List (Value × Value) → List (Value × Value)
  | [], done => done
  | (k, v) :: rest, done => entryValues rest (assign done k.value v.value)

end

/-! ## Problems -/

/-- The problem of a node that shows without looking into it. -/
def surfaceProblem? : Node → Option Problem
  | .scalar tag text m =>
    match scalarValue tag text m with
    | .ok _ => none
    | .error problem => some problem
  | .sequence tag _ m => if tag = .sequence then none else some (.misplaced .unknownTag m)
  | .mapping tag _ _ m => if tag = .mapping then none else some (.misplaced .unknownTag m)

/-- The problem that a mapping can be no key. -/
def keyProblem? (key : Node) : Option Problem :=
  if isMapping key.value then some (.misplaced .badKey key.start) else none

/-- The problem that a key cannot be assigned behind these. -/
def repeatProblem? (strict : Bool) (done : List Value) (key : Node) : Option Problem :=
  if !isFlatKey key.value then some .nestedKey
  else if strict && done.any fun d => sameKey d key.value then
    some (.misplaced .duplicateKey key.start)
  else none

mutual

/-- The first problem of a node and of everything in it. -/
def deepProblem? : Node → Option Problem
  | .scalar tag text m => surfaceProblem? (.scalar tag text m)
  | .sequence tag items m => (surfaceProblem? (.sequence tag [] m)).or (itemProblem? items)
  | .mapping tag entries merging m =>
    (surfaceProblem? (.mapping tag [] merging m)).or
      (merging.problem.or (entryProblem? (!merging.any) [] entries))

/-- The first problem of the items of a sequence. -/
def itemProblem? : List Node → Option Problem
  | [] => none
  | n :: rest => n.deepProblem?.or (itemProblem? rest)

/-- The first problem of the entries of a mapping. -/
def entryProblem? (strict : Bool) (done : List Value) : List (Node × Node) → Option Problem
  | [] => none
  | (k, v) :: rest =>
    k.deepProblem?.or <| k.keyProblem?.or <| v.deepProblem?.or <|
      (repeatProblem? strict done k).or (entryProblem? strict (done ++ [k.value]) rest)

end

/-- The first problem of the entries of a mapping, its values seen from outside. -/
def ownProblem? (strict : Bool) (done : List Value) : List (Node × Node) → Option Problem
  | [] => none
  | (k, v) :: rest =>
    k.deepProblem?.or <| k.keyProblem?.or <| v.surfaceProblem?.or <|
      (repeatProblem? strict done k).or (ownProblem? strict (done ++ [k.value]) rest)

/-- The problems of two neighbours, level by level; the first one's come first. -/
def beside : List (Option Problem) → List (Option Problem) → List (Option Problem)
  | [], l => l
  | l, [] => l
  | a :: as, b :: bs => a.or b :: beside as bs

mutual

/-- The first problem of each level below a node, from the top. -/
def levels : Node → List (Option Problem)
  | .scalar .. => []
  | .sequence _ items _ => items.findSome? surfaceProblem? :: itemLevels items
  | .mapping _ entries merging _ =>
    merging.problem.or (ownProblem? (!merging.any) [] entries) :: valueLevels entries

/-- The first problem of each level below the items of a sequence. -/
def itemLevels : List Node → List (Option Problem)
  | [] => []
  | n :: rest => beside n.levels (itemLevels rest)

/-- The first problem of each level below the values of a mapping. -/
def valueLevels : List (Node × Node) → List (Option Problem)
  | [] => []
  | (_, v) :: rest => beside v.levels (valueLevels rest)

end

/-- The problem of a tree that is reported. -/
def problem? (n : Node) : Option Problem := n.surfaceProblem?.or (n.levels.findSome? id)

end Node

/-- The value of the one document in a text; null if there is none. -/
def read (s : List Char) : Except Problem Value :=
  match Node.ofText? s with
  | .error problem => .error problem
  | .ok none => .ok .null
  | .ok (some root) =>
    match root.problem? with
    | some problem => .error problem
    | none => .ok root.value

end GcodeSender.Yaml
