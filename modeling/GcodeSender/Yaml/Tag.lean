/-
# `GcodeSender.Yaml.Tag` — what kind of value a scalar is

A scalar that is written plainly, and without a tag, is what it looks like.
The forms are tried in this order:

    truth    true True TRUE false False FALSE
    float    digits with a point or an exponent; .inf, .nan with three
             spellings each; a sign
    int      digits; 0b binary, 0o octal, 0x hexadecimal; a sign
    merge    <<
    null     ~ null Null NULL and nothing at all
    value    =
    text     anything else

Digits may be parted by underscores behind the first one.  Leading zeros mean
nothing: 010 is ten.
-/
import GcodeSender.Yaml.Source
import GcodeSender.Decimal.Numeral

namespace GcodeSender.Yaml

/-- The kinds of values. -/
inductive Tag where
  | null
  | bool
  | int
  | float
  | str
  | sequence
  | mapping
  | merge
  | value
  | other (name : String)
  deriving DecidableEq, Repr, Inhabited

namespace Tag

/-- What the names of the common kinds begin with. -/
def commonNames : String := "tag:yaml.org,2002:"

/-- The kind with a name. -/
def ofName (name : String) : Tag :=
  if name = commonNames ++ "null" then .null
  else if name = commonNames ++ "bool" then .bool
  else if name = commonNames ++ "int" then .int
  else if name = commonNames ++ "float" then .float
  else if name = commonNames ++ "str" then .str
  else if name = commonNames ++ "seq" then .sequence
  else if name = commonNames ++ "map" then .mapping
  else .other name

/-! ## The forms of plain scalars -/

/-- A sign at the head of a text is passed over. -/
def unsigned : List Char → List Char
  | '+' :: rest | '-' :: rest => rest
  | s => s

def isAsciiDigit (c : Char) : Bool := c.isDigit

/-- A digit or an underscore. -/
def isDigitOrGap (c : Char) : Bool := c.isDigit || c == '_'

/-- Is the text an exponent: `e`, perhaps a sign, and digits?  If `strict`, a sign must be there. -/
def isExponent (strict : Bool) : List Char → Bool
  | e :: rest =>
    let digits := unsigned rest
    (e == 'e' || e == 'E') && !digits.isEmpty && digits.all isAsciiDigit &&
      (!strict || digits.length < rest.length)
  | [] => false

/-- Is the text the digits of a float, without its sign? -/
def isFloatBody (s : List Char) : Bool :=
  let behind := s.dropWhile isDigitOrGap
  if (s.headD ' ').isDigit then
    match behind with
    | '.' :: fraction =>
      let last := fraction.dropWhile isDigitOrGap
      last.isEmpty || isExponent false last
    | _ => isExponent false behind
  else
    match s with
    | '.' :: fraction =>
      let last := fraction.dropWhile isDigitOrGap
      (fraction.headD ' ' |> isDigitOrGap) && (last.isEmpty || isExponent true last)
    | _ => false

/-- Does the text look like a float? -/
def isFloat (s : List Char) : Bool :=
  isFloatBody (unsigned s) ||
    [".inf", ".Inf", ".INF"].contains (String.ofList (unsigned s)) ||
    [".nan", ".NaN", ".NAN"].contains (String.ofList s)

/-- Does the text look like a whole number? -/
def isInt (s : List Char) : Bool :=
  let body := unsigned s
  let some' := fun (p : Char → Bool) (ds : List Char) => !ds.isEmpty && ds.all p
  let octal := fun (c : Char) => ('0' ≤ c && c ≤ '7') || c == '_'
  let hexadecimal := fun (c : Char) =>
    isDigitOrGap c || ('a' ≤ c && c ≤ 'f') || ('A' ≤ c && c ≤ 'F')
  (s.headD ' ' != '_' && some' isDigitOrGap body) ||
    match body with
    | '0' :: 'b' :: ds => some' (fun c => c == '0' || c == '1' || c == '_') ds
    | '0' :: 'o' :: ds => some' octal ds
    | '0' :: 'x' :: ds => some' hexadecimal ds
    | _ => false

/-- The kind of a plain scalar. -/
def ofPlain (text : String) : Tag :=
  if ["true", "True", "TRUE", "false", "False", "FALSE"].contains text then .bool
  else if isFloat text.toList then .float
  else if isInt text.toList then .int
  else if text = "<<" then .merge
  else if ["~", "null", "Null", "NULL", ""].contains text then .null
  else if text = "=" then .value
  else .str

end Tag

/-! ## The values of scalars -/

/-- A truth value; the words of older documents count where a tag demands a truth value. -/
def truthOf (text : String) : Except Problem Bool :=
  let word := text.toLower
  if ["true", "yes", "y", "on"].contains word then .ok true
  else if ["false", "no", "n", "off"].contains word then .ok false
  else .error (.badTruth text)

/-- The number that digits write in a base, `none` if one is no digit of the base. -/
def numberInBase? (base : Nat) (ds : List Char) : Option Nat :=
  let value? := fun (c : Char) =>
    let n :=
      if c.isDigit then c.toNat - 0x30
      else if 'a' ≤ c && c ≤ 'f' then c.toNat - 0x57
      else if 'A' ≤ c && c ≤ 'F' then c.toNat - 0x37
      else base
    if n < base then some n else none
  if ds.isEmpty then none
  else ds.foldl (fun n d => n.bind fun n => (value? d).map (base * n + ·)) (some 0)

/-- A whole number. -/
def intOf (text : String) : Except Problem Int :=
  let s := text.toList.filter (· != '_')
  let negative := s.head? == some '-'
  let body := Tag.unsigned s
  let (base, ds) :=
    match body with
    | '0' :: 'b' :: ds => (2, ds)
    | '0' :: 'o' :: ds => (8, ds)
    | '0' :: 'x' :: ds => (16, ds)
    | ds => (10, ds)
  match numberInBase? base ds with
  | some n => .ok (if negative then -n else n)
  | none =>
    .error (.badNumber
      ("invalid literal for int() with base " ++ toString base ++ ": " ++ Text.quoted ds))

/-- A float. -/
def floatOf (text : String) : Except Problem Float :=
  let s := (text.toList.filter (· != '_')).map Char.toLower
  let negative := s.head? == some '-'
  let body := Tag.unsigned s
  let signed := fun (x : Float) => if negative then -x else x
  if body = ".inf".toList then .ok (signed (Numeral.infinite false).toFloat)
  else if body = ".nan".toList then .ok Numeral.undefined.toFloat
  else
    match Numeral.read? body with
    | some n => .ok (signed n.toFloat)
    | none => .error (.badNumber ("could not convert string to float: " ++ Text.quoted body))

end GcodeSender.Yaml
