/-
# `GcodeSender.Options` — the command line

    [file] [-config F] [-controller L] [-port P] [-baud N]
           [-simulate] [-list_ports] [-debug] [-h | --help]

A switch may be cut short as long as one switch only begins that way, and a
value may be joined to its switch by `=`.  Each argument is first sorted on
its own (`Argument.sort`):

    argument                                      sort
    empty, or not beginning with `-`              value
    a switch in full, `-` alone                   switch, value
    a switch in full, `=`, anything               switch with its value
    the beginning of one switch, perhaps `=`      switch, perhaps with its value
    the beginning of several                      the line is refused
    a negative number, anything with a space      value
    anything else that begins with `-`            unknown
    `--`                                          marker: only values follow

Then the arguments are read in order.  A switch that needs a value takes the
next argument, which must be a value; the first value that no switch takes is
the file.  A second one, and an unknown argument, make the line refused when
all of it has been read; asking for help comes first if it stands before the
fault.
-/
import GcodeSender.Decimal.Numeral

namespace GcodeSender

/-- What the command line asks for. -/
structure Options where
  /-- The file to stream; `-` is standard input. -/
  file : String := "-"
  config : String := "config.yaml"
  /-- The label of the controller to be used. -/
  controller : Option String := none
  port : Option String := none
  baud : Option Int := none
  simulate : Bool := false
  listPorts : Bool := false
  debug : Bool := false
  deriving DecidableEq, Repr

namespace Options

/-! ## Switches -/

/-- The switches of the command line. -/
inductive Switch where
  | help
  | config
  | controller
  | port
  | baud
  | simulate
  | listPorts
  | debug
  deriving DecidableEq, Repr

/-- The spellings of the switches. -/
def spellings : List (String × Switch) :=
  [("-h", .help), ("--help", .help), ("-config", .config), ("-controller", .controller),
   ("-port", .port), ("-baud", .baud), ("-simulate", .simulate), ("-list_ports", .listPorts),
   ("-debug", .debug)]

/-- Does the switch need a value? -/
def Switch.needsValue : Switch → Bool
  | .config | .controller | .port | .baud => true
  | _ => false

/-- The longest whole number that is read as a speed, in digits. -/
def speedDigits : Nat := 4300

/-- The options after a switch with its value, `none` if the value does not suit it. -/
def set? (o : Options) (value : String) : Switch → Option Options
  | .config => some { o with config := value }
  | .controller => some { o with controller := some value }
  | .port => some { o with port := some value }
  | .baud =>
    match Numeral.readInt? value.toList with
    | some (n, digits) => if digits ≤ speedDigits then some { o with baud := some n } else none
    | none => none
  | _ => none

/-- The options after a switch that needs no value. -/
def turnOn (o : Options) : Switch → Options
  | .simulate => { o with simulate := true }
  | .listPorts => { o with listPorts := true }
  | .debug => { o with debug := true }
  | _ => o

/-! ## Arguments -/

/-- What is joined to a switch within one argument. -/
inductive Joined where
  | nothing
  /-- A text behind `=`. -/
  | value (text : String)
  /-- A text that follows the short form of a switch directly. -/
  | tail (text : List Char)
  deriving DecidableEq, Repr

/-- The sorts of arguments. -/
inductive Argument where
  | value (text : String)
  | switch (s : Switch) (joined : Joined)
  | unknown
  | marker
  deriving DecidableEq, Repr

/-- Does a text write a negative number: a minus and digits, with at most one point before the
last of them?  A line feed at the end does not count. -/
def isNegativeNumber (s : List Char) : Bool :=
  match s with
  | '-' :: rest =>
    let rest := if rest.getLast? = some '\n' then rest.dropLast else rest
    match rest.dropWhile Text.isDigit with
    | [] => !rest.isEmpty
    | '.' :: fraction => !fraction.isEmpty && fraction.all Text.isDigit
    | _ => false
  | _ => false

/-- A text cut at its first `=`. -/
def cutAtEquals (s : String) : String × Joined :=
  match s.toList.dropWhile (· != '=') with
  | [] => (s, .nothing)
  | _ :: behind => (String.ofList (s.toList.takeWhile (· != '=')), .value (String.ofList behind))

/-- The switch with exactly this spelling. -/
def inFull? (s : String) : Option Switch := (spellings.find? (·.1 == s)).map (·.2)

/-- All readings of an argument as a switch that is cut short, or as a short switch with
something behind it. -/
def readings (s : String) : List (Switch × Joined) :=
  let (head, joined) := cutAtEquals s
  spellings.filterMap fun (spelling, switch) =>
    if spelling.length = 2 && s.startsWith spelling then
      some (switch, .tail (s.toList.drop 2))
    else if spelling.startsWith head then some (switch, joined)
    else none

/-- The sort of an argument, `none` if it could be several switches. -/
def Argument.sort (s : String) : Option Argument :=
  if !s.startsWith "-" then some (.value s)
  else
    let (head, joined) := cutAtEquals s
    match inFull? s, inFull? head with
    | some found, _ => some (.switch found .nothing)
    | none, some found => some (.switch found joined)
    | none, none =>
      if s = "-" then some (.value s)
      else
        match readings s with
        | [(found, joined)] => some (.switch found joined)
        | _ :: _ :: _ => none
        | [] =>
          if isNegativeNumber s.toList || s.contains ' ' then some (.value s) else some .unknown

/-- The sorts of all arguments: behind the marker everything is a value. -/
def Argument.sortAll : List String → Option (List Argument)
  | [] => some []
  | s :: rest =>
    if s = "--" then some (.marker :: rest.map .value)
    else
      match Argument.sort s, Argument.sortAll rest with
      | some a, some l => some (a :: l)
      | _, _ => none

/-! ## Reading -/

/-- What a command line comes to. -/
inductive Reading where
  | run (options : Options)
  | help
  | refused
  deriving DecidableEq, Repr

/-- What has been read of a command line. -/
structure Progress where
  options : Options := {}
  /-- Has the file been named? -/
  fileNamed : Bool := false
  /-- Was the argument before this one the file? -/
  atFile : Bool := false
  /-- Has anything been read that nothing takes? -/
  leftOver : Bool := false
  deriving DecidableEq, Repr

/-- Take up a value that no switch takes. -/
def Progress.value (p : Progress) (text : String) : Progress :=
  if p.fileNamed then { p with leftOver := true, atFile := false }
  else { p with options := { p.options with file := text }, fileNamed := true, atFile := true }

/-- Take up the marker: it stands before the file or right behind it. -/
def Progress.marker (p : Progress) : Progress :=
  if p.atFile || !p.fileNamed then { p with atFile := false }
  else { p with leftOver := true }

/-- Take up options. -/
def Progress.withOptions (p : Progress) (options : Options) : Progress :=
  { p with options, atFile := false }

/-- Is this tail of the short help switch more of the same, up to something that is not a
switch? -/
def isHelpTail (tail : List Char) : Bool :=
  match tail.dropWhile (· == 'h') with
  | '-' :: _ | '=' :: _ => false
  | _ => true

/-- Read the sorted arguments. -/
def readSorted : List Argument → Progress → Reading
  | [], p => if p.leftOver then .refused else .run p.options
  | .value text :: rest, p => readSorted rest (p.value text)
  | .marker :: rest, p => readSorted rest p.marker
  | .unknown :: rest, p => readSorted rest { p with leftOver := true, atFile := false }
  | .switch .help .nothing :: _, _ => .help
  | .switch .help (.tail tail) :: _, _ => if isHelpTail tail then .help else .refused
  | .switch s (.value text) :: rest, p =>
    match p.options.set? text s with
    | some options => readSorted rest (p.withOptions options)
    | none => .refused
  | .switch _ (.tail _) :: _, _ => .refused
  | .switch s .nothing :: rest, p =>
    if s.needsValue then
      match rest with
      | .value text :: rest =>
        match p.options.set? text s with
        | some options => readSorted rest (p.withOptions options)
        | none => .refused
      | _ => .refused
    else readSorted rest (p.withOptions (p.options.turnOn s))

/-- Read a command line. -/
def read (arguments : List String) : Reading :=
  match Argument.sortAll arguments with
  | none => .refused
  | some sorted => readSorted sorted {}

end Options

end GcodeSender
