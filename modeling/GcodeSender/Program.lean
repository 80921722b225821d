/-
# `GcodeSender.Program` — from the command line to a session, and its end

    asked for                     what is done                      exit code
    a list of ports               they are shown                    0
    a configuration that is at
    fault                         the fault, between two rules      1
    no port, here or there        a hint                            1
    anything else                 a session                         of the session

    the session                   what is shown last                exit code
    does not connect              that it did not                   1
    ends, or is interrupted       the state, and `done`             0

What is no mistake of the user ends the program without a word of its own
(`Breakdown`); the port is given back before.
-/
import GcodeSender.Config.Load
import GcodeSender.Config.Setup
import GcodeSender.Decimal.Fixed
import GcodeSender.Session

namespace GcodeSender

open Link

/-- What ends the program without a word of its own. -/
inductive Breakdown where
  | refusal (refusal : Config.Refusal)
  | problem (problem : Config.Problem)
  /-- The port is named by a list or a mapping. -/
  | badPort
  /-- There is no file of this name. -/
  | noFile (path : String)
  | fault (fault : Fault)
  deriving DecidableEq, Repr

/-- The text of a breakdown. -/
def Breakdown.message (configPath : String) : Breakdown → String
  | .refusal r => r.message configPath
  | .problem p => p.message
  | .badPort => ""
  | .noFile path => "[Errno 2] No such file or directory: " ++ Text.quoted path.toList
  | .fault f => f.message

namespace Program

/-- A coordinate as it is shown to the user: with three places. -/
def coordinate (x : Float) : String := Decimal.fixed 3 x

/-! ## The beginning -/

/-- What a command line leads to. -/
inductive Beginning (α : Type) where
  | ended (code : Nat) (lines : List String)
  | broken (breakdown : Breakdown)
  | ready (controller : Controller α)

variable {α : Type} [Scalar α]

/-- The rule above and below a reported fault. -/
def rule : String := "--------"

/-- The end of a program whose configuration is at fault. -/
def reported (message : String) : Beginning α := .ended 1 [rule, message, rule]

/-- The controller that a profile describes, or why there is none. -/
def equip (p : Config.Profile α) : Beginning α :=
  match p.value? "serial_port" with
  | none => .broken (.problem .trackerReplaced)
  | some port =>
    if !port.isTruthy then .ended 1 ["No serial port configured. Try -list_ports."]
    else if !port.isAtomic then .broken .badPort
    else
      match p.obstacle? with
      | some problem => .broken (.problem problem)
      | none => .ready p.toController

/-- Choose the controller; `config` is the text of the configuration file, if there is one. -/
def choose (o : Options) (config : Option String) : Beginning α :=
  match (Config.load o.config config : Except Config.Refusal (Config.Loaded α)) with
  | .error r =>
    if r.isReported then reported (r.message o.config) else .broken (.refusal r)
  | .ok loaded =>
    let picked : Except Config.Problem (Config.Profile α) :=
      (Config.setup loaded.entries).bind (Config.pick o)
    match picked with
    | .error p => if p.isReported then reported p.message else .broken (.problem p)
    | .ok profile => equip profile

/-- The beginning of a program; `ports` are those to be offered. -/
def start (o : Options) (config : Option String) (ports : List String) : Beginning α :=
  if o.listPorts then .ended 0 ports else choose o config

/-! ## The lines of a program -/

/-- The lines of a text, each with the line feed that ends it. -/
def linesOf : List Char → List (List Char)
  | [] => []
  | c :: rest =>
    if c == '\n' then [c] :: linesOf rest
    else
      match linesOf rest with
      | [] => [[c]]
      | line :: more => (c :: line) :: more

/-- A text in which every line end is a line feed. -/
def unifyLineEnds : List Char → List Char
  | '\r' :: '\n' :: rest => '\n' :: unifyLineEnds rest
  | '\r' :: rest => '\n' :: unifyLineEnds rest
  | c :: rest => c :: unifyLineEnds rest
  | [] => []

/-- The commands in a text, one per line. -/
def commands (text : List Char) : List Bytes :=
  (linesOf text).map fun line => Bytes.ofText (String.ofList line)

/-- The commands to be streamed.  Standard input is taken as it is, in a file every kind of line
end counts. -/
def source (file : String) (input : String) (content : Option String) :
    Except Breakdown (List Bytes) :=
  if file = "-" then .ok (commands input.toList)
  else
    match content with
    | some text => .ok (commands (unifyLineEnds text.toList))
    | none => .error (.noFile file)

end Program

end GcodeSender
