/-
# `GcodeSender.Config.Setup` — the controllers of a configuration

    controllers:
      <label>:
        type: Grbl1p1Controller
        <property>: <value>

Every section below `controllers` becomes a profile, in the order of the
document.  A property is assigned if the controller has it; one that it does not
have is reported in the log and otherwise passed over.

    property                         what is assigned
    motion_simulation                whether the value counts as true
    tracker_lock, pending_commands,
    __weakref__                      nothing: the setup fails
    __class__                        nothing: the setup fails
    __dict__                         a mapping takes the place of all attributes
                                     of its own, anything else fails
    anything else a controller has   the value
    anything else                    nothing; a warning

Some of what a controller has is worked out when it is asked for.

    property             is worked out from                   is there
    motion_simulation    _tracker_lock, tracker               as long as both are
    tracker_lock         _tracker_lock                        as long as that is
    pending_commands     _command_streaming, _held_back       as long as both are

So a value that takes the place of one of these is felt later: a lock that was
replaced makes asking for `motion_simulation` a failure, and so does a value that
has no length in the place of `_held_back` for `pending_commands`.
-/
import GcodeSender.Config.Value
import GcodeSender.Link.Lifecycle
import GcodeSender.Options

namespace GcodeSender.Config

open Link

/-! ## Problems -/

/-- Why a configuration cannot be used. -/
inductive Problem where
  /-- A section names a type that does not exist. -/
  | unknownType (shown : String)
  /-- The command line names a label that does not exist. -/
  | unknownLabel (label : String)
  /-- The controllers, or the section of one, are no mapping. -/
  | noMapping
  /-- A section's type is a list or a mapping. -/
  | typeNotAtomic
  /-- A property's name is no text. -/
  | nameNotText
  /-- A property that can only be read. -/
  | readOnly (name : String)
  /-- A value that does not do where it stands: a type or a label that is too long to be written, or
  what an attribute cannot be set to or worked out from. -/
  | unsuitable (name : String)
  /-- The lock of the tracker was replaced by a value. -/
  | lockReplaced
  /-- The tracker was replaced by a value, or an attribute that is asked for is not there. -/
  | trackerReplaced
  deriving DecidableEq, Repr

/-- The text of a problem; most that are not reported to the user have none. -/
def Problem.message : Problem → String
  | .unknownType shown =>
    "Controller type '" ++ shown ++ "' specified in config file does not exist."
  | .unknownLabel label => "No controller labelled '" ++ label ++ "' in config."
  | .unsuitable "type" | .unsuitable "label" =>
    "Exceeds the limit (" ++ toString Value.digitLimit ++ " digits) for integer string conversion; " ++
      "use sys.set_int_max_str_digits() to increase the limit"
  | _ => ""

/-- Is the problem reported to the user as a mistake in the configuration? -/
def Problem.isReported : Problem → Bool
  | .unknownType _ | .unknownLabel _ => true
  | _ => false

/-! ## Attributes -/

/-- The attributes that a controller shares with all others: what it can do, and what every object
has. -/
def sharedNames : List String :=
  ["send", "parse_incoming", "_write_immediate", "_next_streaming_task", "_write_streaming",
   "_periodic_io", "jog", "jog_absolute", "cancel_jog", "toggle_motion_simulation",
   "early_update", "on_connected", "_fail", "connect", "disconnect", "on_disconnected",
   "_serial_write", "_serial_read", "_serial_port_in_use", "data_to_sync", "key_gen", "sync",
   "publish_from_here", "set_desired_connection_status", "set_connection_status",
   "__annotations__", "__delattr__", "__dir__", "__doc__", "__eq__", "__format__", "__ge__",
   "__getattribute__", "__getstate__", "__gt__", "__hash__", "__init__", "__init_subclass__",
   "__le__", "__lt__", "__module__", "__ne__", "__new__", "__reduce__", "__reduce_ex__",
   "__repr__", "__setattr__", "__sizeof__", "__str__", "__subclasshook__"]

/-- The attributes of its own that a controller works with. -/
def workingNames : List String :=
  ["on_update_callback", "connection_status", "desired_connection_status", "_serial",
   "_serial_thread", "_time", "tracker", "_tracker_lock", "_command_immediate",
   "_command_streaming", "_held_back", "_received_data", "_partial_read", "_last_write"]

/-- What an attribute holds. -/
inductive Content where
  /-- What the controller was built with. -/
  | built
  | given (value : Value)

/-- The kinds of attributes. -/
inductive Attribute where
  /-- It is set to whether a value counts as true. -/
  | simulation
  /-- It can only be read, and is the attribute `_tracker_lock`. -/
  | lock
  /-- It can only be read, and is worked out from what waits to be written. -/
  | pending
  /-- It can only be read, and is always there. -/
  | readOnly
  /-- It is always there, and no value of a configuration suits it. -/
  | rigid
  /-- It is all attributes of the controller's own. -/
  | whole
  /-- It holds what it is given. -/
  | plain
  deriving DecidableEq, Repr

/-- The kind of the attribute of a name. -/
def Attribute.ofName : String → Attribute
  | "motion_simulation" => .simulation
  | "tracker_lock" => .lock
  | "pending_commands" => .pending
  | "__weakref__" => .readOnly
  | "__class__" => .rigid
  | "__dict__" => .whole
  | _ => .plain

/-! ## Profiles -/

/-- A configured controller: the controller itself, and the attributes of its own, of which the first
of a name counts. -/
structure Profile (α : Type) where
  controller : Controller α
  own : List (String × Content)

namespace Profile

variable {α : Type}

/-- What an attribute of its own holds, if there is one. -/
def content? (p : Profile α) (name : String) : Option Content := p.own.lookup name

/-- The value that an attribute was given. -/
def value? (p : Profile α) (name : String) : Option Value :=
  match p.content? name with
  | some (.given value) => some value
  | _ => none

/-- Give an attribute of its own a value. -/
def put (p : Profile α) (name : String) (value : Value) : Profile α :=
  { p with own := (name, .given value) :: p.own }

def label (p : Profile α) : Value := (p.value? "label").getD .null

def port (p : Profile α) : Value := (p.value? "serial_port").getD .null

def baud (p : Profile α) : Value := (p.value? "serial_baud").getD .null

def jogFeed (p : Profile α) : Value := (p.value? "jog_feed_rate").getD .null

def testing (p : Profile α) : Value := (p.value? "testing").getD .null

def ready (p : Profile α) : Value := (p.value? "ready_for_data").getD .null

/-- Why the tracker cannot be reached, if it cannot. -/
def obstacle? (p : Profile α) : Option Problem :=
  match p.content? "_tracker_lock", p.content? "tracker" with
  | some .built, some .built => none
  | some (.given _), _ => some .lockReplaced
  | _, _ => some .trackerReplaced

variable [Scalar α]

/-- The attributes of its own that a controller is built with. -/
def builtWith (label : Value) : List (String × Content) :=
  [("label", .given label), ("serial_port", .given (.str "")), ("serial_baud", .given (.int 115200)),
   ("jog_feed_rate", .given (.int 300)), ("testing", .given (.bool false)),
   ("ready_for_data", .given (.bool false))] ++ workingNames.map fun name => (name, .built)

/-- The profile of a controller that nothing is configured for. -/
def fresh (label : Value) : Profile α :=
  { controller := .fresh label.keyText false, own := builtWith label }

/-- Is motion simulated? -/
def simulates (p : Profile α) : Except Problem Bool :=
  match p.obstacle? with
  | some problem => .error problem
  | none => .ok p.controller.simulates

/-- Set whether motion is simulated. -/
def setSimulates (p : Profile α) (enabled : Bool) : Except Problem (Profile α) :=
  match p.obstacle? with
  | some problem => .error problem
  | none => .ok { p with controller := p.controller.setSimulates enabled }

/-- Does the controller have an attribute of this name?  Working it out can fail. -/
def has (p : Profile α) (name : String) : Except Problem Bool :=
  match Attribute.ofName name with
  | .simulation =>
    match p.obstacle? with
    | some .lockReplaced => .error .lockReplaced
    | some _ => .ok false
    | none => .ok true
  | .lock => .ok (p.content? "_tracker_lock").isSome
  | .pending =>
    match p.content? "_command_streaming", p.content? "_held_back" with
    | some .built, some .built => .ok true
    | some .built, some (.given value) => if value.isSized then .ok true else .error (.unsuitable name)
    | _, _ => .ok false
  | .readOnly | .rigid | .whole => .ok true
  | .plain => .ok (sharedNames.contains name || (p.content? name).isSome)

/-- Set an attribute that the controller has. -/
def set (p : Profile α) (name : String) (value : Value) : Except Problem (Profile α) :=
  match Attribute.ofName name with
  | .simulation => p.setSimulates value.isTruthy
  | .lock | .pending | .readOnly => .error (.readOnly name)
  | .rigid => .error (.unsuitable name)
  | .whole =>
    match value with
    | .map entries =>
      .ok { p with own := entries.filterMap fun (k, v) => k.asText?.map fun name => (name, .given v) }
    | _ => .error (.unsuitable name)
  | .plain => .ok (p.put name value)

/-- The warning about a property that the controller does not have. -/
def warning (label : Value) (name : String) (value : Value) : String :=
  "Unrecognised config parameter [controller, property, value]: " ++ label.keyText ++ ", " ++ name ++
    ", " ++ value.text

/-- Assign one property of the section with this label. -/
def assign (label : Value) (name : String) (value : Value) (p : Profile α) :
    Except Problem (Profile α) :=
  match p.has name with
  | .error problem => .error problem
  | .ok true => p.set name value
  | .ok false =>
    .ok { p with controller := p.controller.logText .warning (warning label name value) }

/-- Assign the properties of a section, all but its type. -/
def assignAll (label : Value) : List (Value × Value) → Profile α → Except Problem (Profile α)
  | [], p => .ok p
  | (.str name, value) :: rest, p =>
    if name = "type" then assignAll label rest p
    else
      match p.assign label name value with
      | .ok p => assignAll label rest p
      | .error problem => .error problem
  | _ :: _, _ => .error .nameNotText

/-- The controller, with the properties that it is run by. -/
def toController (p : Profile α) : Controller α :=
  { p.controller with portName := p.port.text, baud := p.baud.text }

end Profile

/-! ## The setup -/

variable {α : Type} [Scalar α]

/-- The one type of controller there is. -/
def controllerType : String := "Grbl1p1Controller"

/-- The profile of one section. -/
def setupOne (label : Value) : Value → Except Problem (Profile α)
  | .map entries =>
    let type := (Value.get? entries "type").getD .null
    if !type.isAtomic then .error .typeNotAtomic
    else if type.asText? = some controllerType then
      if label.isWritable then (Profile.fresh label).assignAll label entries
      else .error (.unsuitable "label")
    else if type.isWritable then .error (.unknownType type.text)
    else .error (.unsuitable "type")
  | _ => .error .noMapping

/-- The profiles of all sections. -/
def setupSections : List (Value × Value) → Except Problem (List (Value × Profile α))
  | [] => .ok []
  | (label, section_) :: rest =>
    match setupOne label section_ with
    | .error problem => .error problem
    | .ok profile => (setupSections rest).map ((label, profile) :: ·)

/-- The profiles of a configuration, each under the label of its section. -/
def setup (entries : List (Value × Value)) : Except Problem (List (Value × Profile α)) :=
  let controllers := (Value.get? entries "controllers").getD .null
  if !controllers.isTruthy then .ok []
  else
    match controllers with
    | .map sections => setupSections sections
    | _ => .error .noMapping

/-! ## The choice -/

/-- Which profile the command line chooses: the one it names, else the first, else a new one. -/
def choose (controller : Option String) (profiles : List (Value × Profile α)) :
    Except Problem (Profile α) :=
  match controller.filter (!·.isEmpty), profiles with
  | some label, _ =>
    match profiles.find? fun (key, _) => key.asText? = some label with
    | some (_, profile) => .ok profile
    | none => .error (.unknownLabel label)
  | none, (_, profile) :: _ => .ok profile
  | none, [] => .ok (.fresh (.str "grbl1.1"))

/-- The chosen profile, with what the command line puts in place of the configuration. -/
def pick (options : Options) (profiles : List (Value × Profile α)) :
    Except Problem (Profile α) :=
  match choose options.controller profiles with
  | .error problem => .error problem
  | .ok profile =>
    let port := (options.port.filter (!·.isEmpty)).map Value.str
    let baud := (options.baud.filter (· != 0)).map Value.int
    let profile := (port.map (profile.put "serial_port")).getD profile
    let profile := (baud.map (profile.put "serial_baud")).getD profile
    if options.simulate then profile.setSimulates true else .ok profile

end GcodeSender.Config
