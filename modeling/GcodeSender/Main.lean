/-
# `GcodeSender.Main` — the program on a real port

The outer layer.  It reads the files, opens the device, and turns the loops of
`Session` by a real clock; what is decided is decided there.

A task of its own reads the device and collects the chunks that come in.
Before each pass they are handed to the port, and after it what the pass wrote
goes to the device.  The speed of the device is set outside of the program.
-/
import GcodeSender.Options
import GcodeSender.Program

namespace GcodeSender.CommandLine

open Link

/-- What `-h` shows. -/
def usage : String :=
  "usage: [-h] [-config F] [-controller L] [-port P] [-baud N] [-simulate] [-list_ports] " ++
    "[-debug] [file]"

/-! ## Files and devices -/

/-- The content of a file, if it can be read. -/
def content? (path : String) : IO (Option String) := do
  try
    return some (← IO.FS.readFile path)
  catch _ => return none

/-- A number in a file of the system, in hexadecimal digits. -/
def systemNumber? (path : String) : IO (Option Nat) := do
  return (← content? path).bind fun text => Yaml.hexNumber? (text.trimAscii.toString.toList)

/-- The listing of one device, where `up` leads from the device to its USB device. -/
def listing? (name up : String) : IO (Option Listing) := do
  let folder := "/sys/class/tty/" ++ name ++ "/device/" ++ up ++ "/"
  let vendor ← systemNumber? (folder ++ "idVendor")
  let product ← systemNumber? (folder ++ "idProduct")
  if vendor.isNone && product.isNone then return none
  return some { device := some ("/dev/" ++ name), vendor, product }

/-- The ports to be offered. -/
def ports : IO (List String) := do
  let mut listings : List Listing := []
  for n in List.range 8 do
    for (kind, up) in [("ttyUSB", "../.."), ("ttyACM", "..")] do
      if let some l ← listing? (kind ++ toString n) up then listings := listings ++ [l]
  let simulated ←
    try
      let _ ← IO.FS.Handle.mk simulatedMachine .read
      pure (some simulatedMachine)
    catch _ => pure none
  return offered listings simulated

/-- Collect what a device sends. -/
partial def collect (device : IO.FS.Handle) (chunks : IO.Ref (List Bytes)) : IO Unit := do
  let chunk ← device.read 256
  if !chunk.isEmpty then chunks.modify (· ++ [chunk.toList])
  collect device chunks

/-! ## The session -/

/-- A session at work on a device. -/
structure Work where
  device : IO.FS.Handle
  chunks : IO.Ref (List Bytes)
  /-- The least level that is logged. -/
  debug : Bool

/-- The seconds on the clock. -/
def clock : IO Float := do return (← IO.monoMsNow).toFloat / 1000

/-- Write the log of a step to standard error, and start a new one. -/
def report (debug : Bool) (s : Session Float) : IO (Session Float) := do
  for e in s.controller.connection.journal.entries do
    if debug || e.level ≠ .debug then
      IO.eprintln (e.level.name ++ ": " ++ e.message.wording Decimal.text)
  return s.mapController (·.mapConnection fun n => { n with journal := [] })

/-- Show the lines of a step, and go on with the state it reached. -/
def settle {ρ : Type} (w : Work) (a : Step (Session Float) ρ) : IO (Session Float × ρ) := do
  let s ← report w.debug a.state
  for line in s.shown do IO.println line
  let s := { s with shown := [] }
  match a.result with
  | .ok r => return (s, r)
  | .error fault => throw (IO.userError fault.message)

/-- Serve the port once. -/
def serve (w : Work) (s : Session Float) : IO (Session Float) := do
  let chunks ← w.chunks.modifyGet fun chunks => (chunks, [])
  let s := s.mapController fun c => { c with port := c.port.map (·.receive chunks) }
  let a := (s.controller.pass (← clock)).mapState fun c => s.mapController fun _ => c
  let (s, _) ← settle w a
  for data in (s.controller.port.map (·.written)).getD [] do
    w.device.write ⟨data.toArray⟩
  w.device.flush
  return s.mapController fun c =>
    { c with port := c.port.map fun p => { p with written := [] } }

/-- Connect.  Is the session connected then? -/
partial def connect (w : Work) (started : Float) (s : Session Float) :
    IO (Session Float × Bool) := do
  let (s, attempt) ← settle w (s.attempt started (← clock))
  match attempt with
  | .connected => return (s, true)
  | .givenUp => return (s, false)
  | .waiting =>
    IO.sleep 20
    connect w started s

/-- Stream until the work is done or the connection is lost. -/
partial def stream (w : Work) (s : Session Float) : IO (Session Float) := do
  if s.status ≠ .connected then return s
  let s ← serve w s
  let (s, finished) ← settle w (s.turn Program.coordinate (← clock))
  if finished then return s
  IO.sleep 20
  stream w s

/-- The whole session of a controller. -/
def run (o : Options) (controller : Controller Float) (input : String) : IO UInt32 := do
  match Program.source o.file input (← content? o.file) with
  | .error b => throw (IO.userError (b.message o.config))
  | .ok lines =>
    let opened ← (IO.FS.Handle.mk controller.portName .readWrite).toBaseIO
    match opened with
    | .error e =>
      IO.eprintln ("ERROR: Could not open " ++ controller.portName ++ ": " ++ toString e)
      IO.println ("Could not connect to " ++ controller.portName)
      return 1
    | .ok device =>
      let w : Work := { device, chunks := ← IO.mkRef [], debug := o.debug }
      let _ ← IO.asTask (collect device w.chunks) .dedicated
      let (s, connected) ←
        connect w (← clock) ({ station := { controller } : Session Float }).begin
      if !connected then
        IO.println ("Could not connect to " ++ controller.portName)
        return 1
      let s ← stream w (s.sendAll lines)
      let (s, _) ← settle w (s.close (← clock))
      let _ ← settle w (.done ((s.showState Program.coordinate).say "done") ())
      return 0

/-- The program for options that have been read. -/
def start (o : Options) : IO UInt32 := do
  match (Program.start o (← content? o.config) (← ports) : Program.Beginning Float) with
  | .ended code lines =>
    for line in lines do IO.println line
    return code.toUInt32
  | .broken b => throw (IO.userError (b.message o.config))
  | .ready controller =>
    let input ← if o.file = "-" then (← IO.getStdin).readToEnd else pure ""
    run o controller input

end GcodeSender.CommandLine

open GcodeSender in
/-- Stream G-code to a machine, and follow its state. -/
def main (arguments : List String) : IO UInt32 := do
  match Options.read arguments with
  | .refused =>
    IO.eprintln CommandLine.usage
    return 2
  | .help =>
    IO.println CommandLine.usage
    return 0
  | .run o => CommandLine.start o
