/-
# `GcodeSender.Proofs.Link.Holes` — when a program reaches the machine with a hole

A connection goes up and down, its port fails and works again, and in between
lines are sent and written.  Of every line sent it is known what has become of
it (`Fate`), and the lines written are those with the fate `written`, in the
order of sending.

    hazard     what happens                                  the loss
    a write    the port does not take what is written        the line that is next
    a start    a conversation begins with a line held back   that line

`Turn` is anything that can happen around a controller, `Course` what was sent
and written in a run of turns.  A turn loses one line at most, and only if it is
hazardous (`Turn.fares`); so a run loses at most as many lines as it has hazards,
and a run without hazards has no hole: what is written are the short ones of
the lines that left the backlog, in order.
-/
import GcodeSender.Proofs.Link.Fates

namespace GcodeSender

open Scalar Gcode

variable {α : Type} [Scalar α]

namespace Link

open Controller

/-! ## The event loop -/

namespace Station

omit [Scalar α] in
/-- Does a conversation begin with the next step of the event loop? -/
def begins (s : Station α) : Bool :=
  decide (s.controller.status ≠ s.controller.desired) &&
    decide (s.controller.status = .connecting) && s.controller.opening

variable {s : Station α}

omit [Scalar α] in
theorem connect_fares (h : s.controller.Orderly) (carried : s.controller.outgoing = []) :
    Fares s.controller [] [] [] s.connect.controller := by
  rw [connect]
  dsimp only
  split
  · exact .refl h
  · exact .refl h
  · exact .refl h
  · split
    · exact .of_same h rfl rfl rfl rfl
    · split
      · exact .of_same h rfl rfl rfl rfl
      · exact .of_same h rfl rfl rfl carried.symm

omit [Scalar α] in
theorem confirmClosed_fares (h : s.controller.Orderly) (carried : s.controller.outgoing = []) :
    Fares s.controller [] [] [] s.confirmClosed.controller := by
  rw [confirmClosed]
  dsimp only
  split
  · exact .of_same h rfl rfl rfl rfl
  · split
    · exact .refl h
    · exact .of_same h rfl rfl rfl carried.symm

/-- Of the steps towards the status that is asked for, only the beginning of a conversation concerns
lines. -/
theorem approach_fares (h : s.controller.Orderly) (carried : s.controller.outgoing = []) :
    ∃ gone, Fares s.controller (if s.begins then [greeting] else []) [] gone s.approach.controller ∧
      losses gone ≤ (s.begins && s.controller.heldBack.isSome).toNat := by
  by_cases same : s.controller.status = s.controller.desired
  · have stays : s.approach = s := by simp only [approach, if_pos same]
    have no : s.begins = false := by simp [begins, same]
    rw [stays, no]
    exact ⟨[], .refl h, Nat.zero_le _⟩
  · by_cases connecting : s.controller.status = .connecting
    · have confirms : s.approach = s.mapController (·.confirmOpen) := by
        simp only [approach, if_neg same, if_pos connecting]
      have begins : s.begins = s.controller.opening := by
        rw [Station.begins, decide_eq_true same, decide_eq_true connecting]
        rfl
      rw [confirms, begins]
      refine ⟨_, confirmOpen_fares h, ?_⟩
      cases s.controller.opening with
      | true => simp [losses_forgotten]
      | false => exact Nat.le_refl 0
    · have no : s.begins = false := by simp [begins, connecting]
      simp only [no, Bool.false_eq_true, if_false, approach, if_neg same, if_neg connecting]
      split
      · exact ⟨[], confirmClosed_fares h carried, Nat.zero_le _⟩
      · split
        · exact ⟨[], .of_same h rfl rfl rfl rfl, Nat.zero_le _⟩
        · split
          · exact ⟨[], connect_fares h carried, Nat.zero_le _⟩
          · obtain ⟨gone, fares, nothing⟩ :=
              ((disconnect_winds s.controller).runs carried).fares h
            exact ⟨gone, fares, nothing ▸ Nat.zero_le _⟩

/-- A step of the event loop. -/
theorem update_fares (h : s.controller.Orderly) (carried : s.controller.outgoing = []) (now : α) :
    ∃ gone, Fares s.controller (if s.begins then [greeting] else []) [] gone
        (s.update now).state.controller ∧
      losses gone ≤ (s.begins && s.controller.heldBack.isSome).toNat := by
  obtain ⟨gone, approached, within⟩ := approach_fares h carried
  have played : Runs s.approach.controller [] [] (s.update now).state.controller :=
    Does.takeUp.runs.trans (Does.play now).runs
  obtain ⟨gone', fares, nothing⟩ := played.fares approached.orderly
  refine ⟨gone ++ gone', by simpa using approached.trans fares, ?_⟩
  rw [losses_append, nothing]
  exact within

end Station

/-! ## Turns -/

/-- What can happen around a controller, whatever its connection is like. -/
inductive Turn (α : Type) where
  | act (action : Action α)
  | confirmOpen
  | confirmClosed
  | connect
  | disconnect
  | setStatus (status : Status)
  | setDesired (status : Status)
  | setSimulates (enabled : Bool)
  | setJogFeed (feed : Amount)
  /-- The port changes: whether it is open, whether it closes at once, how writing fails. -/
  | port (isOpen closes : Bool) (writeFault : Option String)
  /-- The ports of the host change. -/
  | host (ports : Ports)

namespace Turn

/-- What a turn comes to. -/
def apply : Turn α → Station α → Station α
  | .act action, s => action.apply s
  | .confirmOpen, s => s.mapController (·.confirmOpen)
  | .confirmClosed, s => s.confirmClosed
  | .connect, s => s.connect
  | .disconnect, s => s.mapController (·.disconnect)
  | .setStatus status, s => s.mapController (·.setStatus status)
  | .setDesired status, s => s.mapController (·.setDesired status)
  | .setSimulates enabled, s => s.mapController (·.setSimulates enabled)
  | .setJogFeed feed, s => s.mapController ({ · with jogFeed := feed })
  | .port isOpen closes writeFault, s =>
    s.mapController fun c => { c with port := c.port.map ({ · with isOpen, closes, writeFault }) }
  | .host ports, s => { s with ports }

/-- Does a conversation begin? -/
def begins (s : Station α) : Turn α → Bool
  | .confirmOpen => s.controller.opening
  | .act (.call (.update _)) => s.begins
  | _ => false

/-- The lines that a turn asks for. -/
def lines (s : Station α) : Turn α → List Bytes
  | .act action => action.lines s.controller.jogFeed
  | _ => []

/-- The lines that a turn sends: those it asks for, and the greeting of a conversation. -/
def sends (s : Station α) (turn : Turn α) : List Bytes :=
  turn.lines s ++ if turn.begins s then [greeting] else []

/-- Can a turn lose a line?  A line may be written and the port does not take it, or a conversation
begins with a line held back. -/
def hazard (s : Station α) : Turn α → Bool
  | .act (.writeStreaming _) => !s.controller.takes
  | .act (.call (.pass _)) => decide (s.controller.status = .connected) && !s.controller.takes
  | turn => turn.begins s && s.controller.heldBack.isSome

variable {s : Station α}

/-- A turn loses one line at most, and none unless it is hazardous. -/
theorem fares (h : s.controller.Orderly) (carried : s.controller.outgoing = []) (turn : Turn α) :
    ∃ written gone, Fares s.controller (turn.sends s) written gone (turn.apply s).controller ∧
      losses gone ≤ (turn.hazard s).toNat := by
  -- deeds lose nothing, and neither does what concerns no line
  have ran : ∀ {queued written : List Bytes} {c' : Controller α},
      Runs s.controller queued written c' → ∀ bound : Nat,
        ∃ written gone, Fares s.controller (queued ++ []) written gone c' ∧
          losses gone ≤ bound := by
    intro queued written c' runs bound
    obtain ⟨gone, fares, nothing⟩ := runs.fares h
    exact ⟨written, gone, by rwa [List.append_nil], nothing ▸ Nat.zero_le _⟩
  cases turn with
  | act action =>
    cases action with
    | call asked =>
      cases asked with
      | send command => exact ran (s.controller.send_runs command) _
      | jog j => exact ran (s.controller.send_runs _) _
      | jogAbsolute j => exact ran (s.controller.send_runs _) _
      | cancelJog =>
        have logged := does_logText s.controller .debug "Cancel jog"
        exact ran (logged.runs.trans (Does.urge (by rfl)).runs) _
      | pass now => exact pass_fares h now
      | update now => exact ⟨[], Station.update_fares h carried now⟩
    | writeImmediate now =>
      obtain ⟨⟨written, fares⟩, -⟩ := writeImmediate_fares h now
      exact ⟨written, [], fares, Nat.zero_le _⟩
    | writeStreaming now => exact writeStreaming_fares h now
    | arrive chunks =>
      have outgoing := outgoing_mapPort s.controller (·.receive chunks) fun _ => rfl
      exact ⟨[], [], .of_same h rfl rfl rfl outgoing, Nat.zero_le _⟩
    | accept piece => exact ⟨[], [], (accept_accepted piece s.controller).fares h, Nat.zero_le _⟩
    | failRead fault =>
      have outgoing := outgoing_mapPort s.controller ({ · with readFault := fault }) fun _ => rfl
      exact ⟨[], [], .of_same h rfl rfl rfl outgoing, Nat.zero_le _⟩
  | confirmOpen =>
    refine ⟨[], _, confirmOpen_fares h, ?_⟩
    simp only [hazard, begins]
    cases s.controller.opening with
    | true => simp [losses_forgotten]
    | false => exact Nat.le_refl 0
  | confirmClosed => exact ⟨[], [], Station.confirmClosed_fares h carried, Nat.zero_le _⟩
  | connect => exact ⟨[], [], Station.connect_fares h carried, Nat.zero_le _⟩
  | disconnect => exact ran ((disconnect_winds s.controller).runs carried) _
  | setStatus status => exact ⟨[], [], .of_same h rfl rfl rfl rfl, Nat.zero_le _⟩
  | setDesired status => exact ⟨[], [], .of_same h rfl rfl rfl rfl, Nat.zero_le _⟩
  | setSimulates enabled =>
    have ledger : s.controller.tracker.toggle.1.ledger = s.controller.tracker.ledger := by
      rw [Tracker.toggle_eq]
      split <;> rfl
    have fares : Fares s.controller [] [] [] (s.controller.setSimulates enabled) := by
      rw [Controller.setSimulates]
      split
      · exact .refl h
      · exact .of_same h rfl rfl ledger rfl
    exact ⟨[], [], fares, Nat.zero_le _⟩
  | setJogFeed feed => exact ⟨[], [], .of_same h rfl rfl rfl rfl, Nat.zero_le _⟩
  | port isOpen closes writeFault =>
    have outgoing := outgoing_mapPort s.controller ({ · with isOpen, closes, writeFault })
      fun _ => rfl
    exact ⟨[], [], .of_same h rfl rfl rfl outgoing, Nat.zero_le _⟩
  | host ports => exact ⟨[], [], .refl h, Nat.zero_le _⟩

end Turn

/-! ## Runs of turns -/

/-- A controller in its surroundings, and what was sent and written. -/
structure Course (α : Type) where
  station : Station α
  sent : List Bytes := []
  written : List Bytes := []

namespace Course

omit [Scalar α] in
/-- Nothing has been sent or written yet. -/
def start (s : Station α) : Course α := { station := s.mapController (·.carryAway) }

/-- A turn, after which what was written is carried away. -/
def step (t : Course α) (turn : Turn α) : Course α :=
  let station := turn.apply t.station
  { station := station.mapController (·.carryAway)
    sent := t.sent ++ turn.sends t.station
    written := t.written ++ station.controller.outgoing }

/-- Turns one after another. -/
def run (t : Course α) (turns : List (Turn α)) : Course α := turns.foldl step t

/-- How many turns can lose a line. -/
def hazards : Course α → List (Turn α) → Nat
  | _, [] => 0
  | t, turn :: rest => (turn.hazard t.station).toNat + hazards (t.step turn) rest

omit [Scalar α] in
/-- Every line sent has a fate or waits, and those with the fate `written` were written. -/
structure Accounted (gone : List (Bytes × Fate)) (t : Course α) : Prop where
  orderly : t.station.controller.Orderly
  carried : t.station.controller.outgoing = []
  sent : t.sent = gone.map Prod.fst ++ t.station.controller.backlog
  written : t.written.filter isLine = withFate .written gone
  apt : ∀ x ∈ gone, Apt x

variable {t : Course α} {gone : List (Bytes × Fate)}

theorem Accounted.step (h : t.Accounted gone) (turn : Turn α) :
    ∃ more, (t.step turn).Accounted (gone ++ more) ∧
      losses more ≤ (turn.hazard t.station).toNat := by
  obtain ⟨written, more, fares, within⟩ := turn.fares h.orderly h.carried
  refine ⟨more, ⟨⟨fares.orderly.ledger, fares.orderly.lines, fares.orderly.urgent⟩,
    outgoing_carryAway _, ?_, ?_, fun x mem => ?_⟩, within⟩
  · calc t.sent ++ turn.sends t.station
      _ = gone.map Prod.fst ++ (t.station.controller.backlog ++ turn.sends t.station) := by
        rw [h.sent, List.append_assoc]
      _ = (gone ++ more).map Prod.fst ++ (turn.apply t.station).controller.backlog := by
        rw [fares.backlog, List.map_append, List.append_assoc]
  · show (t.written ++ (turn.apply t.station).controller.outgoing).filter isLine = _
    rw [fares.outgoing, h.carried, List.nil_append, List.filter_append, h.written, fares.written,
      withFate_append]
  · rcases List.mem_append.1 mem with old | new
    · exact h.apt x old
    · exact fares.apt x new

/-- A run loses at most as many lines as it has hazards. -/
theorem Accounted.run (h : t.Accounted gone) (turns : List (Turn α)) :
    ∃ more, (t.run turns).Accounted (gone ++ more) ∧ losses more ≤ t.hazards turns := by
  induction turns generalizing t gone with
  | nil => exact ⟨[], by simpa [Course.run] using h, Nat.zero_le _⟩
  | cons turn rest ih =>
    obtain ⟨first, here, lost⟩ := h.step turn
    obtain ⟨later, there, lost'⟩ := ih here
    refine ⟨first ++ later, ?_, ?_⟩
    · rw [← List.append_assoc]
      exact there
    · rw [losses_append]
      exact Nat.add_le_add lost lost'

/-- Whatever happens to a controller that starts with nothing to write, every line that was sent
still waits or has a fate, and the lines written are those with the fate `written`, in the order of
sending.  No more lines are lost than there were hazards; without any, what was written are the
short ones of the lines that left the backlog, so that no line is written before all shorter than
the buffer that were sent before it. -/
theorem losses_le_hazards {s : Station α} (orderly : s.controller.Orderly)
    (empty : s.controller.backlog = []) (turns : List (Turn α)) :
    let t := (start s).run turns
    ∃ gone : List (Bytes × Fate),
      t.sent = gone.map Prod.fst ++ t.station.controller.backlog ∧
        t.written.filter isLine = withFate .written gone ∧
        (∀ x ∈ gone, Apt x) ∧
        losses gone ≤ (start s).hazards turns ∧
        ((start s).hazards turns = 0 →
          t.written.filter isLine = (gone.map Prod.fst).filter isShort) := by
  intro t
  have begun : (start s).Accounted [] :=
    ⟨⟨orderly.ledger, orderly.lines, orderly.urgent⟩, outgoing_carryAway _, empty.symm, rfl, nofun⟩
  obtain ⟨gone, accounted, within⟩ := begun.run turns
  rw [List.nil_append] at accounted
  refine ⟨gone, accounted.sent, accounted.written, accounted.apt, within, fun none => ?_⟩
  have nothing : losses gone = 0 := Nat.le_zero.1 (none ▸ within)
  rw [← withFate_written accounted.apt nothing]
  exact accounted.written

/-- A line leaves its queue, the port does not take it, and after the next connection the line
behind it is written. -/
theorem failed_write_leaves_hole :
    let turns : List (Turn Float) :=
      [.act (.call (.send (Bytes.ofText "G1 X1"))), .act (.call (.send (Bytes.ofText "G1 X2"))),
        .port true true (some "boom"), .act (.writeStreaming 0), .act (.call (.update 0)),
        .act (.call (.update 0)), .act (.call (.update 0)), .setDesired .connected,
        .act (.call (.update 0)), .act (.call (.update 0)), .act (.writeImmediate 0),
        .act (.writeStreaming 0), .act (.writeStreaming 0)]
    let t := (start connectedStation).run turns
    t.sent = [Bytes.ofText "G1 X1\n", Bytes.ofText "G1 X2\n", Bytes.ofText "$10=1\n"] ∧
      t.written.filter isLine = [Bytes.ofText "G1 X2\n", Bytes.ofText "$10=1\n"] ∧
      t.station.controller.backlog = [] ∧ (start connectedStation).hazards turns = 1 := by
  decide +kernel

-- the other hazard: a line that waits for room in the buffer when the connection is closed
example :
    let long := List.replicate 100 0x61
    let wide := List.replicate 50 0x62
    let turns : List (Turn Float) :=
      [.act (.call (.send long)), .act (.call (.send wide)),
        .act (.call (.send (Bytes.ofText "G1 X3"))), .act (.writeStreaming 0),
        .act (.writeStreaming 0), .disconnect, .act (.call (.update 0)), .setDesired .connected,
        .act (.call (.update 0)), .act (.call (.update 0)), .act (.writeImmediate 0),
        .act (.writeStreaming 0)]
    let t := (start connectedStation).run turns
    t.written.filter isLine = [long ++ newline, Bytes.ofText "G1 X3\n"] ∧
      (start connectedStation).hazards turns = 1 := by
  decide +kernel

/-- Two lines and a new connection between them: no hazard, and no hole. -/
theorem losses_le_hazards_reconnect :
    let turns : List (Turn Float) :=
      [.act (.call (.send (Bytes.ofText "G1 X1"))), .act (.writeStreaming 0), .disconnect,
        .act (.call (.update 0)), .act (.call (.send (Bytes.ofText "G1 X2"))),
        .setDesired .connected, .act (.call (.update 0)), .act (.call (.update 0)),
        .act (.writeImmediate 0), .act (.writeStreaming 0), .act (.writeStreaming 0)]
    let t := (start connectedStation).run turns
    (start connectedStation).hazards turns = 0 ∧
      t.written.filter isLine =
        [Bytes.ofText "G1 X1\n", Bytes.ofText "G1 X2\n", Bytes.ofText "$10=1\n"] ∧
      ∃ gone : List (Bytes × Fate),
        t.sent = gone.map Prod.fst ++ t.station.controller.backlog ∧ losses gone = 0 ∧
          t.written.filter isLine = (gone.map Prod.fst).filter isShort := by
  intro turns t
  have orderly : connectedStation.controller.Orderly := ⟨⟨rfl, rfl⟩, nofun, nofun⟩
  have safe : (start connectedStation).hazards turns = 0 := by decide +kernel
  obtain ⟨gone, sent, -, -, within, noHole⟩ := losses_le_hazards orderly rfl turns
  exact ⟨safe, by decide +kernel, gone, sent, Nat.le_zero.1 (safe ▸ within), noHole safe⟩

end Course

end Link

end GcodeSender
