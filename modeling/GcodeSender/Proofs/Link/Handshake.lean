/-
# `GcodeSender.Proofs.Link.Handshake` — what a new connection writes first

A conversation is to begin with a soft reset and with the request for machine
positions.  Both are queued when the port is confirmed open, and both join the
end of a queue that has not been emptied:

    queue       once the port is confirmed open
    immediate   what waited there, then the soft reset
    heldBack    nothing
    streaming   what waited there, then `$10=1`

So what waited is written first, each queue in its own order, and only where
nothing waited does the handshake come first.

`Yields c written c'` is what the two queues make of a pass: the urgent byte that
waits longest goes out before any line.  `Ahead due c written` follows a stretch
`due` of the urgent queue to the port: what was written is a beginning of it, and
the rest of it is next, or it was all written.  For the lines the same follows
from their fates: while every write succeeds, none is lost.
-/
import GcodeSender.Proofs.Link.Holes

namespace GcodeSender

open Scalar Gcode

variable {α : Type} [Scalar α]

namespace Link

namespace Controller

/-! ## The urgent queue goes first -/

omit [Scalar α] in
/-- The urgent byte that waits longest was written, or nothing was, or none waited; others may have
joined the queue at its end. -/
inductive Yields (c : Controller α) : List Bytes → Controller α → Prop
  | nothing {c' : Controller α} (more : List Bytes) : c'.immediate = c.immediate ++ more →
      Yields c [] c'
  | urgent {c' : Controller α} {byte : Bytes} {rest : List Bytes} (more : List Bytes) :
      c.immediate = byte :: rest → c'.immediate = rest ++ more → Yields c [byte] c'
  | free {c' : Controller α} (written : List Bytes) : c.immediate = [] → Yields c written c'

section
variable {c c' c'' : Controller α} {written more : List Bytes}

omit [Scalar α] in
theorem Yields.of_same (h : c'.immediate = c.immediate) : Yields c [] c' :=
  .nothing [] (by rw [h, List.append_nil])

omit [Scalar α] in
/-- Bytes that join afterwards go to the end. -/
theorem Yields.joined (h : Yields c written c') (joined : c''.immediate = c'.immediate ++ more) :
    Yields c written c'' := by
  cases h with
  | nothing earlier hearlier =>
    exact .nothing (earlier ++ more) (by rw [joined, hearlier, List.append_assoc])
  | urgent earlier waits hearlier =>
    exact .urgent (earlier ++ more) waits (by rw [joined, hearlier, List.append_assoc])
  | free _ empty => exact .free written empty

theorem accept_immediate (piece : Bytes) (c : Controller α) :
    (c.accept piece).immediate = c.immediate := by
  have accepted := accept_accepted piece c
  generalize c.accept piece = c' at accepted ⊢
  cases accepted <;> rfl

/-- In a deed that writes nothing, urgent bytes only join. -/
theorem Does.joins {queued : List Bytes} (deed : Does c queued written c') (silent : written = []) :
    ∃ more, c'.immediate = c.immediate ++ more := by
  have stays : c'.immediate = c.immediate → ∃ more, c'.immediate = c.immediate ++ more := by
    intro same
    exact ⟨[], by rw [same, List.append_nil]⟩
  cases deed with
  | urge _ => exact ⟨[_], rfl⟩
  | hear _ _ => exact stays (accept_immediate _ _)
  | settle => exact stays (accept_immediate _ _)
  | hold next _ _ => exact stays (by rw [(nextLine?_eq next).2.1])
  | drop next _ _ => exact stays (by rw [(nextLine?_eq next).2.1])
  | writeByte | writeLine => cases silent
  | aside | queue | takeUp | play | close | lose => exact stays rfl

theorem Runs.joins {queued : List Bytes} (runs : Runs c queued written c') (silent : written = []) :
    ∃ more, c'.immediate = c.immediate ++ more := by
  induction runs with
  | refl => exact ⟨[], by rw [List.append_nil]⟩
  | step _ last ih =>
    obtain ⟨nothing, nothing'⟩ := List.append_eq_nil_iff.1 silent
    obtain ⟨more, hmore⟩ := ih nothing
    obtain ⟨more', hmore'⟩ := last.joins nothing'
    exact ⟨more ++ more', by rw [hmore', hmore, List.append_assoc]⟩

end

/-! ## A pass -/

variable {c : Controller α}

/-- A port that takes what is written takes the urgent byte that is next, and then nothing else is
written in the same pass. -/
theorem writeImmediate_takes {byte : Bytes} {rest : List Bytes}
    (waits : c.immediate = byte :: rest) (takes : c.takes = true) (now : α) :
    (c.writeImmediate now).state.immediate = rest ∧
      (c.writeImmediate now).state.outgoing = c.outgoing ++ [byte] ∧
      (c.writeImmediate now).result ≠ .ok false := by
  rcases write_cases { c with immediate := rest } byte with
    ⟨port, hport, -, wrote⟩ | ⟨refuses, -⟩
  · replace hport : c.port = some port := hport
    simp only [writeImmediate, waits, wrote]
    split
    next realtime =>
      refine ⟨rfl, by simp [Controller.outgoing, adoptStep, adopt, Step.mapState, Step.mapResult,
        hport], ?_⟩
      -- the result is `true`, or a fault of the tracker
      intro refused
      simp only [Step.mapResult, adoptStep, Step.mapState] at refused
      cases hresult : (c.tracker.register now byte).result with
      | ok _ => simp [hresult, Except.map] at refused
      | error _ => simp [hresult, Except.map] at refused
    next =>
      refine ⟨rfl, by simp [Controller.outgoing, Step.done, hport], ?_⟩
      rintro ⟨⟩
  · cases takes.symm.trans refuses

/-- A pass writes the urgent byte that waits longest, if the port takes it. -/
theorem pass_yields (h : c.Orderly)
    (fit : c.takes = true ∨ c.status ≠ .connected ∨ c.immediate = []) (now : α) :
    ∃ written, (c.pass now).state.outgoing = c.outgoing ++ written ∧
      Yields c written (c.pass now).state := by
  cases waits : c.immediate with
  | nil =>
    obtain ⟨written, gone, fares, -⟩ := pass_fares h now
    exact ⟨written, fares.outgoing, .free written waits⟩
  | cons byte rest =>
    by_cases connected : c.status = .connected
    · have takes : c.takes = true := by
        rcases fit with takes | away | empty
        · exact takes
        · exact absurd connected away
        · rw [waits] at empty
          cases empty
      have reads := (readAll_runs c).1
      obtain ⟨more, joined⟩ := reads.joins rfl
      have kept := takes_readAll takes
      have silent := reads.outgoing
      simp only [pass, connected, if_true]
      generalize c.readAll = reading at joined kept silent ⊢
      obtain ⟨c', result⟩ := reading
      cases result with
      | error fault => exact ⟨[], silent, .nothing more joined⟩
      | ok _ =>
        have waits' : c'.immediate = byte :: (rest ++ more) := by
          rw [joined, waits, List.cons_append]
        obtain ⟨immediate, outgoing, wrote⟩ := writeImmediate_takes waits' kept now
        have whole : c'.outgoing ++ [byte] = c.outgoing ++ [byte] := by
          rw [silent, List.append_nil]
        simp only [Step.andThen, writeNext]
        generalize c'.writeImmediate now = urgent at immediate outgoing wrote ⊢
        obtain ⟨c'', result⟩ := urgent
        cases result with
        | error fault => exact ⟨[byte], outgoing.trans whole, .urgent more waits immediate⟩
        | ok done =>
          cases done with
          | false => exact absurd rfl wrote
          | true =>
            have asked := query_runs now c''
            obtain ⟨later, hlater⟩ := asked.joins rfl
            have quiet := asked.outgoing
            rw [List.append_nil] at quiet
            have first : Yields c [byte] c'' := .urgent more waits immediate
            exact ⟨[byte], quiet.trans (outgoing.trans whole), first.joined hlater⟩
    · rw [pass, if_neg connected]
      exact ⟨[], (List.append_nil _).symm, .of_same rfl⟩

/-- Where nothing comes in, a pass writes the next thing, and no more. -/
theorem outgoing_pass {port : Port} (connected : c.status = .connected)
    (hport : c.port = some port) (sound : port.readFault = none) (quiet : port.incoming = [])
    (noLine : c.hasLine = false) (now : α) :
    (c.pass now).state.outgoing = (c.writeNext now).state.outgoing := by
  have nothing : c.readAll = .done c () := by
    rw [readAll, show c.read = .done c [] by simp [read, hport, sound, quiet]]
    show readOn [] c = _
    rw [readOn, noLine]
    rfl
  simp only [pass, connected, if_true, nothing, Step.andThen, Step.done]
  generalize c.writeNext now = writing
  obtain ⟨c', result⟩ := writing
  cases result with
  | error fault => rfl
  | ok _ => exact (query_runs now c').outgoing.trans (List.append_nil _)

/-! ## A stretch of the queue, followed to the port -/

omit [Scalar α] in
/-- A stretch of the urgent queue was written, or what was written is a beginning of it and the rest
is next. -/
def Ahead (due : List Bytes) (c : Controller α) (written : List Bytes) : Prop :=
  due <+: written ∨ ∃ rest, due = written ++ rest ∧ rest <+: c.immediate

omit [Scalar α] in
theorem Ahead.step {due written now : List Bytes} {c' : Controller α} (h : Ahead due c written)
    (yields : Yields c now c') : Ahead due c' (written ++ now) := by
  rcases h with all | ⟨rest, hdue, next⟩
  · exact .inl (all.trans (List.prefix_append _ _))
  · cases yields with
    | nothing more joined =>
      refine .inr ⟨rest, by rw [List.append_nil]; exact hdue, ?_⟩
      rw [joined]
      exact next.trans (List.prefix_append _ _)
    | @urgent _ byte others more waits left =>
      cases rest with
      | nil =>
        rw [List.append_nil] at hdue
        exact .inl (hdue ▸ List.prefix_append _ _)
      | cons first later =>
        rw [waits, List.cons_prefix_cons] at next
        obtain ⟨rfl, next⟩ := next
        refine .inr ⟨later, by simp [hdue], ?_⟩
        rw [left]
        exact next.trans (List.prefix_append _ _)
    | free _ empty =>
      rw [empty, List.prefix_nil] at next
      rw [next, List.append_nil] at hdue
      exact .inl (hdue ▸ List.prefix_append _ _)

/-- What was written opens with some words, as far as it goes. -/
def OpensWith (words written : List Bytes) : Prop := words <+: written ∨ written <+: words

theorem OpensWith.head {word : Bytes} {words written : List Bytes}
    (h : OpensWith (word :: words) written) : ∀ first ∈ written.head?, first = word := by
  intro first hfirst
  cases written with
  | nil => cases hfirst
  | cons other rest =>
    obtain rfl : other = first := by simpa using hfirst
    rcases h with h | h
    · exact (List.cons_prefix_cons.1 h).1.symm
    · exact (List.cons_prefix_cons.1 h).1

omit [Scalar α] in
theorem Ahead.opens {due written : List Bytes} (h : Ahead due c written) :
    OpensWith due written := by
  rcases h with all | ⟨rest, hdue, -⟩
  · exact .inl all
  · exact .inr (hdue ▸ List.prefix_append _ _)

/-! ## The beginning of a conversation -/

omit [Scalar α] in
theorem Winds.immediate {c c' : Controller α} (h : Winds c c') : c'.immediate = c.immediate := by
  induction h with
  | refl => rfl
  | aside _ _ _ _ _ ih => exact ih
  | close _ _ ih => exact ih
  | lose _ _ ih => exact ih

omit [Scalar α] in
/-- The soft reset and the greeting stand behind whatever waits. -/
theorem confirmOpen_queues (opens : c.opening = true) :
    c.confirmOpen.immediate = c.immediate ++ [[softReset]] ∧
      c.confirmOpen.backlog = c.streaming ++ [greeting] ∧ c.confirmOpen.status = .connected := by
  cases hport : c.port with
  | none => simp [opening, hport] at opens
  | some port =>
    have isOpen : port.isOpen = true := by simpa [opening, hport] using opens
    obtain ⟨backlog, immediate, -, -⟩ := beginConversation_eq c
    have connected := status_setStatus
      (c.beginConversation.logText .info ("Connected " ++ c.label ++ " " ++ c.portName)) .connected
    simp only [confirmOpen, hport, isOpen, if_true, startThread]
    split <;> exact ⟨immediate, backlog, connected⟩

omit [Scalar α] in
theorem confirmOpen_unopened (closed : c.opening = false) :
    c.confirmOpen.immediate = c.immediate := by
  cases hport : c.port with
  | none => simp only [confirmOpen, hport]; rfl
  | some port =>
    have isOpen : port.isOpen = false := by simpa [opening, hport] using closed
    simp only [confirmOpen, hport, isOpen, Bool.false_eq_true, if_false]

end Controller

open Controller

namespace Station

variable {s : Station α}

omit [Scalar α] in
theorem immediate_connect : s.connect.controller.immediate = s.controller.immediate := by
  rw [connect]
  dsimp only
  split <;> try rfl
  split
  · rfl
  · split <;> rfl

omit [Scalar α] in
theorem immediate_confirmClosed :
    s.confirmClosed.controller.immediate = s.controller.immediate := by
  rw [confirmClosed]
  dsimp only
  split
  · rfl
  · split <;> rfl

omit [Scalar α] in
/-- Only the beginning of a conversation queues an urgent byte. -/
theorem immediate_approach (stays : s.begins = false) :
    s.approach.controller.immediate = s.controller.immediate := by
  simp only [approach]
  split
  next => rfl
  next apart =>
    split
    next connecting =>
      rw [begins, decide_eq_true apart, decide_eq_true connecting] at stays
      exact confirmOpen_unopened stays
    next =>
      split
      next => exact immediate_confirmClosed
      next =>
        split
        · rfl
        · split
          · exact immediate_connect
          · exact (disconnect_winds s.controller).immediate

omit [Scalar α] in
/-- The soft reset and the greeting stand behind whatever waits when a conversation begins. -/
theorem approach_begins (begins : s.begins = true) :
    s.approach.controller.immediate = s.controller.immediate ++ [[softReset]] ∧
      s.approach.controller.backlog = s.controller.streaming ++ [greeting] ∧
      s.approach.controller.status = .connected := by
  simp only [Station.begins, Bool.and_eq_true, decide_eq_true_eq] at begins
  obtain ⟨⟨apart, connecting⟩, opens⟩ := begins
  simp only [approach, if_neg apart, if_pos connecting]
  exact confirmOpen_queues opens

end Station

/-! ## Turns that only passes write in -/

namespace Turn

/-- Is writing left to the passes, with a port that takes what they have to write, and does no other
conversation begin? -/
def serves (s : Station α) : Turn α → Bool
  | .act (.writeImmediate _) | .act (.writeStreaming _) => false
  | .act (.call (.pass _)) =>
    s.controller.takes || decide (s.controller.status ≠ .connected) ||
      s.controller.immediate.isEmpty && s.controller.backlog.isEmpty
  | turn => !turn.begins s

variable {s : Station α}

/-- Of the turns that serve a connection, only a pass writes, and it writes the urgent byte that is
next. -/
theorem yields (h : s.controller.Orderly) (carried : s.controller.outgoing = []) {turn : Turn α}
    (serves : turn.serves s = true) :
    Yields s.controller (turn.apply s).controller.outgoing (turn.apply s).controller := by
  have silent : ∀ {c' : Controller α} {more : List Bytes}, c'.outgoing = s.controller.outgoing →
      c'.immediate = s.controller.immediate ++ more → Yields s.controller c'.outgoing c' := by
    intro c' more outgoing joined
    rw [outgoing, carried]
    exact .nothing more joined
  have same : ∀ {c' : Controller α}, c'.outgoing = s.controller.outgoing →
      c'.immediate = s.controller.immediate → Yields s.controller c'.outgoing c' := by
    intro c' outgoing immediate
    exact silent outgoing (by rw [immediate, List.append_nil])
  have ran : ∀ {queued : List Bytes} {c' : Controller α}, Runs s.controller queued [] c' →
      Yields s.controller c'.outgoing c' := by
    intro queued c' runs
    obtain ⟨more, joined⟩ := runs.joins rfl
    exact silent (by rw [runs.outgoing, List.append_nil]) joined
  cases turn with
  | act action =>
    cases action with
    | call asked =>
      cases asked with
      | send command => exact ran (s.controller.send_runs command)
      | jog j =>
        exact ran (s.controller.send_runs (jogCommand "G91" s.controller.jogFeed j))
      | jogAbsolute j =>
        exact ran (s.controller.send_runs (jogCommand "G90" s.controller.jogFeed j))
      | cancelJog =>
        have logged := does_logText s.controller .debug "Cancel jog"
        exact ran (logged.runs.trans (Does.urge (by rfl)).runs)
      | pass now =>
        have fit : s.controller.takes = true ∨ s.controller.status ≠ .connected ∨
            s.controller.immediate = [] := by
          simp only [Turn.serves, Bool.or_eq_true, Bool.and_eq_true, decide_eq_true_eq,
            List.isEmpty_iff] at serves
          rcases serves with (takes | away) | ⟨empty, -⟩
          · exact .inl takes
          · exact .inr (.inl away)
          · exact .inr (.inr empty)
        obtain ⟨written, outgoing, yields⟩ := pass_yields h fit now
        rw [carried, List.nil_append] at outgoing
        exact outgoing ▸ yields
      | update now =>
        have stays : s.begins = false := by simpa [Turn.serves, begins] using serves
        obtain ⟨gone, fares, -⟩ := Station.update_fares h carried now
        refine same ?_ (Station.immediate_approach stays)
        exact fares.outgoing.trans (List.append_nil _)
    | writeImmediate now => cases serves
    | writeStreaming now => cases serves
    | arrive chunks => exact same (outgoing_mapPort _ (·.receive chunks) fun _ => rfl) rfl
    | accept piece =>
      exact same (accept_accepted piece s.controller).outgoing (accept_immediate piece _)
    | failRead fault =>
      exact same (outgoing_mapPort _ ({ · with readFault := fault }) fun _ => rfl) rfl
  | confirmOpen =>
    have closed : s.controller.opening = false := by simpa [Turn.serves, begins] using serves
    refine same ?_ (confirmOpen_unopened closed)
    exact (confirmOpen_fares h).outgoing.trans (List.append_nil _)
  | confirmClosed =>
    have outgoing := (Station.confirmClosed_fares h carried).outgoing
    exact same (outgoing.trans (List.append_nil _)) Station.immediate_confirmClosed
  | connect =>
    have outgoing := (Station.connect_fares h carried).outgoing
    exact same (outgoing.trans (List.append_nil _)) Station.immediate_connect
  | disconnect => exact ran ((disconnect_winds s.controller).runs carried)
  | setStatus status => exact same rfl rfl
  | setDesired status => exact same rfl rfl
  | setSimulates enabled =>
    show Yields s.controller (s.controller.setSimulates enabled).outgoing
      (s.controller.setSimulates enabled)
    rw [Controller.setSimulates]
    split <;> exact same rfl rfl
  | setJogFeed feed => exact same rfl rfl
  | port isOpen closes writeFault =>
    exact same (outgoing_mapPort _ ({ · with isOpen, closes, writeFault }) fun _ => rfl) rfl
  | host ports => exact same rfl rfl

omit [Scalar α] in
/-- Of the turns that serve a connection only a pass could lose a line, and it has none to lose. -/
theorem idle_of_hazard {turn : Turn α} (serves : turn.serves s = true)
    (hazard : turn.hazard s = true) : s.controller.backlog = [] ∧ turn.sends s = [] := by
  cases turn with
  | act action =>
    cases action with
    | call asked =>
      cases asked with
      | pass now =>
        simp only [Turn.hazard, Bool.and_eq_true, decide_eq_true_eq, Bool.not_eq_true'] at hazard
        simp only [Turn.serves, hazard, Bool.false_or, Bool.or_eq_true, Bool.and_eq_true,
          decide_eq_true_eq, List.isEmpty_iff] at serves
        rcases serves with away | ⟨-, empty⟩
        · exact absurd rfl away
        · exact ⟨empty, rfl⟩
      | update now => simp_all [Turn.serves, Turn.hazard]
      | send _ | jog _ | jogAbsolute _ | cancelJog => simp [Turn.hazard, begins] at hazard
    | writeStreaming now => cases serves
    | writeImmediate _ | arrive _ | accept _ | failRead _ => simp [Turn.hazard, begins] at hazard
  | confirmOpen => simp_all [Turn.serves, Turn.hazard]
  | confirmClosed | connect | disconnect | setStatus _ | setDesired _ | setSimulates _
  | setJogFeed _ | port _ _ _ | host _ => simp [Turn.hazard, begins] at hazard

end Turn

/-! ## Runs that serve a connection -/

namespace Course

/-- Is writing left to the passes, with a port that takes what they have to write, as long as the
conversation lasts? -/
def served : Course α → List (Turn α) → Bool
  | _, [] => true
  | t, turn :: rest => turn.serves t.station && served (t.step turn) rest

omit [Scalar α] in
/-- A conversation is taken up: what waits has been sent, and nothing has been written. -/
def resume (s : Station α) : Course α := { start s with sent := s.controller.backlog }

variable {t : Course α} {gone : List (Bytes × Fate)} {due : List Bytes}

theorem sent_prefix_run (turns : List (Turn α)) : t.sent <+: (t.run turns).sent := by
  induction turns generalizing t with
  | nil => exact List.prefix_rfl
  | cons turn rest ih =>
    have here : t.sent <+: (t.step turn).sent := List.prefix_append _ _
    exact here.trans ih

/-- Where a turn serves the connection, no line is lost. -/
theorem Accounted.step_served (h : t.Accounted gone) {turn : Turn α}
    (serves : turn.serves t.station = true) :
    ∃ more, (t.step turn).Accounted (gone ++ more) ∧ losses more = 0 := by
  obtain ⟨more, accounted, within⟩ := h.step turn
  refine ⟨more, accounted, ?_⟩
  cases hazard : turn.hazard t.station with
  | false => exact Nat.le_zero.1 (by simpa [hazard] using within)
  | true =>
    obtain ⟨empty, silent⟩ := turn.idle_of_hazard serves hazard
    have left : (gone ++ more).map Prod.fst ++ (t.step turn).station.controller.backlog =
        gone.map Prod.fst := by
      rw [← accounted.sent]
      show t.sent ++ turn.sends t.station = _
      rw [h.sent, empty, silent, List.append_nil, List.append_nil]
    rw [List.map_append, List.append_assoc, List.append_right_eq_self, List.append_eq_nil_iff,
      List.map_eq_nil_iff] at left
    rw [left.1]
    rfl

/-- A run that serves the connection writes the urgent bytes in order, and loses no line. -/
theorem Accounted.run_served (h : t.Accounted gone)
    (ahead : Ahead due t.station.controller t.written) {turns : List (Turn α)}
    (served : t.served turns = true) :
    ∃ more, (t.run turns).Accounted (gone ++ more) ∧ losses more = 0 ∧
      Ahead due (t.run turns).station.controller (t.run turns).written := by
  induction turns generalizing t gone with
  | nil => exact ⟨[], by simpa [Course.run] using h, rfl, ahead⟩
  | cons turn rest ih =>
    simp only [Course.served, Bool.and_eq_true] at served
    obtain ⟨first, here, none⟩ := h.step_served served.1
    have yields := turn.yields h.orderly h.carried served.1
    have carried : (t.step turn).station.controller.immediate =
        (turn.apply t.station).controller.immediate ++ [] := (List.append_nil _).symm
    obtain ⟨later, there, none', ahead'⟩ := ih here (ahead.step (yields.joined carried)) served.2
    refine ⟨first ++ later, ?_, by rw [losses_append, none, none'], ahead'⟩
    rw [← List.append_assoc]
    exact there

omit [Scalar α] in
theorem accounted_resume {s : Station α} (orderly : s.controller.Orderly) :
    (resume s).Accounted [] :=
  ⟨⟨orderly.ledger, orderly.lines, orderly.urgent⟩, outgoing_carryAway _, rfl, rfl, nofun⟩

theorem greeting_eq : greeting = Bytes.ofText "$10=1\n" := by decide +kernel

/-- The handshake stands behind what waits.  Whatever happened before, when a port is confirmed open
the soft reset joins the end of the urgent queue and the request for machine positions the end of
the lines; the line held back is forgotten.  From then on, while writing is left to the passes and
the port takes what they have to write, what waited is written first: each queue opens with what it
held, and the handshake is next.  It comes first where nothing waited. -/
theorem handshake_behind_leftovers {s₀ : Station α} (orderly : s₀.controller.Orderly)
    (before : List (Turn α)) (now : α) (later : List (Turn α)) :
    let s := ((resume s₀).run before).station
    let up := (s.update now).state
    let t := (resume up).run later
    s.begins = true → (resume up).served later = true →
      up.controller.status = .connected ∧
        OpensWith (s.controller.immediate ++ [[softReset]]) t.written ∧
        OpensWith ((s.controller.streaming ++ [Bytes.ofText "$10=1\n"]).filter isShort)
          (t.written.filter isLine) ∧
        (s.controller.immediate = [] → ∀ first ∈ t.written.head?, first = [softReset]) ∧
        (s.controller.streaming = [] →
          ∀ line ∈ (t.written.filter isLine).head?, line = Bytes.ofText "$10=1\n") := by
  intro s up t begins served
  obtain ⟨-, ⟨orderly', carried, -⟩, -⟩ := (accounted_resume orderly).run before
  obtain ⟨-, ⟨upright, -⟩, -⟩ := Station.update_fares orderly' carried now
  obtain ⟨immediate, backlog, connected⟩ := s.approach_begins begins
  have next : Ahead (s.controller.immediate ++ [[softReset]]) (resume up).station.controller
      (resume up).written := .inr ⟨_, rfl, immediate ▸ List.prefix_rfl⟩
  obtain ⟨gone, accounted, none, ahead⟩ := (accounted_resume upright).run_served next served
  rw [List.nil_append] at accounted
  have bytes := ahead.opens
  have lines : OpensWith ((s.controller.streaming ++ [greeting]).filter isShort)
      (t.written.filter isLine) := by
    -- both are beginnings of the lines sent, of which the long ones were left out
    have waited : s.controller.streaming ++ [greeting] <+: t.sent := by
      have sent : s.controller.streaming ++ [greeting] <+: (resume up).sent :=
        backlog ▸ List.prefix_rfl
      exact sent.trans (sent_prefix_run later)
    have left : gone.map Prod.fst <+: t.sent := accounted.sent ▸ List.prefix_append _ _
    rw [accounted.written, withFate_written accounted.apt none]
    exact (List.prefix_or_prefix_of_prefix waited left).imp (·.filter _) (·.filter _)
  rw [← greeting_eq]
  refine ⟨connected, bytes, lines, fun nothing => ?_, fun nothing => ?_⟩
  · rw [nothing] at bytes
    exact bytes.head
  · have short : isShort greeting = true := by decide +kernel
    rw [nothing, List.nil_append, List.filter_cons_of_pos short, List.filter_nil] at lines
    exact lines.head

/-- A new controller is asked to send a line and to cancel the jogs, and then to connect: the first
pass writes the jog cancel, and the line is written before the request for machine positions. -/
theorem leftovers_before_handshake :
    let new : Station Float := { controller := .fresh "grbl" true }
    let before : List (Turn Float) :=
      [.act (.call (.send (Bytes.ofText "G1 X1"))), .act (.call .cancelJog),
        .setDesired .connected, .act (.call (.update 0))]
    let s := ((resume new).run before).station
    let up := (s.update 0).state
    let pass : Turn Float := .act (.call (.pass 0))
    s.begins = true ∧ (resume up).served [pass] = true ∧
      ((resume up).run [pass]).written = [[jogCancel]] ∧
      ((resume up).run [.act (.writeImmediate 0), .act (.writeImmediate 0),
        .act (.writeStreaming 0), .act (.writeStreaming 0)]).written =
          [[jogCancel], [softReset], Bytes.ofText "G1 X1\n", Bytes.ofText "$10=1\n"] := by
  intro new before s up pass
  refine ⟨by decide +kernel, by decide +kernel, ?_, by decide +kernel⟩
  show [] ++ ((resume up).station.controller.pass 0).state.outgoing = [[jogCancel]]
  have connected : (resume up).station.controller.status = .connected := by decide +kernel
  have there : (resume up).station.controller.port = some {} := by decide +kernel
  have noLine : (resume up).station.controller.hasLine = false := by decide +kernel
  rw [outgoing_pass connected there rfl rfl noLine]
  decide +kernel

/-- A line that waited when the connection went down is written behind the soft reset of the next,
and before its request for machine positions. -/
theorem handshake_behind_leftovers_reconnect :
    let before : List (Turn Float) :=
      [.act (.call (.send (Bytes.ofText "G1 X1"))), .disconnect, .act (.call (.update 0)),
        .setDesired .connected, .act (.call (.update 0))]
    let s := ((resume connectedStation).run before).station
    let up := (s.update 0).state
    let later : List (Turn Float) :=
      [.act (.call (.send (Bytes.ofText "G1 X2"))), .act (.call (.pass 0))]
    let t := (resume up).run later
    s.begins = true ∧ (resume up).served later = true ∧
      s.controller.streaming = [Bytes.ofText "G1 X1\n"] ∧
      OpensWith [Bytes.ofText "G1 X1\n", Bytes.ofText "$10=1\n"] (t.written.filter isLine) ∧
      ∀ first ∈ t.written.head?, first = [softReset] := by
  intro before s up later t
  have orderly : connectedStation.controller.Orderly := ⟨⟨rfl, rfl⟩, nofun, nofun⟩
  have begins : s.begins = true := by decide +kernel
  have served : (resume up).served later = true := by decide +kernel
  have immediate : s.controller.immediate = [] := by decide +kernel
  have streaming : s.controller.streaming = [Bytes.ofText "G1 X1\n"] := by decide +kernel
  have due : (s.controller.streaming ++ [Bytes.ofText "$10=1\n"]).filter isShort =
      [Bytes.ofText "G1 X1\n", Bytes.ofText "$10=1\n"] := by decide +kernel
  obtain ⟨-, -, lines, first, -⟩ :=
    handshake_behind_leftovers orderly before 0 later begins served
  exact ⟨begins, served, streaming, due ▸ lines, first immediate⟩

end Course

end Link

end GcodeSender
