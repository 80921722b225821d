/-
# `GcodeSender.Proofs.Session.Interleaving` — two threads and a lock

A program is streamed by two threads.  One serves the port in passes, the other
queues the lines and then turns the event loop.  Both use the tracker, and hold
a lock while they do; the queues between them need none.  What happens is then a
sequence of steps of one thread or the other, and a step is one use of a queue
or of the port, or all that is done under one hold of the lock.

    serving         the next step                                      lock
    waiting         is it still connected?
    reading         a chunk is read
    taking got      it joins what has come in; a line is cut off
    handing line    the line is taken up                               held
    urging          a realtime byte leaves its queue
    writing byte    it is written
    telling byte    the tracker is told                                held
    streaming       the next line is written, held back or dropped     held
    asking          a status report is asked for, if it is time
    ended

    streaming       the next step                                      lock
    sending lines   a line is queued
    looking         is it still connected?
    approaching     a step towards the status that is desired
    tracking        lines that came in are taken up, motion is played  held
    showing         position and run state are shown                   held
    judging         is the work done?                                  held
    returned
    stopped         a fault has ended the thread

A thread that is left alone makes a pass, or a turn, as they are defined
(`Serving.leads_pass`, `Streaming.leads_turn`).
-/
import GcodeSender.Session
import GcodeSender.Proofs.Link.Deeds

namespace GcodeSender

open Scalar Gcode

variable {α : Type} [Scalar α]

/-! ## The thread that serves the port -/

namespace Link

/-- How far the thread that serves the port has come in its pass. -/
inductive Serving where
  | waiting
  | reading
  | taking (got : Bytes)
  | handing (line : Bytes)
  | urging
  | writing (byte : Bytes)
  | telling (byte : Bytes)
  | streaming
  | asking
  | ended
  deriving DecidableEq, Repr

/-- The next step of the thread: what becomes of the controller, and where the thread is then. -/
def Serving.step (now : α) (c : Controller α) : Serving → Step (Controller α) Serving
  | .waiting => .done c (if c.status = .connected then .reading else .ended)
  | .reading => c.read.mapResult .taking
  | .taking got =>
    if got.isEmpty && !c.hasLine then .done c .urging
    else
      match Bytes.cutAt? lineEnd (c.partialLine ++ got) with
      | none => .done { c with partialLine := c.partialLine ++ got } .reading
      | some (line, rest) => .done { c with partialLine := rest } (.handing line.trim)
  | .handing line => .done (c.takeLine line) .reading
  | .urging =>
    match c.immediate with
    | [] => .done c .streaming
    | byte :: rest => .done { c with immediate := rest } (.writing byte)
  | .writing byte =>
    match c.write byte with
    | (c, false) => .done c .streaming
    | (c, true) => .done c (if isRealtime byte then .telling byte else .asking)
  | .telling byte => (c.adoptStep (c.tracker.register now byte)).mapResult fun _ => .asking
  | .streaming => (c.writeStreaming now).mapResult fun _ => .asking
  | .asking => .done (c.query now) .waiting
  | .ended => .done c .ended

end Link

/-! ## The thread that streams the lines -/

open Link

/-- How far the thread that streams the lines has come. -/
inductive Streaming where
  | sending (lines : List Bytes)
  | looking
  | approaching
  | tracking
  | showing
  | judging
  | returned
  | stopped
  deriving DecidableEq, Repr

/-- The next step of the thread; `number` writes the numbers that are shown. -/
def Streaming.step (number : α → String) (now : α) (s : Session α) :
    Streaming → Step (Session α) Streaming
  | .sending [] => .done s .looking
  | .sending (line :: rest) => .done (s.mapController (·.send line)) (.sending rest)
  | .looking => .done s (if s.status = .connected then .approaching else .returned)
  | .approaching => .done { s with station := s.station.approach } .tracking
  | .tracking =>
    ((s.controller.takeReceived.advance now).mapState fun c => s.mapController fun _ => c).mapResult
      fun _ => .showing
  | .showing => .done (s.showState number) .judging
  | .judging => .done s (if Session.isFinished s.controller then .returned else .looking)
  | .returned => .done s .returned
  | .stopped => .done s .stopped

/-- The lines that are still to be queued. -/
def Streaming.unsent : Streaming → List Bytes
  | .sending lines => lines
  | _ => []

/-! ## Both together -/

/-- A program that is being streamed. -/
structure Job (α : Type) where
  session : Session α
  streaming : Streaming
  serving : Serving := .waiting
  /-- Has a fault ended one of the threads? -/
  raised : Bool := false

/-- What happens next. -/
inductive Act (α : Type) where
  /-- The thread that serves the port makes a step. -/
  | serve (now : α)
  /-- The thread that streams the lines makes a step. -/
  | stream (now : α)
  /-- Chunks come in at the port; from now on reading and writing fail like this. -/
  | device (chunks : List Bytes) (readFault : Option ReadFault) (writeFault : Option String)

namespace Job

/-- A program that is about to be streamed. -/
def start (s : Session α) (lines : List Bytes) : Job α :=
  { session := s, streaming := .sending lines }

def controller (j : Job α) : Controller α := j.session.controller

/-- A step of the thread that serves the port. -/
def serve (now : α) (j : Job α) : Job α :=
  match j.serving.step now j.controller with
  | ⟨c, .ok serving⟩ => { j with session := j.session.mapController fun _ => c, serving }
  | ⟨c, .error _⟩ =>
    { j with session := j.session.mapController fun _ => c, serving := .ended, raised := true }

/-- A step of the thread that streams the lines. -/
def stream (number : α → String) (now : α) (j : Job α) : Job α :=
  match j.streaming.step number now j.session with
  | ⟨session, .ok streaming⟩ => { j with session, streaming }
  | ⟨session, .error _⟩ => { j with session, streaming := .stopped, raised := true }

/-- What an act comes to. -/
def step (number : α → String) (j : Job α) : Act α → Job α
  | .serve now => j.serve now
  | .stream now => j.stream number now
  | .device chunks readFault writeFault =>
    { j with
      session := j.session.mapController fun c =>
        { c with port := c.port.map fun p => { p.receive chunks with readFault, writeFault } } }

/-- Acts one after another. -/
def run (number : α → String) (j : Job α) (acts : List (Act α)) : Job α :=
  acts.foldl (step number) j

end Job

/-! ## A thread that is left alone -/

section
variable {σ φ : Type}

/-- Steps of a thread, while nothing else happens, lead to an outcome. -/
inductive Leads (step : σ → φ → Step σ φ) : φ → σ → Step σ φ → Prop
  | here (phase : φ) (s : σ) : Leads step phase s (.done s phase)
  | step {phase phase' : φ} {s s' : σ} {outcome : Step σ φ} :
      step s phase = .done s' phase' → Leads step phase' s' outcome → Leads step phase s outcome
  | fault {phase : φ} {s s' : σ} {fault : Fault} :
      step s phase = .stopped s' fault → Leads step phase s (.stopped s' fault)

variable {step : σ → φ → Step σ φ} {phase phase' : φ} {s s' : σ}

/-- A step that may be stopped. -/
theorem Leads.of_step {outcome : Step σ φ} (h : step s phase = outcome) :
    Leads step phase s outcome := by
  obtain ⟨s', result⟩ := outcome
  cases result with
  | ok phase' => exact .step h (.here phase' s')
  | error fault => exact .fault h

theorem Leads.trans {outcome : Step σ φ} (h : Leads step phase s (.done s' phase'))
    (h' : Leads step phase' s' outcome) : Leads step phase s outcome := by
  generalize reached : Step.done s' phase' = first at h
  induction h with
  | here phase s =>
    cases reached
    exact h'
  | step first _ ih => exact .step first (ih reached)
  | fault _ => cases reached

/-- What every step keeps, all of them together keep. -/
theorem Leads.keeps {r : σ → σ → Prop} (refl : ∀ s, r s s)
    (trans : ∀ {s s' s''}, r s s' → r s' s'' → r s s'')
    (each : ∀ s phase, r s (step s phase).state) {outcome : Step σ φ}
    (h : Leads step phase s outcome) : r s outcome.state := by
  induction h with
  | here _ s => exact refl s
  | @step phase _ s _ _ first _ ih =>
    have here := each s phase
    rw [first] at here
    exact trans here ih
  | @fault phase s _ _ stopped =>
    have here := each s phase
    rwa [stopped] at here

/-- One piece of work after another. -/
theorem Leads.andThen {ρ ρ' : Type} {a : Step σ ρ} {next : ρ → σ → Step σ ρ'} (before : ρ → φ)
    {after : ρ' → φ} (first : Leads step phase s (a.mapResult before))
    (rest : ∀ r, Leads step (before r) a.state ((next r a.state).mapResult after)) :
    Leads step phase s ((a.andThen next).mapResult after) := by
  obtain ⟨state, result⟩ := a
  cases result with
  | ok r => exact first.trans (rest r)
  | error fault => exact first

end

namespace Link.Serving

open Controller

variable {now : α}

/-- What was read is taken up, and the next chunk is read. -/
theorem leads_accept {got : Bytes} {c : Controller α} {outcome : Step (Controller α) Serving}
    (goes : ¬ (got.isEmpty && !c.hasLine) = true)
    (rest : Leads (Serving.step now) .reading (c.accept got) outcome) :
    Leads (Serving.step now) (.taking got) c outcome := by
  rw [accept] at rest
  split at rest
  next cut => exact .step (by simp only [Serving.step, if_neg goes, cut]) rest
  next line left cut =>
    have cutOff : Serving.step now c (.taking got) =
        .done { c with partialLine := left } (.handing line.trim) := by
      simp only [Serving.step, if_neg goes, cut]
    exact .step cutOff (.step rfl rest)

theorem leads_readOn (got : Bytes) (c : Controller α) :
    Leads (Serving.step now) (.taking got) c ((readOn got c).mapResult fun _ => .urging) := by
  induction got, c using readOn.induct with
  | case1 got c done =>
    rw [readOn, if_pos done]
    exact .of_step (by simp only [Serving.step, if_pos done]; rfl)
  | case2 got c goes c' next hread ih =>
    rw [readOn_of_read goes hread]
    refine leads_accept goes (.step ?_ ih)
    simp only [Serving.step, hread]
    rfl
  | case3 got c goes c' fault hread =>
    rw [readOn_of_error goes hread, ← read_error hread]
    refine leads_accept goes (.of_step ?_)
    simp only [Serving.step, hread]
    rfl

theorem leads_writeImmediate (c : Controller α) :
    Leads (Serving.step now) .urging c
      ((c.writeImmediate now).mapResult fun wrote => if wrote then .asking else .streaming) := by
  rw [writeImmediate]
  split
  next himmediate => exact .of_step (by simp only [Serving.step, himmediate]; rfl)
  next byte rest himmediate =>
    have taken : Serving.step now c .urging =
        .done { c with immediate := rest } (.writing byte) := by
      simp only [Serving.step, himmediate]
    refine .step taken ?_
    split
    next c' wrote => exact .of_step (by simp only [Serving.step, wrote]; rfl)
    next c' wrote =>
      split
      next realtime =>
        have written : Serving.step now { c with immediate := rest } (.writing byte) =
            .done c' (.telling byte) := by
          simp only [Serving.step, wrote, if_pos realtime]
        refine .step written (.of_step ?_)
        simp only [Serving.step, Step.mapResult]
        cases (c'.adoptStep (c'.tracker.register now byte)).result <;> rfl
      next urgent =>
        exact .of_step (by simp only [Serving.step, wrote, if_neg urgent]; rfl)

theorem leads_writeNext (c : Controller α) :
    Leads (Serving.step now) .urging c ((c.writeNext now).mapResult fun _ => .asking) := by
  rw [writeNext]
  refine (leads_writeImmediate c).andThen (fun wrote => if wrote then .asking else .streaming) ?_
  intro wrote
  cases wrote with
  | true => exact .here _ _
  | false =>
    refine .of_step ?_
    simp only [Serving.step, Step.mapResult, Bool.false_eq_true, if_false]
    cases ((c.writeImmediate now).state.writeStreaming now).result <;> rfl

/-- A thread that is left alone makes a pass. -/
theorem leads_pass {c : Controller α} (connected : c.status = .connected) :
    Leads (Serving.step now) .waiting c ((c.pass now).mapResult fun _ => .waiting) := by
  rw [Controller.pass, if_pos connected]
  have begins : Serving.step now c .waiting = .done c .reading := by
    simp only [Serving.step, if_pos connected]
  refine .step begins ?_
  refine Leads.andThen (fun _ => .urging) ?_ fun _ => ?_
  · have read : Leads (Serving.step now) .reading c (c.read.mapResult .taking) := .of_step rfl
    exact read.andThen _ fun got => leads_readOn got c.read.state
  · exact (leads_writeNext _).andThen _ fun _ => .of_step rfl

end Link.Serving

/-- A thread that is left alone makes a turn, and returns if the work is done. -/
theorem Streaming.leads_turn {number : α → String} {now : α} {s : Session α}
    (connected : s.status = .connected) :
    Leads (Streaming.step number now) .looking s
      ((s.turn number now).mapResult fun finished => if finished then .returned else .looking) := by
  have looks : Streaming.step number now s .looking = .done s .approaching := by
    simp only [Streaming.step, if_pos connected]
  refine .step looks (.step rfl ?_)
  exact Leads.andThen (fun _ => .showing) (.of_step rfl) fun _ => .step rfl (.of_step rfl)

end GcodeSender
