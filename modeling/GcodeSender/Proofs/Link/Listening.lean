/-
# `GcodeSender.Proofs.Link.Listening` — chunks and passes make no difference

Bytes come in as chunks, are read by passes, are cut into lines one line a
round, and reach the tracker at once or with the next step of the event loop.
A controller that only listens — nothing waits to be written, nothing is
simulated — comes to know the same as a tracker that is handed the lines of the
whole stream, one after another.

What carries the proof is a quantity that no step changes:

    foreseen ahead c    what `c` will know, and the unfinished line it will be
                        left with, when it has taken up its partial line,
                        the lines that wait for the event loop, and `ahead`

Reading moves a chunk from the port to the front of `ahead`, taking a line up
moves it off the partial line, an answer overtakes the lines that wait.  At the
end nothing is ahead, and what is foreseen is what is known.

A port that fails, or a connection that goes down, ends the listening; nothing
is said of a port that has been given back.
-/
import GcodeSender.Proofs.Link.Deeds
import GcodeSender.Proofs.Text.Lines
import GcodeSender.Proofs.Tracker.Messages

namespace GcodeSender

open Scalar Gcode

variable {α : Type} [Scalar α]

namespace Link.Controller

open Bytes

/-! ## What is foreseen -/

/-- What a controller will know, and its unfinished line, after `ahead` has come in too. -/
def foreseen (ahead : Bytes) (c : Controller α) : (Record α × Position α) × Bytes :=
  ((c.tracker.receiveAll (c.received ++ messages (c.partialLine ++ ahead))).known,
    (framing (c.partialLine ++ ahead)).2)

/-- Taking the notices away makes no difference to what will be known. -/
theorem known_hushed (t : Tracker α) (messages : List Bytes) :
    (t.hushed.receiveAll messages).known = (t.receiveAll messages).known := by
  have same : t.hushed.known = t.known := rfl
  exact Tracker.known_receiveAll same messages

/-- Taking up a piece changes nothing about what is foreseen. -/
theorem foreseen_accept (piece ahead : Bytes) (c : Controller α) :
    (c.accept piece).foreseen ahead = c.foreseen (piece ++ ahead) := by
  cases cut : cutAt? lineEnd (c.partialLine ++ piece) with
  | none =>
    simp only [accept, cut, foreseen, List.append_assoc]
  | some parts =>
    obtain ⟨line, rest⟩ := parts
    have still : cutAt? lineBreak (c.partialLine ++ (piece ++ ahead)) =
        some (line, rest ++ ahead) := by
      rw [← List.append_assoc]
      exact cutAt?_append cut ahead
    simp only [accept, cut, foreseen, messages_of_some still, framing_of_some still, takeLine]
    split
    next => rfl
    next =>
      split
      next answers =>
        -- the answer is in front of the lines that wait
        have kind : Tracker.isAnswer line.trim.trim = true := by
          rw [trim_trim]
          exact answers
        have first := Tracker.receiveAll_answer_first kind c.received c.tracker
        have later := Tracker.known_receiveAll first (messages (rest ++ ahead))
        have hushed := known_hushed (c.tracker.receive line.trim)
          (c.received ++ messages (rest ++ ahead))
        rw [Tracker.receiveAll_append, Tracker.receiveAll_append] at hushed
        rw [Tracker.receiveAll_append, Tracker.receiveAll_append]
        exact Prod.ext (hushed.trans later) rfl
      next =>
        simp only [List.append_assoc]

/-! ## What leaves it alone -/

/-- What has come in and is not taken up stays, unless the port is lost; nothing is learned. -/
structure Alike (c c' : Controller α) : Prop where
  partialLine : c'.partialLine = c.partialLine
  received : c'.received = c.received
  backlog : c'.backlog = c.backlog
  known : c.simulates = false →
    c'.tracker.known = c.tracker.known ∧ c'.simulates = false
  settled : c.Settled → c'.Settled
  incoming : ∀ port', c'.port = some port' →
    ∃ port, c.port = some port ∧ port'.incoming = port.incoming

omit [Scalar α] in
theorem Alike.refl (c : Controller α) : Alike c c :=
  ⟨rfl, rfl, rfl, fun off => ⟨rfl, off⟩, id, fun port hport => ⟨port, hport, rfl⟩⟩

omit [Scalar α] in
theorem Alike.trans {c c' c'' : Controller α} (h : Alike c c') (h' : Alike c' c'') :
    Alike c c'' where
  partialLine := h'.partialLine.trans h.partialLine
  received := h'.received.trans h.received
  backlog := h'.backlog.trans h.backlog
  known off := by
    obtain ⟨known, off'⟩ := h.known off
    obtain ⟨known', off''⟩ := h'.known off'
    exact ⟨known'.trans known, off''⟩
  settled := fun settled => h'.settled (h.settled settled)
  incoming port'' hport'' := by
    obtain ⟨port', hport', same'⟩ := h'.incoming port'' hport''
    obtain ⟨port, hport, same⟩ := h.incoming port' hport'
    exact ⟨port, hport, same'.trans same⟩

omit [Scalar α] in
/-- Announcements, the clock and the thread. -/
theorem Alike.aside (c : Controller α) (connection : Connection α) (lastQuery : α)
    (thread : Bool) (keeps : c.Settled → Settled { c with connection, lastQuery, thread }) :
    Alike c { c with connection, lastQuery, thread } :=
  ⟨rfl, rfl, rfl, fun off => ⟨rfl, off⟩, keeps, fun port hport => ⟨port, hport, rfl⟩⟩

omit [Scalar α] in
/-- Another port in the place of this one, with the same chunks. -/
theorem Alike.withPort {c : Controller α} {port : Port} (hport : c.port = some port)
    (port' : Port) (same : port'.incoming = port.incoming) :
    Alike c { c with port := some port' } := by
  refine ⟨rfl, rfl, rfl, fun off => ⟨rfl, off⟩, fun settled => settled.withPort port', ?_⟩
  rintro _ ⟨⟩
  exact ⟨port, hport, same⟩

omit [Scalar α] in
/-- The port is lost, once the connection is down. -/
theorem Alike.lose {c : Controller α} (away : c.status ≠ .connected) :
    Alike c { c with port := none } := by
  refine ⟨rfl, rfl, rfl, fun off => ⟨rfl, off⟩, fun settled => settled.lose away, ?_⟩
  intro port gone
  cases gone

/-! ## Listening -/

/-- Nothing waits to be written, nothing is simulated, and `end_` is foreseen as long as the port is
there. -/
structure Listens (end_ : (Record α × Position α) × Bytes) (ahead : Bytes) (c : Controller α) :
    Prop where
  settled : c.Settled
  backlog : c.backlog = []
  off : c.simulates = false
  chunks : ∀ chunk ∈ c.waiting, chunk ≠ []
  foreseen : ∀ port, c.port = some port → c.foreseen (port.incoming.flatten ++ ahead) = end_

section
variable {end_ : (Record α × Position α) × Bytes} {ahead : Bytes} {c c' : Controller α}

theorem Listens.alike (h : Listens end_ ahead c) (same : Alike c c') : Listens end_ ahead c' := by
  obtain ⟨known, off⟩ := same.known h.off
  refine ⟨same.settled h.settled, same.backlog.trans h.backlog, off, ?_, ?_⟩
  · intro chunk mem
    cases hport' : c'.port with
    | none => simp [waiting, hport'] at mem
    | some port' =>
      obtain ⟨port, hport, incoming⟩ := same.incoming port' hport'
      refine h.chunks chunk ?_
      simpa [waiting, hport, hport', incoming] using mem
  · intro port' hport'
    obtain ⟨port, hport, incoming⟩ := same.incoming port' hport'
    have before := h.foreseen port hport
    rw [Controller.foreseen] at before ⊢
    rw [incoming, same.partialLine, same.received, Tracker.known_receiveAll known]
    exact before

/-- A piece that was read is taken up. -/
theorem Listens.accept {piece : Bytes} (settled : c.Settled) (backlog : c.backlog = [])
    (off : c.simulates = false) (chunks : ∀ chunk ∈ c.waiting, chunk ≠ [])
    (foreseen : ∀ port, c.port = some port →
      c.foreseen (piece ++ (port.incoming.flatten ++ ahead)) = end_) :
    Listens end_ ahead (c.accept piece) := by
  have accepted := accept_accepted piece c
  have kept : (c.accept piece).Settled ∧ (c.accept piece).backlog = c.backlog ∧
      (c.accept piece).simulates = c.simulates := by
    generalize c.accept piece = c' at accepted ⊢
    cases accepted with
    | unfinished _ => exact ⟨settled, rfl, rfl⟩
    | blank _ _ => exact ⟨settled, rfl, rfl⟩
    | other _ _ => exact ⟨settled, rfl, rfl⟩
    | @answer line _ _ _ =>
      exact ⟨settled, rfl, Tracker.simulates_receiveAll [line.trim] c.tracker⟩
  refine ⟨kept.1, kept.2.1.trans backlog, kept.2.2.trans off, ?_, ?_⟩
  · rw [accept_waiting]
    exact chunks
  · intro port hport
    rw [foreseen_accept]
    exact foreseen port (accepted.port.symm.trans hport)

/-- A deed that queues and writes nothing changes nothing about what is foreseen. -/
theorem Listens.does (h : Listens end_ ahead c) (deed : Does c [] [] c') :
    Listens end_ ahead c' := by
  cases deed with
  | aside connection lastQuery thread keeps => exact h.alike (.aside c _ _ _ keeps)
  | urge realtime =>
    exact h.alike ⟨rfl, rfl, rfl, fun off => ⟨rfl, off⟩, id, fun p hp => ⟨p, hp, rfl⟩⟩
  | @hear chunk rest port hport incoming =>
    refine Listens.accept (h.settled.withPort _) h.backlog h.off ?_ ?_
    · intro other mem
      refine h.chunks other ?_
      simp only [waiting, hport, incoming, Option.map_some, Option.getD_some] at mem ⊢
      exact List.mem_cons_of_mem _ mem
    · rintro _ ⟨⟩
      have before := h.foreseen port hport
      rw [incoming, List.flatten_cons, List.append_assoc] at before
      exact before
  | settle => exact Listens.accept h.settled h.backlog h.off h.chunks h.foreseen
  | hold next _ _ =>
    have taken := (nextLine?_eq next).1
    rw [h.backlog] at taken
    cases taken
  | drop next _ _ =>
    have taken := (nextLine?_eq next).1
    rw [h.backlog] at taken
    cases taken
  | takeUp =>
    refine ⟨h.settled, h.backlog, (Tracker.simulates_receiveAll c.received c.tracker).trans h.off,
      h.chunks, fun port hport => ?_⟩
    have before := h.foreseen port hport
    rw [Controller.foreseen, Tracker.receiveAll_append, ← known_hushed] at before
    exact before
  | play now =>
    refine h.alike ⟨rfl, rfl, rfl, fun off => ?_, id, fun port hport => ⟨port, hport, rfl⟩⟩
    exact Tracker.known_update off now
  | @close port hport => exact h.alike (.withPort hport _ port.close_incoming)
  | lose away nothing => exact h.alike (.lose away)

omit [Scalar α] in
/-- A connection on its way down loses the port at most. -/
theorem Winds.alike (h : Winds c c') : Alike c c' := by
  induction h with
  | refl => exact .refl c
  | aside connection lastQuery thread _ keeps ih =>
    exact ih.trans (.aside _ connection lastQuery thread keeps)
  | @close _ port _ hport ih => exact ih.trans (.withPort hport port.close port.close_incoming)
  | lose _ away ih => exact ih.trans (.lose away)

theorem Listens.runs {queued written : List Bytes} (h : Listens end_ ahead c)
    (runs : Runs c queued written c') (silent : queued = [] ∧ written = []) :
    Listens end_ ahead c' := by
  induction runs with
  | refl => exact h
  | step _ last ih =>
    obtain ⟨queued, written⟩ := silent
    obtain ⟨rfl, rfl⟩ := List.append_eq_nil_iff.1 queued
    obtain ⟨rfl, rfl⟩ := List.append_eq_nil_iff.1 written
    exact (ih ⟨rfl, rfl⟩).does last

end

/-! ## The reading loop -/

omit [Scalar α] in
/-- Reading fails with nothing but what the connection handles. -/
def Readable (c : Controller α) : Prop :=
  ∀ port, c.port = some port → ∀ kind message, port.readFault ≠ some (.other kind message)

omit [Scalar α] in
/-- Reading does not fail. -/
def Healthy (c : Controller α) : Prop := ∃ port, c.port = some port ∧ port.readFault = none

omit [Scalar α] in
theorem Healthy.readable {c : Controller α} (h : c.Healthy) : c.Readable := by
  obtain ⟨port, hport, sane⟩ := h
  intro p hp kind message fault
  cases hport.symm.trans hp
  cases sane.symm.trans fault

omit [Scalar α] in
theorem Readable.read {c : Controller α} (readable : c.Readable) :
    ∃ c' got, c.read = ⟨c', .ok got⟩ := by
  unfold Controller.read
  split
  next => exact ⟨_, _, rfl⟩
  next port hport =>
    split
    next => exact ⟨_, _, rfl⟩
    next kind message fault => exact absurd fault (readable port hport kind message)
    next => split <;> exact ⟨_, _, rfl⟩

omit [Scalar α] in
/-- What can be read once can be read again. -/
theorem readable_of_read {c c' : Controller α} {got : Bytes} (h : c.read = ⟨c', .ok got⟩) :
    c'.Readable := by
  unfold read at h
  split at h
  next hport =>
    cases h
    intro port hport'
    cases hport.symm.trans hport'
  next port hport =>
    split at h
    next message fault =>
      cases h
      intro port' hport' kind message other
      cases hport.symm.trans hport'
      cases fault.symm.trans other
    next => cases h
    next sane =>
      split at h
      next =>
        cases h
        intro port' hport' kind message fault
        cases hport.symm.trans hport'
        cases sane.symm.trans fault
      next =>
        cases h
        rintro _ ⟨⟩ kind message fault
        cases sane.symm.trans fault

omit [Scalar α] in
/-- A healthy port gives nothing only if nothing waits. -/
theorem read_healthy {c c' : Controller α} {got : Bytes} (h : c.read = ⟨c', .ok got⟩)
    (healthy : c.Healthy) (chunks : ∀ chunk ∈ c.waiting, chunk ≠ []) :
    c'.Healthy ∧ (∀ chunk ∈ c'.waiting, chunk ≠ []) ∧ (got = [] → c'.waiting = []) := by
  obtain ⟨port, hport, sane⟩ := healthy
  simp only [read, hport, sane] at h
  split at h
  next incoming =>
    cases h
    exact ⟨⟨port, hport, sane⟩, chunks, fun _ => by simp [waiting, hport, incoming]⟩
  next first rest incoming =>
    have nonempty : ∀ chunk ∈ first :: rest, chunk ≠ [] := by
      simpa [waiting, hport, incoming] using chunks
    cases h
    refine ⟨⟨_, rfl, rfl⟩, fun chunk mem => nonempty chunk ?_, fun empty => ?_⟩
    · exact List.mem_cons_of_mem _ (by simpa [waiting] using mem)
    · exact absurd empty (nonempty _ List.mem_cons_self)

/-- The loop ends; no whole line is left, and of a healthy port nothing. -/
theorem readOn_ends (got : Bytes) (c : Controller α) (readable : c.Readable) :
    (readOn got c).result = .ok () ∧ (readOn got c).state.hasLine = false ∧
      (c.Healthy → (∀ chunk ∈ c.waiting, chunk ≠ []) → (got = [] → c.waiting = []) →
        (readOn got c).state.waiting = []) := by
  induction got, c using readOn.induct with
  | case1 got c done =>
    obtain ⟨empty, noLine⟩ := Bool.and_eq_true_iff.1 done
    rw [readOn, if_pos done]
    refine ⟨rfl, ?_, fun _ _ waiting => waiting (List.isEmpty_iff.1 empty)⟩
    simpa [Step.done] using noLine
  | case2 got c goes c' next hread ih =>
    have port := (accept_accepted got c).port
    obtain ⟨ended, noLine, nothing⟩ := ih (readable_of_read hread)
    rw [readOn_of_read goes hread]
    refine ⟨ended, noLine, fun healthy chunks _ => ?_⟩
    have healthy' : (c.accept got).Healthy := by
      obtain ⟨p, hp, sane⟩ := healthy
      exact ⟨p, port.trans hp, sane⟩
    rw [← accept_waiting c got] at chunks
    obtain ⟨healthy'', chunks', empty⟩ := read_healthy hread healthy' chunks
    exact nothing healthy'' chunks' empty
  | case3 got c goes c' fault hread =>
    have port := (accept_accepted got c).port
    have still : (c.accept got).Readable := fun p hp => readable p (port.symm.trans hp)
    obtain ⟨_, _, hread'⟩ := still.read
    cases hread.symm.trans hread'

/-- Everything is read from a healthy port. -/
theorem readAll_ends {c : Controller α} (healthy : c.Healthy)
    (chunks : ∀ chunk ∈ c.waiting, chunk ≠ []) :
    c.readAll.result = .ok () ∧ c.readAll.state.hasLine = false ∧
      c.readAll.state.waiting = [] := by
  obtain ⟨c', got, hread⟩ := healthy.readable.read
  obtain ⟨healthy', chunks', empty⟩ := read_healthy hread healthy chunks
  obtain ⟨ended, noLine, nothing⟩ := readOn_ends got c' (readable_of_read hread)
  simp only [readAll, Step.andThen, hread]
  exact ⟨ended, noLine, nothing healthy' chunks' empty⟩

/-- Whatever the port does, no whole line is left. -/
theorem hasLine_readAll {c : Controller α} (noLine : c.hasLine = false) :
    c.readAll.state.hasLine = false := by
  cases hread : c.read with
  | mk c' result =>
    simp only [readAll, Step.andThen, hread]
    cases result with
    | error fault =>
      obtain rfl := read_error hread
      exact noLine
    | ok got =>
      exact (readOn_ends got c' (readable_of_read hread)).2.1

/-! ## A pass with nothing to be written -/

omit [Scalar α] in
theorem write_alike (c : Controller α) (data : Bytes) : Alike c (c.write data).1 := by
  rw [write]
  split
  next =>
    exact .aside c (c.connection.setStatus .fail) c.lastQuery c.thread fun _ =>
      .inr (.inl (Connection.status_setStatus _ _))
  next port hport =>
    split
    next message _ =>
      exact .aside c (c.fail "Write failed on" message).connection c.lastQuery c.thread fun _ =>
        .inr (.inl (Connection.status_setStatus _ _))
    next => exact .withPort hport _ rfl

/-- Without lines to be written, a write is a realtime byte or the soft reset, or nothing. -/
theorem writeImmediate_alike (now : α) (c : Controller α) :
    Alike c (c.writeImmediate now).state := by
  unfold writeImmediate
  split
  next => exact .refl c
  next task rest _ =>
    have popped : Alike c { c with immediate := rest } :=
      ⟨rfl, rfl, rfl, fun off => ⟨rfl, off⟩, id, fun port hport => ⟨port, hport, rfl⟩⟩
    have wrote := popped.trans (write_alike { c with immediate := rest } task)
    split
    next c' heq =>
      rw [heq] at wrote
      exact wrote
    next c' heq =>
      rw [heq] at wrote
      split
      next realtime =>
        refine wrote.trans ⟨rfl, rfl, rfl, fun off => ?_, id, fun port hport => ⟨port, hport, rfl⟩⟩
        exact Tracker.known_register_realtime off now realtime
      next => exact wrote

theorem writeStreaming_nothing {c : Controller α} (backlog : c.backlog = []) (now : α) :
    c.writeStreaming now = .done c false := by
  cases next : c.nextLine? with
  | none => simp only [writeStreaming, next]
  | some taken =>
    obtain ⟨line, left⟩ := taken
    have first := (nextLine?_eq next).1
    rw [backlog] at first
    cases first

theorem writeNext_alike {c : Controller α} (backlog : c.backlog = []) (now : α) :
    Alike c (c.writeNext now).state := by
  have urgent := writeImmediate_alike now c
  simp only [writeNext, Step.andThen]
  split
  next wrote _ =>
    split
    next => exact urgent
    next =>
      rw [writeStreaming_nothing (urgent.backlog.trans backlog)]
      exact urgent
  next => exact urgent

theorem query_alike (now : α) (c : Controller α) : Alike c (c.query now) := by
  rw [query]
  split
  · exact ⟨rfl, rfl, rfl, fun off => ⟨rfl, off⟩, id, fun port hport => ⟨port, hport, rfl⟩⟩
  · exact .refl c

omit [Scalar α] in
theorem Alike.hasLine {c c' : Controller α} (h : Alike c c') : c'.hasLine = c.hasLine := by
  rw [Controller.hasLine, Controller.hasLine, h.partialLine]

section
variable {end_ : (Record α × Position α) × Bytes} {ahead : Bytes} {c : Controller α}

theorem Listens.pass (h : Listens end_ ahead c) (noLine : c.hasLine = false) (now : α) :
    Listens end_ ahead (c.pass now).state ∧ (c.pass now).state.hasLine = false := by
  rw [Controller.pass]
  split
  next =>
    have read := h.runs (readAll_runs c).1 ⟨rfl, rfl⟩
    have noLine := hasLine_readAll noLine
    have wrote := writeNext_alike read.backlog now
    simp only [Step.andThen]
    split
    next =>
      split
      next =>
        have asked := wrote.trans (query_alike now _)
        exact ⟨read.alike asked, asked.hasLine.trans noLine⟩
      next => exact ⟨read.alike wrote, wrote.hasLine.trans noLine⟩
    next => exact ⟨read, noLine⟩
  next => exact ⟨h, noLine⟩

end

/-! ## A port that does not fail -/

omit [Scalar α] in
/-- Connected, to stay so, with a port that neither reading nor writing fails on. -/
structure Sturdy (c : Controller α) : Prop where
  connected : c.status = .connected
  desired : c.desired = .connected
  port : ∃ port, c.port = some port ∧ port.readFault = none ∧ port.writeFault = none

omit [Scalar α] in
theorem Sturdy.healthy {c : Controller α} (h : c.Sturdy) : c.Healthy := by
  obtain ⟨port, hport, reads, -⟩ := h.port
  exact ⟨port, hport, reads⟩

omit [Scalar α] in
/-- Notices apart, connection and port are what counts. -/
theorem Sturdy.of_same {c c' : Controller α} (h : c.Sturdy) (status : c'.status = c.status)
    (desired : c'.desired = c.desired) (port : c'.port = c.port) : c'.Sturdy :=
  ⟨status.trans h.connected, desired.trans h.desired, port ▸ h.port⟩

theorem Sturdy.accept {c : Controller α} (h : c.Sturdy) (piece : Bytes) :
    (c.accept piece).Sturdy := by
  have accepted := accept_accepted piece c
  generalize c.accept piece = c' at accepted ⊢
  cases accepted <;> exact h.of_same rfl rfl rfl

omit [Scalar α] in
theorem Sturdy.read {c c' : Controller α} {got : Bytes} (h : c.Sturdy)
    (hread : c.read = ⟨c', .ok got⟩) : c'.Sturdy := by
  obtain ⟨port, hport, reads, writes⟩ := h.port
  simp only [Controller.read, hport, reads] at hread
  split at hread
  next => cases hread; exact h
  next => cases hread; exact ⟨h.connected, h.desired, _, rfl, rfl, writes⟩

theorem Sturdy.readOn {got : Bytes} {c : Controller α} (h : c.Sturdy) :
    (readOn got c).state.Sturdy := by
  induction got, c using readOn.induct with
  | case1 got c done =>
    rw [Controller.readOn, if_pos done]
    exact h
  | case2 got c goes c' next hread ih =>
    rw [readOn_of_read goes hread]
    exact ih ((h.accept got).read hread)
  | case3 got c goes c' fault hread =>
    obtain ⟨_, _, hread'⟩ := (h.accept got).healthy.readable.read
    cases hread.symm.trans hread'

theorem Sturdy.writeNext {c : Controller α} (h : c.Sturdy) (backlog : c.backlog = []) (now : α) :
    (c.writeNext now).state.Sturdy ∧ (c.writeNext now).state.waiting = c.waiting := by
  have urgent : (c.writeImmediate now).state.Sturdy ∧
      (c.writeImmediate now).state.waiting = c.waiting := by
    obtain ⟨port, hport, reads, writes⟩ := h.port
    unfold writeImmediate
    split
    next => exact ⟨h, rfl⟩
    next task rest _ =>
      rw [write_eq (c := { c with immediate := rest }) hport writes task]
      have written : Sturdy { c with
          immediate := rest
          port := some { port with written := port.written ++ [task] } } :=
        ⟨h.connected, h.desired, _, rfl, reads, writes⟩
      have same : c.waiting = port.incoming := by simp [waiting, hport]
      dsimp only
      split
      next => exact ⟨written.of_same rfl rfl rfl, same.symm⟩
      next => exact ⟨written, same.symm⟩
  have quiet := (writeImmediate_alike now c).backlog.trans backlog
  simp only [Controller.writeNext, Step.andThen]
  split
  next =>
    split
    next => exact urgent
    next =>
      rw [writeStreaming_nothing quiet]
      exact urgent
  next => exact urgent

/-- It stays so over a pass, which reads everything. -/
theorem Sturdy.pass {end_ : (Record α × Position α) × Bytes} {ahead : Bytes} {c : Controller α}
    (h : c.Sturdy) (listens : Listens end_ ahead c) (now : α) :
    (c.pass now).state.Sturdy ∧ (c.pass now).state.waiting = [] := by
  obtain ⟨ended, -, nothing⟩ := readAll_ends h.healthy listens.chunks
  have read : c.readAll.state.Sturdy := by
    obtain ⟨c', got, hread⟩ := h.healthy.readable.read
    simp only [readAll, Step.andThen, hread]
    exact (h.read hread).readOn
  have quiet := (listens.runs (readAll_runs c).1 ⟨rfl, rfl⟩).backlog
  obtain ⟨wrote, same⟩ := read.writeNext quiet now
  have asked : ∀ c : Controller α, c.Sturdy →
      (c.query now).Sturdy ∧ (c.query now).waiting = c.waiting := by
    intro c h
    rw [query]
    split
    · exact ⟨h.of_same rfl rfl rfl, rfl⟩
    · exact ⟨h, rfl⟩
  rw [Controller.pass, if_pos h.connected]
  simp only [Step.andThen, ended]
  split
  next =>
    obtain ⟨sturdy, same'⟩ := asked _ wrote
    exact ⟨sturdy, (same'.trans same).trans nothing⟩
  next => exact ⟨wrote, same.trans nothing⟩

end Link.Controller

namespace Link

open Controller Bytes

/-! ## In any order -/

/-- What happens to a controller that only listens. -/
inductive Beat (α : Type) where
  /-- A chunk comes in at the port. -/
  | arrive (chunk : Bytes)
  /-- A pass over the port. -/
  | pass (now : α)
  /-- A step of the event loop. -/
  | update (now : α)
  deriving DecidableEq, Repr

namespace Beat

/-- What a beat comes to. -/
def apply : Beat α → Station α → Station α
  | .arrive chunk, s => s.mapController fun c => { c with port := c.port.map (·.receive [chunk]) }
  | .pass now, s => s.mapController fun c => (c.pass now).state
  | .update now, s => (s.update now).state

omit [Scalar α] in
/-- The chunks that come in. -/
def arrivals (history : List (Beat α)) : List Bytes :=
  history.filterMap fun
    | .arrive chunk => some chunk
    | .pass _ | .update _ => none

omit [Scalar α] in
theorem arrivals_append (history more : List (Beat α)) :
    arrivals (history ++ more) = arrivals history ++ arrivals more := List.filterMap_append

end Beat

/-- The station after a history. -/
def Station.listen (s : Station α) (history : List (Beat α)) : Station α :=
  history.foldl (fun s beat => beat.apply s) s

omit [Scalar α] in
/-- Connected, with nothing to be written, nothing simulated and no whole line left over. -/
structure Attentive (s : Station α) : Prop where
  connected : s.controller.status = .connected
  port : s.controller.port.isSome = true
  streaming : s.controller.streaming = []
  heldBack : s.controller.heldBack = none
  off : s.controller.simulates = false
  noLine : s.controller.hasLine = false

section
variable {end_ : (Record α × Position α) × Bytes} {ahead : Bytes} {s : Station α}

theorem Controller.Listens.update (h : Listens end_ ahead s.controller) (now : α) :
    Listens end_ ahead (s.update now).state.controller ∧
      (s.update now).state.controller.partialLine = s.controller.partialLine ∧
      (s.update now).state.controller.received = [] := by
  have approached := (Station.approach_winds h.settled).alike
  have taken := (h.alike approached).does .takeUp
  exact ⟨taken.does (.play now), approached.partialLine, rfl⟩

theorem Controller.Listens.arrive {chunk : Bytes} (nonempty : chunk ≠ [])
    (h : Listens end_ (chunk ++ ahead) s.controller) :
    Listens end_ ahead ((Beat.arrive chunk).apply s).controller := by
  cases hport : s.controller.port with
  | none =>
    have nothing : ((Beat.arrive chunk).apply s).controller = s.controller := by
      simp only [Beat.apply, Station.mapController, hport, Option.map_none]
      rw [← hport]
    rw [nothing]
    refine ⟨h.settled, h.backlog, h.off, h.chunks, fun port hport' => ?_⟩
    cases hport.symm.trans hport'
  | some port =>
    simp only [Beat.apply, Station.mapController, hport, Option.map_some]
    refine ⟨h.settled.withPort _, h.backlog, h.off, ?_, ?_⟩
    · intro other mem
      rcases List.mem_append.1 mem with old | new
      · exact h.chunks other (by simpa [waiting, hport] using old)
      · rw [List.mem_singleton.1 new]
        exact nonempty
    · rintro _ ⟨⟩
      have before := h.foreseen port hport
      simpa [Port.receive, Controller.foreseen] using before

omit [Scalar α] in
/-- A connection that is to stay is left alone by the event loop. -/
theorem Controller.Sturdy.approach (h : s.controller.Sturdy) : s.approach = s := by
  rw [Station.approach, if_pos (h.connected.trans h.desired.symm)]

theorem Controller.Sturdy.update (h : s.controller.Sturdy) (now : α) :
    (s.update now).state.controller.Sturdy ∧
      (s.update now).state.controller.port = s.controller.port := by
  rw [Station.update, h.approach]
  exact ⟨h.of_same rfl rfl rfl, rfl⟩

omit [Scalar α] in
theorem Controller.Sturdy.arrive (h : s.controller.Sturdy) (chunk : Bytes) :
    Controller.Sturdy
      { s.controller with port := s.controller.port.map (·.receive [chunk]) } := by
  obtain ⟨port, hport, sane⟩ := h.port
  exact ⟨h.connected, h.desired, port.receive [chunk], by simp [hport], sane⟩

/-- Every beat keeps what is foreseen. -/
theorem Controller.Listens.listen {history : List (Beat α)}
    (h : Listens end_ ((Beat.arrivals history).flatten ++ ahead) s.controller)
    (noLine : s.controller.hasLine = false)
    (nonempty : ∀ chunk ∈ Beat.arrivals history, chunk ≠ []) :
    Listens end_ ahead (s.listen history).controller ∧
      (s.listen history).controller.hasLine = false ∧
      (s.controller.Sturdy → (s.listen history).controller.Sturdy) := by
  induction history generalizing s with
  | nil => exact ⟨h, noLine, id⟩
  | cons beat rest ih =>
    cases beat with
    | arrive chunk =>
      have front : Beat.arrivals (.arrive chunk :: rest) = chunk :: Beat.arrivals rest := rfl
      rw [front, List.flatten_cons, List.append_assoc] at h
      have here := Controller.Listens.arrive (nonempty chunk (by simp [front])) h
      obtain ⟨listens, noLine, sturdy⟩ := ih here noLine fun other mem =>
        nonempty other (List.mem_cons_of_mem _ mem)
      exact ⟨listens, noLine, fun start => sturdy (start.arrive chunk)⟩
    | pass now =>
      obtain ⟨here, noLine⟩ := h.pass noLine now
      obtain ⟨listens, noLine, sturdy⟩ := ih (s := (Beat.pass now).apply s) here noLine nonempty
      exact ⟨listens, noLine, fun start => sturdy (start.pass h now).1⟩
    | update now =>
      obtain ⟨here, partialLine, -⟩ := h.update now
      have still : (s.update now).state.controller.hasLine = false := by
        rw [Controller.hasLine, partialLine]
        exact noLine
      obtain ⟨listens, noLine, sturdy⟩ := ih here still nonempty
      exact ⟨listens, noLine, fun start => sturdy (start.update now).1⟩

/-- Once everything is read and taken up, what was foreseen is known. -/
theorem Controller.Listens.known_update (h : Listens end_ [] s.controller)
    (noLine : s.controller.hasLine = false) (now : α) {port : Port}
    (hport : (s.update now).state.controller.port = some port) (incoming : port.incoming = []) :
    ((s.update now).state.controller.tracker.known, (s.update now).state.controller.partialLine) =
      end_ := by
  obtain ⟨listens, partialLine, received⟩ := h.update now
  have cut : cutAt? lineBreak (s.update now).state.controller.partialLine = none := by
    rw [partialLine]
    simpa [hasLine, lineEnd, lineBreak, lineFeed] using noLine
  have foreseen := listens.foreseen port hport
  simp only [Controller.foreseen, incoming, received, List.flatten_nil, List.append_nil,
    messages_of_none cut, framing_of_none cut] at foreseen
  exact foreseen

/-- After a pass over a port that does not fail nothing waits there, and a step of the event loop
leaves it so. -/
theorem Controller.Sturdy.drained (h : s.controller.Sturdy)
    (listens : Listens end_ ahead s.controller) (time now : α) : ∃ port,
      (((Beat.pass time).apply s).update now).state.controller.port = some port ∧
        port.incoming = [] := by
  obtain ⟨passed, nothing⟩ := h.pass listens time
  obtain ⟨port, hport, -⟩ := passed.port
  have stays := (Controller.Sturdy.update (s := (Beat.pass time).apply s) passed now).2
  exact ⟨port, stays.trans hport, by simpa [waiting, hport] using nothing⟩

theorem Attentive.listens (attentive : Attentive s) (ahead : Bytes)
    (chunks : ∀ chunk ∈ s.controller.waiting, chunk ≠ []) :
    Listens (s.controller.foreseen (s.controller.waiting.flatten ++ ahead)) ahead s.controller := by
  have settled : s.controller.Settled := .inl ⟨attentive.connected, attentive.port⟩
  refine ⟨settled, ?_, attentive.off, chunks, fun port hport => ?_⟩
  · simp [backlog, attentive.heldBack, attentive.streaming]
  · simp [waiting, hport]

end

theorem Station.listen_append (s : Station α) (history more : List (Beat α)) :
    s.listen (history ++ more) = (s.listen history).listen more := List.foldl_append

theorem Station.listen_update (s : Station α) (history : List (Beat α)) (now : α) :
    s.listen (history ++ [.update now]) = ((s.listen history).update now).state := by
  rw [listen_append]
  rfl

/-- However a stream is cut into chunks, and whenever they are read: a reading loop ends, with
everything read from a port that does not fail; and once nothing waits at the port, a step of the
event loop leaves the tracker knowing what it would know from the lines of the stream, one after
another, with the unfinished line left over.  With a port that does not fail one pass brings that
about. -/
theorem listening_is_framing {s : Station α} (attentive : Attentive s) (history : List (Beat α))
    (nonempty : ∀ chunk ∈ s.controller.waiting ++ Beat.arrivals history, chunk ≠ []) (now : α) :
    let stream := s.controller.partialLine ++
      (s.controller.waiting ++ Beat.arrivals history).flatten
    let direct := s.controller.tracker.receiveAll (s.controller.received ++ messages stream)
    let c := (s.listen (history ++ [.update now])).controller
    Framed stream (framing stream).1 (framing stream).2 ∧
      (∀ before later, history = before ++ later →
        let c := (s.listen before).controller
        c.Healthy → c.readAll.result = .ok () ∧ c.readAll.state.hasLine = false ∧
          c.readAll.state.waiting = []) ∧
      (∀ port, c.port = some port → port.incoming = [] →
        c.tracker.known = direct.known ∧ c.partialLine = (framing stream).2) ∧
      ∀ before time, history = before ++ [.pass time] → s.controller.Sturdy →
        ∃ port, c.port = some port ∧ port.incoming = [] := by
  intro stream direct c
  have chunks : ∀ chunk ∈ s.controller.waiting, chunk ≠ [] := fun chunk mem =>
    nonempty chunk (List.mem_append_left _ mem)
  have arrivals : ∀ chunk ∈ Beat.arrivals history, chunk ≠ [] := fun chunk mem =>
    nonempty chunk (List.mem_append_right _ mem)
  have upTo : ∀ before later, history = before ++ later →
      ∀ chunk ∈ Beat.arrivals before, chunk ≠ [] := by
    rintro before later rfl chunk mem
    refine arrivals chunk ?_
    rw [Beat.arrivals_append]
    exact List.mem_append_left _ mem
  have heard := fun before (nonempty : ∀ chunk ∈ Beat.arrivals before, chunk ≠ []) =>
    Controller.Listens.listen (attentive.listens ((Beat.arrivals before).flatten ++ []) chunks)
      attentive.noLine nonempty
  refine ⟨framing_framed stream, ?_, ?_, ?_⟩
  · intro before later split c healthy
    obtain ⟨listens, -, -⟩ := heard before (upTo before later split)
    exact readAll_ends healthy listens.chunks
  · intro port hport incoming
    obtain ⟨listens, noLine, -⟩ := heard history arrivals
    have run : c = ((s.listen history).update now).state.controller := by
      rw [← Station.listen_update]
    rw [run] at hport ⊢
    have learned := listens.known_update noLine now hport incoming
    rw [List.append_nil, ← List.flatten_append] at learned
    exact Prod.mk.inj learned
  · intro before time split sturdy
    obtain ⟨listens, -, still⟩ := heard before (upTo before _ split)
    have run : c = (((Beat.pass time).apply (s.listen before)).update now).state.controller := by
      show (s.listen (history ++ [.update now])).controller = _
      rw [Station.listen_update, split, Station.listen_append]
      rfl
    rw [run]
    exact (still sturdy).drained listens time now

/-- A connected controller on ordinary numbers that simulates nothing. -/
def listeningStation : Station Float where
  controller :=
    { (Controller.fresh "grbl" false : Controller Float) with
      connection := { label := "grbl", status := .connected, desired := .connected }
      port := some {} }

/-- Cut inside a line end, with an answer that overtakes a report. -/
theorem listening_is_framing_cut :
    let history : List (Beat Float) :=
      [.arrive (Bytes.ofText "<Run|MPos:1.000,2.000,3.000|FS:0,0>\r"), .pass 0,
        .arrive (Bytes.ofText "\nerror:9\r\n"), .arrive (Bytes.ofText "\r\n[MSG"), .pass 1]
    let stream := Bytes.ofText "<Run|MPos:1.000,2.000,3.000|FS:0,0>\r\nerror:9\r\n\r\n[MSG"
    let direct := listeningStation.controller.tracker.receiveAll
      [Bytes.ofText "<Run|MPos:1.000,2.000,3.000|FS:0,0>", Bytes.ofText "error:9"]
    let c := (listeningStation.listen (history ++ [.update 2])).controller
    Attentive listeningStation ∧ listeningStation.controller.Sturdy ∧
      Framed stream [Bytes.ofText "<Run|MPos:1.000,2.000,3.000|FS:0,0>", Bytes.ofText "error:9", []]
        (Bytes.ofText "[MSG") ∧
      c.tracker.known = direct.known ∧ c.partialLine = Bytes.ofText "[MSG" := by
  intro history stream direct c
  have attentive : Attentive listeningStation := ⟨rfl, rfl, rfl, rfl, rfl, by decide +kernel⟩
  have sturdy : listeningStation.controller.Sturdy := ⟨rfl, rfl, {}, rfl, rfl, rfl⟩
  have framed : Framed stream
      [Bytes.ofText "<Run|MPos:1.000,2.000,3.000|FS:0,0>", Bytes.ofText "error:9", []]
      (Bytes.ofText "[MSG") := ⟨by decide +kernel, by decide +kernel, by decide +kernel⟩
  obtain ⟨-, -, final, reads⟩ := listening_is_framing attentive history (by decide +kernel) 2
  have whole : listeningStation.controller.partialLine ++
      (listeningStation.controller.waiting ++ Beat.arrivals history).flatten = stream := by
    decide +kernel
  obtain ⟨port, hport, incoming⟩ := reads (history.take 4) 1 rfl sturdy
  obtain ⟨known, tail⟩ := final port hport incoming
  rw [whole] at known tail
  have taken : messages stream =
      [Bytes.ofText "<Run|MPos:1.000,2.000,3.000|FS:0,0>", Bytes.ofText "error:9"] := by
    rw [messages, framed.eq_framing]
    decide +kernel
  rw [framed.eq_framing] at tail
  rw [taken] at known
  exact ⟨attentive, sturdy, framed, known, tail⟩

end Link

end GcodeSender
