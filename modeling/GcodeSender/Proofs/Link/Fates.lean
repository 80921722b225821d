/-
# `GcodeSender.Proofs.Link.Fates` — what becomes of a line

A line that was sent waits in the backlog, and leaves it from the head.  What
happens to it then depends on where it leaves:

    fate        the line
    written     went out at the port
    tooLong     would not have fitted an empty buffer
    failed      was next when the port did not take it; it is not queued again
    forgotten   was held back when a new conversation began

The first two are how streaming goes (`Streamed`); the other two are losses, and
leave a hole in what the machine is sent.

    Fares c queued written gone c'   from `c` to `c'` lines were queued and
                                     data was written, and lines left the
                                     backlog with the fates `gone`

The relation composes, and asks nothing of the connection: the status may be
any, and the port may be missing or refuse what is written.  `Does.fares` says
that a deed loses nothing; a write that may fail loses one line at most
(`writeStreaming_fares`), and so does the beginning of a conversation
(`confirmOpen_fares`).
-/
import GcodeSender.Proofs.Link.Streaming

namespace GcodeSender

open Scalar Gcode

variable {α : Type} [Scalar α]

/-! ## Sound ledgers -/

/-- The ledger of a buffer of the usual size counts what is pending. -/
structure Ledger.Sound (l : Ledger) : Prop where
  capacity : l.capacity = receiveBufferSize
  balanced : l.Balanced

namespace Ledger.Sound

variable {l : Ledger}

theorem send (h : l.Sound) (command : Bytes) : (l.send command).Sound :=
  ⟨(capacity_send l command).trans h.capacity, h.balanced.send command⟩

theorem answer (h : l.Sound) : l.answer.1.Sound :=
  ⟨(capacity_answer l).trans h.capacity, h.balanced.answer⟩

theorem clear (h : l.Sound) : l.clear.Sound := ⟨h.capacity, rfl⟩

theorem register {t : Tracker α} (h : t.ledger.Sound) (now : α) (command : Bytes) :
    (t.register now command).state.ledger.Sound := by
  rw [(Tracker.register_account now command t).1]
  exact h.send command

theorem receive {t : Tracker α} (h : t.ledger.Sound) (message : Bytes) :
    (t.receive message).ledger.Sound := by
  rcases Tracker.ledger_receive message t with answered | same
  · rw [answered]
    exact h.answer
  · rw [same]
    exact h

theorem receiveAll {t : Tracker α} (h : t.ledger.Sound) (messages : List Bytes) :
    (messages.foldl (fun t message => t.receive message) t).ledger.Sound := by
  induction messages generalizing t with
  | nil => exact h
  | cons message rest ih => exact ih (h.receive message)

end Ledger.Sound

namespace Link

/-! ## Lines and their fates -/

/-- Does a newline end it?  Then it is a line, and not a byte that is acted on as it arrives. -/
def isLine (data : Bytes) : Bool := decide (data.getLast? = some 0x0A)

theorem isLine_append_newline (text : Bytes) : isLine (text ++ newline) = true := by
  simp [isLine, newline]

theorem not_isLine_of_isRealtime {data : Bytes} (h : isRealtime data = true) :
    isLine data = false := by
  simp only [isRealtime, Bool.or_eq_true, decide_eq_true_eq] at h
  rcases h with rfl | rfl <;> rfl

theorem not_isRealtime_of_isLine {data : Bytes} (h : isLine data = true) :
    isRealtime data = false := by
  cases realtime : isRealtime data with
  | false => rfl
  | true => exact absurd h (by simp [not_isLine_of_isRealtime realtime])

/-- What becomes of a line that leaves the backlog. -/
inductive Fate where
  | written
  | tooLong
  | failed
  | forgotten
  deriving DecidableEq, Repr

/-- Is the line lost, although it would have fitted? -/
def Fate.isLoss : Fate → Bool
  | .written | .tooLong => false
  | .failed | .forgotten => true

/-- The lines that had one fate. -/
def withFate (fate : Fate) (gone : List (Bytes × Fate)) : List Bytes :=
  (gone.filter fun x => x.2 = fate).map Prod.fst

/-- How many lines were lost. -/
def losses (gone : List (Bytes × Fate)) : Nat := gone.countP (·.2.isLoss)

@[simp] theorem withFate_append (fate : Fate) (gone gone' : List (Bytes × Fate)) :
    withFate fate (gone ++ gone') = withFate fate gone ++ withFate fate gone' := by
  simp [withFate]

@[simp] theorem losses_append (gone gone' : List (Bytes × Fate)) :
    losses (gone ++ gone') = losses gone + losses gone' := List.countP_append

/-- A line that is written fits an empty buffer, and one that is too long does not. -/
def Apt (x : Bytes × Fate) : Prop :=
  (x.2 = .written → isShort x.1 = true) ∧ (x.2 = .tooLong → isShort x.1 = false)

theorem Apt.of_isLoss {line : Bytes} {fate : Fate} (lost : fate.isLoss = true) :
    Apt (line, fate) := by
  cases fate with
  | written | tooLong => cases lost
  | failed | forgotten => simp [Apt]

/-- Where nothing was lost, the lines written are the short ones. -/
theorem withFate_written {gone : List (Bytes × Fate)} (apt : ∀ x ∈ gone, Apt x)
    (nothing : losses gone = 0) : withFate .written gone = (gone.map Prod.fst).filter isShort := by
  induction gone with
  | nil => rfl
  | cons x rest ih =>
    obtain ⟨line, fate⟩ := x
    obtain ⟨written, long⟩ := apt (line, fate) List.mem_cons_self
    have later := ih fun y mem => apt y (List.mem_cons_of_mem _ mem)
    cases fate with
    | written =>
      have later := later (by simpa [losses, Fate.isLoss] using nothing)
      simpa [withFate, written rfl] using later
    | tooLong =>
      have later := later (by simpa [losses, Fate.isLoss] using nothing)
      simpa [withFate, long rfl] using later
    | failed => simp [losses, Fate.isLoss] at nothing
    | forgotten => simp [losses, Fate.isLoss] at nothing

namespace Controller

variable {c c' c'' : Controller α} {queued queued' written written' : List Bytes}
  {gone gone' : List (Bytes × Fate)}

omit [Scalar α] in
/-- What streaming relies on: a sound ledger, and each queue holding what belongs there. -/
structure Orderly (c : Controller α) : Prop where
  ledger : c.tracker.ledger.Sound
  lines : ∀ line ∈ c.backlog, isLine line = true
  urgent : ∀ byte ∈ c.immediate, isLine byte = false

omit [Scalar α] in
/-- Lines were queued and data was written, and lines left the backlog at its head. -/
structure Fares (c : Controller α) (queued written : List Bytes) (gone : List (Bytes × Fate))
    (c' : Controller α) : Prop where
  orderly : c'.Orderly
  backlog : c.backlog ++ queued = gone.map Prod.fst ++ c'.backlog
  outgoing : c'.outgoing = c.outgoing ++ written
  written : written.filter isLine = withFate .written gone
  apt : ∀ x ∈ gone, Apt x

namespace Fares

omit [Scalar α] in
theorem refl (h : c.Orderly) : Fares c [] [] [] c :=
  ⟨h, by simp, by simp, rfl, List.forall_mem_nil _⟩

omit [Scalar α] in
theorem trans (h : Fares c queued written gone c') (h' : Fares c' queued' written' gone' c'') :
    Fares c (queued ++ queued') (written ++ written') (gone ++ gone') c'' where
  orderly := h'.orderly
  backlog := by
    rw [← List.append_assoc, h.backlog, List.append_assoc, h'.backlog, List.map_append,
      List.append_assoc]
  outgoing := by rw [h'.outgoing, h.outgoing, List.append_assoc]
  written := by rw [List.filter_append, h.written, h'.written, withFate_append]
  apt x mem := by
    rcases List.mem_append.1 mem with old | new
    · exact h.apt x old
    · exact h'.apt x new

omit [Scalar α] in
/-- The backlog is as it was, and no line was written. -/
theorem of_backlog (h : c.Orderly) (backlog : c'.backlog = c.backlog)
    (urgent : c'.immediate ⊆ c.immediate) (ledger : c'.tracker.ledger.Sound)
    (outgoing : c'.outgoing = c.outgoing ++ written) (bytes : written.filter isLine = []) :
    Fares c [] written [] c' where
  orderly := ⟨ledger, backlog ▸ h.lines, fun byte mem => h.urgent byte (urgent mem)⟩
  backlog := by simp [backlog]
  outgoing := outgoing
  written := bytes
  apt := List.forall_mem_nil _

omit [Scalar α] in
/-- Nothing that concerns lines has changed. -/
theorem of_same (h : c.Orderly) (backlog : c'.backlog = c.backlog)
    (immediate : c'.immediate = c.immediate) (ledger : c'.tracker.ledger = c.tracker.ledger)
    (outgoing : c'.outgoing = c.outgoing) : Fares c [] [] [] c' :=
  .of_backlog h backlog (immediate ▸ List.Subset.refl _) (ledger ▸ h.ledger)
    (by rw [outgoing, List.append_nil]) rfl

end Fares

/-! ## Deeds lose nothing -/

theorem Accepted.fares {piece : Bytes} (accepted : Accepted piece c c') (h : c.Orderly) :
    Fares c [] [] [] c' := by
  have outgoing := accepted.outgoing
  cases accepted with
  | unfinished _ => exact .of_same h rfl rfl rfl outgoing
  | blank _ _ => exact .of_same h rfl rfl rfl outgoing
  | other _ _ => exact .of_same h rfl rfl rfl outgoing
  | @answer line rest _ _ =>
    exact .of_backlog h rfl (List.Subset.refl _) (h.ledger.receive line.trim) (by simp [outgoing])
      rfl

omit [Scalar α] in
/-- The line that is next leaves the backlog. -/
theorem Orderly.next (h : c.Orderly) {line : Bytes} {left : Controller α}
    (next : c.nextLine? = some (line, left)) : isLine line = true ∧ left.Orderly := by
  obtain ⟨backlog, frame, -⟩ := nextLine?_eq next
  have lines : ∀ l ∈ line :: left.backlog, isLine l = true := backlog ▸ h.lines
  refine ⟨lines line List.mem_cons_self, ?_, fun l mem => lines l (List.mem_cons_of_mem _ mem), ?_⟩
  · rw [frame]
    exact h.ledger
  · rw [frame]
    exact h.urgent

omit [Scalar α] in
/-- The next line leaves the backlog with a fate. -/
theorem Fares.of_next (h : c.Orderly) {line : Bytes} {left : Controller α}
    (next : c.nextLine? = some (line, left)) {fate : Fate} (apt : Apt (line, fate))
    (backlog : c'.backlog = left.backlog) (immediate : c'.immediate = c.immediate)
    (ledger : c'.tracker.ledger.Sound)
    (outgoing : c'.outgoing = c.outgoing ++ withFate .written [(line, fate)]) :
    Fares c [] (withFate .written [(line, fate)]) [(line, fate)] c' where
  orderly := ⟨ledger, backlog ▸ (h.next next).2.lines, immediate ▸ h.urgent⟩
  backlog := by rw [(nextLine?_eq next).1, backlog, List.append_nil]; rfl
  outgoing := outgoing
  written := by
    cases fate <;> simp [withFate, (h.next next).1]
  apt x mem := by rwa [List.mem_singleton.1 mem]

/-- What leaves the backlog in a deed was written or is too long. -/
theorem Does.fares (deed : Does c queued written c') (h : c.Orderly) :
    ∃ gone, Fares c queued written gone c' ∧ losses gone = 0 := by
  have outgoing := deed.outgoing
  cases deed with
  | aside connection lastQuery thread _ => exact ⟨[], .of_same h rfl rfl rfl rfl, rfl⟩
  | @queue command line text =>
    refine ⟨[], ⟨⟨h.ledger, fun l mem => ?_, h.urgent⟩, (backlog_queue c _).symm, outgoing, rfl,
      List.forall_mem_nil _⟩, rfl⟩
    rw [backlog_queue] at mem
    rcases List.mem_append.1 mem with old | new
    · exact h.lines l old
    · rw [List.mem_singleton.1 new]
      exact isLine_append_newline _
  | @urge byte realtime =>
    refine ⟨[], ⟨⟨h.ledger, h.lines, fun b mem => ?_⟩, by simp [backlog], outgoing, rfl,
      List.forall_mem_nil _⟩, rfl⟩
    rcases List.mem_append.1 mem with old | new
    · exact h.urgent b old
    · rw [List.mem_singleton.1 new]
      exact not_isLine_of_isRealtime realtime
  | @hear chunk rest port hport incoming =>
    have read : Fares c [] [] [] { c with port := some { port with incoming := rest } } :=
      .of_same h rfl rfl rfl (by simp [Controller.outgoing, hport])
    exact ⟨[], read.trans ((accept_accepted chunk _).fares read.orderly), rfl⟩
  | settle => exact ⟨[], (accept_accepted [] c).fares h, rfl⟩
  | @writeByte now byte rest port immediate hport =>
    have notLine : isLine byte = false := h.urgent byte (by simp [immediate])
    have popped : rest ⊆ c.immediate := immediate ▸ List.subset_cons_self _ _
    exact ⟨[], .of_backlog h rfl popped (h.ledger.register now byte) outgoing (by simp [notLine]),
      rfl⟩
  | @writeLine now line left port next fits hport =>
    obtain ⟨-, frame, -⟩ := nextLine?_eq next
    have short : isShort line = true := by
      have fit := (h.ledger.balanced.fits (not_isRealtime_of_isLine (h.next next).1) fits).1
      rw [h.ledger.capacity] at fit
      simpa [isShort] using fit
    have apt : Apt (line, .written) := by simp [Apt, short]
    exact ⟨[(line, .written)], .of_next h next apt rfl (by rw [frame]; rfl)
      (h.ledger.register now line) outgoing, rfl⟩
  | @hold line left next overflows pending =>
    obtain ⟨-, frame, -⟩ := nextLine?_eq next
    refine ⟨[], .of_same h (backlog_hold next) (by rw [frame]) (by rw [frame]) ?_, rfl⟩
    simpa using outgoing
  | @drop line left next overflows empty =>
    obtain ⟨-, frame, -⟩ := nextLine?_eq next
    have long : isShort line = false := by
      have long := h.ledger.balanced.long_of_overflow empty overflows
      rw [h.ledger.capacity] at long
      simpa [isShort] using long
    have apt : Apt (line, .tooLong) := by simp [Apt, long]
    exact ⟨[(line, .tooLong)], .of_next h next apt rfl (by rw [frame])
      (by rw [frame]; exact h.ledger) outgoing, rfl⟩
  | takeUp =>
    have heard := h.ledger.receiveAll c.received
    exact ⟨[], .of_backlog h rfl (List.Subset.refl _) heard outgoing rfl, rfl⟩
  | play now =>
    have same := (Tracker.update_account now c.tracker).1
    exact ⟨[], .of_same h rfl rfl same (by simpa using outgoing), rfl⟩
  | @close port hport => exact ⟨[], .of_same h rfl rfl rfl (by simpa using outgoing), rfl⟩
  | lose away nothing => exact ⟨[], .of_same h rfl rfl rfl (by simpa using outgoing), rfl⟩

theorem Runs.fares (runs : Runs c queued written c') (h : c.Orderly) :
    ∃ gone, Fares c queued written gone c' ∧ losses gone = 0 := by
  induction runs with
  | refl => exact ⟨[], .refl h, rfl⟩
  | step _ last ih =>
    obtain ⟨gone, before, nothing⟩ := ih
    obtain ⟨gone', after, nothing'⟩ := last.fares before.orderly
    exact ⟨gone ++ gone', before.trans after, by rw [losses_append, nothing, nothing']⟩

/-! ## Writes that may fail -/

omit [Scalar α] in
/-- Does the port take what is written? -/
def takes (c : Controller α) : Bool :=
  match c.port with
  | none => false
  | some port => port.writeFault.isNone

omit [Scalar α] in
/-- A write goes out at the port, or changes nothing that concerns lines; it goes out exactly if the
port takes it. -/
theorem write_cases (c : Controller α) (data : Bytes) :
    (∃ port, c.port = some port ∧ c.takes = true ∧ c.write data =
        ({ c with port := some { port with written := port.written ++ [data] } }, true)) ∨
      c.takes = false ∧ ∃ connection, c.write data = ({ c with connection }, false) := by
  cases hport : c.port with
  | none =>
    refine .inr ⟨by simp [takes, hport], c.connection.setStatus .fail, ?_⟩
    simp only [write, hport, setStatus, mapConnection]
  | some port =>
    cases fault : port.writeFault with
    | none => exact .inl ⟨port, rfl, by simp [takes, hport, fault], write_eq hport fault data⟩
    | some message =>
      refine .inr ⟨by simp [takes, hport, fault], (c.fail "Write failed on" message).connection, ?_⟩
      simp only [write, hport, fault, fail, setStatus, logText, mapConnection]

omit [Scalar α] in
theorem status_of_write_failed (c : Controller α) (data : Bytes)
    (failed : (c.write data).2 = false) : (c.write data).1.status = .fail := by
  rw [write] at failed ⊢
  split at failed
  · exact status_setStatus _ _
  · split at failed
    · exact status_setStatus _ _
    · cases failed

/-- A realtime byte concerns no line, whether the port takes it or not. -/
theorem writeImmediate_fares (h : c.Orderly) (now : α) :
    (∃ written, Fares c [] written [] (c.writeImmediate now).state) ∧
      (c.takes = true → (c.writeImmediate now).result = .ok false →
        (c.writeImmediate now).state = c) := by
  cases himmediate : c.immediate with
  | nil =>
    have nothing : c.writeImmediate now = .done c false := by
      simp only [writeImmediate, himmediate]
    rw [nothing]
    exact ⟨⟨[], .refl h⟩, fun _ _ => rfl⟩
  | cons byte rest =>
    have notLine : isLine byte = false := h.urgent byte (by simp [himmediate])
    have popped : rest ⊆ c.immediate := himmediate ▸ List.subset_cons_self _ _
    rcases write_cases { c with immediate := rest } byte with
      ⟨port, hport, -, wrote⟩ | ⟨refuses, connection, wrote⟩
    · have outgoing : ∀ t : Tracker α, outgoing (adopt
          { c with
            immediate := rest
            port := some { port with written := port.written ++ [byte] } } t) =
          c.outgoing ++ [byte] := fun t => by
        simp [Controller.outgoing, adopt, show c.port = some port from hport]
      simp only [writeImmediate, himmediate, wrote]
      split
      next realtime =>
        refine ⟨⟨[byte], .of_backlog h rfl popped (h.ledger.register now byte) (outgoing _)
          (by simp [notLine])⟩, fun _ refused => ?_⟩
        -- the result is `true`, or a fault of the tracker
        simp only [Step.mapResult, adoptStep, Step.mapState] at refused
        cases hresult : (c.tracker.register now byte).result with
        | ok _ => simp [hresult, Except.map] at refused
        | error _ => simp [hresult, Except.map] at refused
      next =>
        refine ⟨⟨[byte], .of_backlog h rfl popped h.ledger (outgoing c.tracker)
          (by simp [notLine])⟩, fun _ refused => ?_⟩
        cases refused
    · simp only [writeImmediate, himmediate, wrote]
      refine ⟨⟨[], .of_backlog h rfl popped h.ledger (List.append_nil _).symm rfl⟩, fun takes => ?_⟩
      cases takes.symm.trans refuses

/-- The next line is a deed, or is lost with the port. -/
theorem writeStreaming_cases (now : α) (c : Controller α) :
    (∃ written, Runs c [] written (c.writeStreaming now).state) ∨
      c.takes = false ∧ ∃ line left connection, c.nextLine? = some (line, left) ∧
        connection.status = .fail ∧
          c.writeStreaming now = .done { left with connection } false := by
  cases hnext : c.nextLine? with
  | none =>
    simp only [writeStreaming, hnext]
    exact .inl ⟨[], .refl c⟩
  | some taken =>
    obtain ⟨line, left⟩ := taken
    obtain ⟨-, frame, -⟩ := nextLine?_eq hnext
    have tracker : left.tracker = c.tracker := by rw [frame]
    have takes : left.takes = c.takes := by rw [frame]; rfl
    simp only [writeStreaming, hnext]
    split
    next overflows =>
      rw [tracker] at overflows
      split
      next empty =>
        rw [tracker] at empty
        have dropped := Does.drop hnext overflows (List.isEmpty_iff.1 empty)
        exact .inl ⟨[], dropped.runs.trans (does_logText _ _ _).runs⟩
      next pending =>
        rw [tracker] at pending
        have held := Does.hold hnext overflows fun empty => pending (List.isEmpty_iff.2 empty)
        exact .inl ⟨[], held.runs⟩
    next fits =>
      rw [tracker] at fits
      rcases write_cases left line with ⟨port, hport, -, wrote⟩ | ⟨refuses, connection, wrote⟩
      · have told : left.tracker.register now line = c.tracker.register now line := by rw [tracker]
        have there : c.port = some port := by rw [← hport, frame]
        simp only [wrote, told]
        exact .inl ⟨[line], (Does.writeLine now hnext (Bool.eq_false_iff.2 fits) there).runs⟩
      · have failed := status_of_write_failed left line (by rw [wrote])
        rw [wrote] at failed
        simp only [wrote]
        exact .inr ⟨takes ▸ refuses, line, left, connection, rfl, failed, rfl⟩

/-- The next line: where the port takes what is written, nothing is lost, and else one line. -/
theorem writeStreaming_fares (h : c.Orderly) (now : α) :
    ∃ written gone, Fares c [] written gone (c.writeStreaming now).state ∧
      losses gone ≤ (!c.takes).toNat := by
  rcases writeStreaming_cases now c with
    ⟨written, runs⟩ | ⟨refuses, line, left, connection, next, -, failed⟩
  · -- deeds lose nothing, whatever the port is like
    obtain ⟨gone, fares, nothing⟩ := runs.fares h
    exact ⟨written, gone, fares, nothing ▸ Nat.zero_le _⟩
  · obtain ⟨-, frame, -⟩ := nextLine?_eq next
    have apt : Apt (line, .failed) := .of_isLoss rfl
    rw [failed]
    refine ⟨[], [(line, .failed)], .of_next h next apt rfl (by rw [frame]; rfl) ?_ ?_, ?_⟩
    · rw [frame]
      exact h.ledger
    · rw [frame]
      exact (List.append_nil _).symm
    · rw [refuses]
      exact Nat.le_refl 1

theorem writeNext_fares (h : c.Orderly) (now : α) :
    ∃ written gone, Fares c [] written gone (c.writeNext now).state ∧
      losses gone ≤ (!c.takes).toNat := by
  obtain ⟨⟨written, byte⟩, stays⟩ := writeImmediate_fares h now
  simp only [writeNext, Step.andThen]
  generalize c.writeImmediate now = urgent at byte stays ⊢
  obtain ⟨c', result⟩ := urgent
  have alone : ∃ written gone, Fares c [] written gone c' ∧ losses gone ≤ (!c.takes).toNat :=
    ⟨written, [], byte, Nat.zero_le _⟩
  cases result with
  | error fault => exact alone
  | ok wrote =>
    cases wrote with
    | true => exact alone
    | false =>
      obtain ⟨written', gone, line, lost⟩ := writeStreaming_fares byte.orderly now
      refine ⟨written ++ written', gone, byte.trans line, Nat.le_trans lost ?_⟩
      cases takes : c.takes with
      | true =>
        obtain rfl : c' = c := stays takes rfl
        simp [takes]
      | false => exact Bool.toNat_le _

/-! ## A pass -/

omit [Scalar α] in
theorem takes_eq_true {c : Controller α} (h : c.takes = true) :
    ∃ port, c.port = some port ∧ port.writeFault = none := by
  cases hport : c.port with
  | none => simp [takes, hport] at h
  | some port => exact ⟨port, rfl, by simpa [takes, hport] using h⟩

/-- A deed does not make a port refuse what is written. -/
theorem Does.unjammed (deed : Does c queued written c')
    (h : ∀ port, c.port = some port → port.writeFault = none) :
    ∀ port, c'.port = some port → port.writeFault = none := by
  have changed : ∀ {port port' : Port}, c.port = some port → port'.writeFault = port.writeFault →
      ∀ p, some port' = some p → p.writeFault = none := by
    intro port port' hport same p hp
    cases hp
    exact same.trans (h port hport)
  cases deed with
  | hear hport _ => rw [(accept_accepted _ _).port]; exact changed hport rfl
  | settle => rw [(accept_accepted _ _).port]; exact h
  | writeByte _ _ hport => exact changed hport rfl
  | writeLine _ _ _ hport => exact changed hport rfl
  | hold next _ _ => rw [(nextLine?_eq next).2.1]; exact h
  | drop next _ _ => rw [(nextLine?_eq next).2.1]; exact h
  | @close port hport =>
    exact changed hport port.close_writeFault
  | lose _ _ =>
    intro port gone
    cases gone
  | aside | queue | urge | takeUp | play => exact h

theorem Runs.unjammed (runs : Runs c queued written c')
    (h : ∀ port, c.port = some port → port.writeFault = none) :
    ∀ port, c'.port = some port → port.writeFault = none := by
  induction runs with
  | refl => exact h
  | step _ last ih => exact last.unjammed ih

theorem takes_readAll (h : c.takes = true) : c.readAll.state.takes = true := by
  obtain ⟨port, hport, unjammed⟩ := takes_eq_true h
  obtain ⟨runs, there⟩ := readAll_runs c
  rw [hport] at there
  obtain ⟨port', hport'⟩ := Option.isSome_iff_exists.1 there
  have unjammed' : port'.writeFault = none := by
    refine runs.unjammed (fun p hp => ?_) port' hport'
    cases hport.symm.trans hp
    exact unjammed
  simp [takes, hport', unjammed']

/-- A pass loses one line at most, and nothing where the port takes what is written. -/
theorem pass_fares (h : c.Orderly) (now : α) :
    ∃ written gone, Fares c [] written gone (c.pass now).state ∧
      losses gone ≤ (decide (c.status = .connected) && !c.takes).toNat := by
  by_cases connected : c.status = .connected
  · have kept := takes_readAll (c := c)
    obtain ⟨earlier, read, nothing⟩ := (readAll_runs c).1.fares h
    simp only [pass, connected, decide_true, Bool.true_and, if_true]
    generalize c.readAll = reading at read kept ⊢
    obtain ⟨c', result⟩ := reading
    cases result with
    | error fault => exact ⟨_, _, read, nothing ▸ Nat.zero_le _⟩
    | ok _ =>
      obtain ⟨written, gone, wrote, lost⟩ := writeNext_fares read.orderly now
      have within : losses gone ≤ (!c.takes).toNat := by
        refine Nat.le_trans lost ?_
        cases takes : c.takes with
        | true => simp [kept takes]
        | false => exact Bool.toNat_le _
      have both := read.trans wrote
      simp only [Step.andThen]
      generalize c'.writeNext now = writing at both ⊢
      obtain ⟨c'', result⟩ := writing
      have total : losses (earlier ++ gone) ≤ (!c.takes).toNat := by
        rw [losses_append, nothing, Nat.zero_add]
        exact within
      cases result with
      | error fault => exact ⟨_, _, both, total⟩
      | ok _ =>
        obtain ⟨_, asked, nothing'⟩ := (query_runs now c'').fares both.orderly
        refine ⟨_, _, both.trans asked, ?_⟩
        rw [losses_append, nothing', Nat.add_zero]
        exact total
  · rw [pass, if_neg connected]
    exact ⟨[], [], .refl h, Nat.zero_le _⟩

/-! ## A new conversation -/

omit [Scalar α] in
/-- Does a conversation begin when the port is confirmed open? -/
def opening (c : Controller α) : Bool := (c.port.map (·.isOpen)).getD false

/-- The line that a conversation begins with. -/
def greeting : Bytes := reportMachinePosition.trim ++ newline

omit [Scalar α] in
theorem send_greeting (c : Controller α) :
    c.send reportMachinePosition = { c with streaming := c.streaming ++ [greeting] } := by
  have line : isRealtime reportMachinePosition = false := by decide +kernel
  have text : reportMachinePosition.trim.isEmpty = false := by decide +kernel
  simp only [send, line, text, Bool.false_eq_true, if_false, greeting]

omit [Scalar α] in
/-- The line held back is forgotten, the greeting and the soft reset are queued, and the ledger is
cleared. -/
theorem beginConversation_eq (c : Controller α) :
    c.beginConversation.backlog = c.streaming ++ [greeting] ∧
      c.beginConversation.immediate = c.immediate ++ [[softReset]] ∧
      c.beginConversation.tracker.ledger = c.tracker.ledger.clear ∧
      c.beginConversation.port = c.port := by
  rw [beginConversation, send_greeting]
  exact ⟨rfl, rfl, rfl, rfl⟩

/-- The fate of a line that is held back when a conversation begins. -/
def forgotten (c : Controller α) : List (Bytes × Fate) :=
  c.heldBack.toList.map fun line => (line, .forgotten)

omit [Scalar α] in
theorem losses_forgotten (c : Controller α) : losses c.forgotten = c.heldBack.isSome.toNat := by
  cases held : c.heldBack <;> simp [forgotten, held, losses, Fate.isLoss]

omit [Scalar α] in
theorem beginConversation_fares (h : c.Orderly) :
    Fares c [greeting] [] c.forgotten c.beginConversation := by
  obtain ⟨backlog, immediate, ledger, port⟩ := beginConversation_eq c
  refine ⟨⟨ledger ▸ h.ledger.clear, fun line mem => ?_, fun byte mem => ?_⟩, ?_, ?_, ?_,
    fun x mem => ?_⟩
  · rw [backlog] at mem
    rcases List.mem_append.1 mem with old | new
    · exact h.lines line (List.mem_append_right _ old)
    · rw [List.mem_singleton.1 new]
      exact isLine_append_newline _
  · rw [immediate] at mem
    rcases List.mem_append.1 mem with old | new
    · exact h.urgent byte old
    · rw [List.mem_singleton.1 new]
      rfl
  · rw [backlog]
    cases held : c.heldBack <;> simp [Controller.backlog, forgotten, held]
  · simp [Controller.outgoing, port]
  · cases held : c.heldBack <;> simp [forgotten, withFate, held]
  · obtain ⟨line, -, rfl⟩ := List.mem_map.1 mem
    exact .of_isLoss rfl

omit [Scalar α] in
/-- What confirming a port open comes to: as far as lines go nothing, or a new conversation. -/
theorem confirmOpen_fares (h : c.Orderly) :
    Fares c (if c.opening then [greeting] else []) [] (if c.opening then c.forgotten else [])
      c.confirmOpen := by
  cases hport : c.port with
  | none =>
    have closed : c.opening = false := by simp [opening, hport]
    simp only [confirmOpen, hport, closed, Bool.false_eq_true, if_false]
    exact .of_same h rfl rfl rfl rfl
  | some port =>
    cases isOpen : port.isOpen with
    | false =>
      have closed : c.opening = false := by simp [opening, hport, isOpen]
      simp only [confirmOpen, hport, isOpen, closed, Bool.false_eq_true, if_false]
      exact .refl h
    | true =>
      have opens : c.opening = true := by simp [opening, hport, isOpen]
      have begun := beginConversation_fares h
      have there : c.beginConversation.port = some port :=
        (beginConversation_eq c).2.2.2.trans hport
      have connects : Fares c.beginConversation [] [] [] c.confirmOpen := by
        have outgoing : c.beginConversation.outgoing = port.written := by
          simp [Controller.outgoing, there]
        simp only [confirmOpen, hport, isOpen, if_true, startThread]
        split <;> exact .of_same begun.orderly rfl rfl rfl outgoing.symm
      simpa [opens] using begun.trans connects

end Controller

end Link

end GcodeSender
