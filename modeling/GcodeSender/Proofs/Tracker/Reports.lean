/-
# `GcodeSender.Proofs.Tracker.Reports` — a status report says where the machine is and what it does

A status report is a token, perhaps with a sub-state, three coordinates, and
fields that are not followed:

    <Hold:0|MPos:1.500,-2.000,3.250|FS:600,0|WCO:7.000,8.000,9.000>
     ~~~~        ~~~~~~~~~~~~~~~~~~
     run state   position

Its shape, its triple and its token are searched for apart from each other.
That the three searches meet in one report:

    isStatusReport_text   the shape is there
    firstTriple?_text     the first triple is the one behind `MPos:`
    stateToken_text       the token is the one in front

What has another shape says nothing (`isStatusReport_iff`).  And whatever it
says, a message that is no answer touches nothing else (`Reported`): the lines
that wait for their answers stay, and so does the motion in flight.
-/
import GcodeSender.Proofs.Tracker.Messages
import GcodeSender.Proofs.Text.Wire

namespace GcodeSender

open Scalar

namespace Report

/-! ## The shape of a status report -/

/-- Somewhere in a text stand `<`, a capital and a small letter, and behind them a `>` on the same
line. -/
def HasReport (s : Bytes) : Prop :=
  ∃ before capital small between after,
    s = before ++ 0x3C :: capital :: small :: (between ++ 0x3E :: after) ∧
      isCapital capital = true ∧ isSmall small = true ∧ Bytes.lineFeed ∉ between

theorem closesOnLine_iff {s : Bytes} : closesOnLine s = true ↔
    ∃ between after, s = between ++ 0x3E :: after ∧ Bytes.lineFeed ∉ between := by
  rw [closesOnLine, List.contains_iff_mem]
  constructor
  · intro closes
    obtain ⟨between, behind, line⟩ := List.append_of_mem closes
    refine ⟨between, behind ++ s.dropWhile (· != 0x0A), ?_, fun newline => ?_⟩
    · rw [← List.cons_append, ← List.append_assoc, ← line, List.takeWhile_append_dropWhile]
    · have inLine : Bytes.lineFeed ∈ s.takeWhile (· != 0x0A) :=
        line ▸ List.mem_append_left _ newline
      exact absurd (List.mem_takeWhile_imp inLine) (by decide)
  · rintro ⟨between, after, rfl, single⟩
    have line : ∀ b ∈ between ++ [0x3E], (b != 0x0A) = true := by
      intro b mem
      rcases List.mem_append.1 mem with inside | last
      · refine bne_iff_ne.2 ?_
        rintro rfl
        exact single inside
      · rw [List.mem_singleton.1 last]
        decide
    rw [← List.singleton_append, ← List.append_assoc, List.takeWhile_append_of_pos line]
    simp

theorem beginsReport_iff {s : Bytes} : beginsReport s = true ↔
    ∃ capital small between after,
      s = 0x3C :: capital :: small :: (between ++ 0x3E :: after) ∧
        isCapital capital = true ∧ isSmall small = true ∧ Bytes.lineFeed ∉ between := by
  constructor
  · intro begins
    unfold beginsReport at begins
    split at begins
    next capital small rest =>
      simp only [Bool.and_eq_true] at begins
      obtain ⟨⟨isCapital, isSmall⟩, closes⟩ := begins
      obtain ⟨between, after, rfl, single⟩ := closesOnLine_iff.1 closes
      exact ⟨capital, small, between, after, rfl, isCapital, isSmall, single⟩
    next => cases begins
  · rintro ⟨capital, small, between, after, rfl, isCapital, isSmall, single⟩
    have closes := closesOnLine_iff.2 ⟨between, after, rfl, single⟩
    simp only [beginsReport, isCapital, isSmall, closes, Bool.and_self]

theorem isStatusReport_iff {s : Bytes} : isStatusReport s = true ↔ HasReport s := by
  induction s with
  | nil =>
    refine ⟨nofun, ?_⟩
    rintro ⟨before, capital, small, between, after, nothing, -⟩
    simp at nothing
  | cons b rest ih =>
    rw [isStatusReport, Bool.or_eq_true, beginsReport_iff, ih]
    constructor
    · rintro (⟨capital, small, between, after, here, shape⟩ |
        ⟨before, capital, small, between, after, later, shape⟩)
      · exact ⟨[], capital, small, between, after, here, shape⟩
      · exact ⟨b :: before, capital, small, between, after, by rw [later, List.cons_append], shape⟩
    · rintro ⟨before, capital, small, between, after, whole, shape⟩
      cases before with
      | nil => exact .inl ⟨capital, small, between, after, whole, shape⟩
      | cons b' before =>
        obtain ⟨rfl, later⟩ := List.cons.inj whole
        exact .inr ⟨before, capital, small, between, after, later, shape⟩

/-! ## A status report as it is written -/

/-- The name of a state: a capital and small letters. -/
def isName : Bytes → Bool
  | capital :: first :: rest => isCapital capital && (first :: rest).all isSmall
  | _ => false

theorem isName_iff {s : Bytes} : isName s = true ↔
    ∃ capital first rest, s = capital :: first :: rest ∧ isCapital capital = true ∧
      isSmall first = true ∧ ∀ b ∈ rest, isSmall b = true := by
  constructor
  · intro name
    unfold isName at name
    split at name
    next capital first rest =>
      simp only [Bool.and_eq_true, List.all_cons, List.all_eq_true] at name
      exact ⟨capital, first, rest, rfl, name.1, name.2.1, name.2.2⟩
    next => cases name
  · rintro ⟨capital, first, rest, rfl, isCapital, isSmall, small⟩
    simp only [isName, isCapital, isSmall, List.all_cons, Bool.true_and]
    exact List.all_eq_true.2 small

/-- The bytes of a name are letters. -/
theorem le_of_mem_isName {s : Bytes} (name : isName s = true) {b : UInt8} (mem : b ∈ s) :
    0x41 ≤ b ∧ b ≤ 0x7A := by
  obtain ⟨capital, first, rest, rfl, isCapital, isSmall, small⟩ := isName_iff.1 name
  have letter : Report.isCapital b = true ∨ Report.isSmall b = true := by
    rcases List.mem_cons.1 mem with rfl | mem
    · exact .inl isCapital
    · rcases List.mem_cons.1 mem with rfl | mem
      · exact .inr isSmall
      · exact .inr (small b mem)
  simp only [Report.isCapital, Report.isSmall, Bool.and_eq_true, decide_eq_true_eq] at letter
  rcases letter with ⟨low, high⟩ | ⟨low, high⟩
  · exact ⟨low, UInt8.le_trans high (by decide)⟩
  · exact ⟨UInt8.le_trans (by decide) low, high⟩

/-- A status report: a token, perhaps a sub-state in figures, a position, and further fields
without line feeds. -/
structure StatusReport where
  token : Bytes
  subState : Option Bytes := none
  x : Coordinate
  y : Coordinate
  z : Coordinate
  fields : List Bytes := []
  token_name : isName token = true
  subState_figures : (subState.getD []).all isFigure = true
  fields_single : fields.all (!·.contains Bytes.lineFeed) = true

namespace StatusReport

/-- The sub-state, with the colon in front. -/
def colon (r : StatusReport) : Bytes := (r.subState.map (0x3A :: ·)).getD []

/-- What a report begins with, up to the colon in front of the position. -/
def head (r : StatusReport) : Bytes :=
  0x3C :: (r.token ++ (r.colon ++ [0x7C, 0x4D, 0x50, 0x6F, 0x73]))

/-- What follows the position in a report. -/
def rest (r : StatusReport) : Bytes := r.fields.flatMap (0x7C :: ·) ++ [0x3E]

/-- A report as it is written. -/
def text (r : StatusReport) : Bytes := r.head ++ 0x3A :: (tripleText r.x r.y r.z ++ r.rest)

variable (r : StatusReport)

theorem mem_colon {b : UInt8} (mem : b ∈ r.colon) : b = 0x3A ∨ isFigure b = true := by
  have figures := List.all_eq_true.1 r.subState_figures
  rw [colon] at mem
  cases subState : r.subState with
  | none => simp [subState] at mem
  | some s =>
    simp only [subState, Option.map_some, Option.getD_some, List.mem_cons] at mem figures
    exact mem.imp_right (figures b)

theorem mem_token {b : UInt8} (mem : b ∈ r.token) : 0x41 ≤ b ∧ b ≤ 0x7A :=
  le_of_mem_isName r.token_name mem

/-- A token and its sub-state have no angle bracket, no bar and no point. -/
theorem mem_state {b : UInt8} (mem : b ∈ r.token ++ r.colon) :
    b ≠ 0x3C ∧ b ≠ 0x3E ∧ b ≠ 0x7C ∧ b ≠ 0x2E := by
  rcases List.mem_append.1 mem with token | colon
  · obtain ⟨low, high⟩ := r.mem_token token
    refine ⟨?_, ?_, ?_, ?_⟩ <;> (rintro rfl; revert low high; decide)
  · rcases r.mem_colon colon with rfl | figure
    · decide
    · refine ⟨?_, ?_, ?_, ?_⟩ <;> (rintro rfl; revert figure; decide)

theorem text_eq : r.text = 0x3C :: ((r.token ++ r.colon) ++ 0x7C ::
    ([0x4D, 0x50, 0x6F, 0x73, 0x3A] ++ (tripleText r.x r.y r.z ++ r.rest))) := by
  simp [text, head]

theorem getLast?_text : r.text.getLast? = some 0x3E := by
  rw [text, rest, ← List.append_assoc, ← List.cons_append, ← List.append_assoc,
    List.getLast?_concat]

theorem point_notMem_head : 0x2E ∉ r.head := by
  intro point
  simp only [head, ← List.append_assoc] at point
  rcases List.mem_cons.1 point with bracket | point
  · exact absurd bracket (by decide)
  · rcases List.mem_append.1 point with state | label
    · exact (r.mem_state state).2.2.2 rfl
    · exact absurd label (by decide)

theorem noFigure_rest : NoFigure r.rest := by
  intro b first
  rw [rest] at first
  cases fields : r.fields with
  | nil =>
    rw [fields] at first
    cases first
    decide
  | cons field more =>
    rw [fields] at first
    cases first
    decide

/-! ### The three searches -/

/-- The first triple of a report is its position. -/
theorem firstTriple?_text :
    firstTriple? r.text = some ⟨r.x.value, r.y.value, r.z.value⟩ :=
  firstTriple?_report r.point_notMem_head r.x r.y r.z r.noFigure_rest

/-- The token of a report is the one in front of its sub-state. -/
theorem stateToken_text : stateToken r.text = r.token := by
  obtain ⟨behind, unbracketed_text⟩ : ∃ behind,
      unbracketed r.text = (r.token ++ r.colon) ++ 0x7C :: behind := by
    have plain : ∀ b ∈ r.token ++ r.colon ++ [0x7C], (b == 0x3C || b == 0x3E) = false := by
      intro b mem
      rcases List.mem_append.1 mem with state | bar
      · obtain ⟨opens, closes, -⟩ := r.mem_state state
        simp [opens, closes]
      · rw [List.mem_singleton.1 bar]
        decide
    obtain ⟨behind, trimmed⟩ := Bytes.trimWith_append plain (by simp)
      ([0x4D, 0x50, 0x6F, 0x73, 0x3A] ++ (tripleText r.x r.y r.z ++ r.rest))
    refine ⟨behind, ?_⟩
    rw [unbracketed, r.text_eq, Text.trimWith, List.dropWhile_cons_of_pos (by decide),
      ← Text.trimWith]
    simpa using trimmed
  have beforeBar : (unbracketed r.text).takeWhile (· != 0x7C) = r.token ++ r.colon := by
    have noBar : ∀ b ∈ r.token ++ r.colon, (b != 0x7C) = true := fun b mem =>
      bne_iff_ne.2 (r.mem_state mem).2.2.1
    rw [unbracketed_text, List.takeWhile_append_of_pos noBar]
    simp
  have noColon : ∀ b ∈ r.token, (b != 0x3A) = true := by
    intro b mem
    obtain ⟨low, -⟩ := r.mem_token mem
    refine bne_iff_ne.2 ?_
    rintro rfl
    exact absurd low (by decide)
  rw [stateToken, beforeBar, List.takeWhile_append_of_pos noColon, colon]
  cases r.subState <;> simp

/-- A report has the shape of one. -/
theorem isStatusReport_text : isStatusReport r.text = true := by
  obtain ⟨capital, first, small, token, isCapital, isSmall, letters⟩ := isName_iff.1 r.token_name
  refine isStatusReport_iff.2 ⟨[], capital, first,
    small ++ (r.colon ++ 0x7C :: ([0x4D, 0x50, 0x6F, 0x73, 0x3A] ++
      (tripleText r.x r.y r.z ++ r.fields.flatMap (0x7C :: ·)))), [], ?_, isCapital, isSmall, ?_⟩
  · simp [text_eq, rest, token]
  intro newline
  have figure : isFigure Bytes.lineFeed = false := by decide
  have coordinate : ∀ c : Coordinate, Bytes.lineFeed ∉ c.text := by
    intro c mem
    simp only [Coordinate.text, List.mem_append, List.mem_cons] at mem
    rcases mem with sign | whole | point | fraction
    · split at sign
      · exact absurd sign (by decide)
      · cases sign
    · exact absurd (c.whole_figures _ whole) (by decide)
    · exact absurd point (by decide)
    · exact absurd (c.fraction_figures _ fraction) (by decide)
  simp only [List.mem_append, List.mem_cons, tripleText, List.mem_flatMap] at newline
  rcases newline with letter | sub | bar | label | (x | comma | y | comma | z) | ⟨field, mem, inside⟩
  · exact absurd (letters _ letter) (by decide)
  · rcases r.mem_colon sub with colon | figure
    · exact absurd colon (by decide)
    · exact absurd figure (by decide)
  · exact absurd bar (by decide)
  · revert label
    decide
  · exact coordinate _ x
  · exact absurd comma (by decide)
  · exact coordinate _ y
  · exact absurd comma (by decide)
  · exact coordinate _ z
  · rcases inside with bar | inside
    · exact absurd bar (by decide)
    · have single := List.all_eq_true.1 r.fields_single field mem
      simp [inside] at single

/-- Blanks around a report are taken off. -/
theorem trim_text {before after : Bytes} (front : ∀ b ∈ before, Text.isBlankByte b = true)
    (behind : ∀ b ∈ after, Text.isBlankByte b = true) :
    (before ++ (r.text ++ after)).trim = r.text := by
  refine Bytes.trimWith_around front behind (fun b first => ?_) (fun b last => ?_)
  · rw [r.text_eq] at first
    cases first
    decide
  · rw [r.getLast?_text] at last
    cases last
    decide

theorem startsWith_text : r.text.startsWith [0x3C] = true := by
  rw [text_eq]
  rfl

end StatusReport

end Report

/-! ## Run states by their names -/

namespace RunState

theorem isName_token (s : RunState) : Report.isName s.token = true := by
  cases s <;> decide +kernel

theorem ofToken?_token (s : RunState) : ofToken? s.token = some s := by
  cases s <;> decide +kernel

theorem ofToken?_unknown {t : Bytes} (unknown : ∀ s : RunState, t ≠ s.token) :
    ofToken? t = none :=
  List.find?_eq_none.2 fun s _ named => unknown s (of_decide_eq_true named).symm

end RunState

/-! ## Taking up a report -/

variable {α : Type} [Scalar α]

theorem Machine.run_receive_text (m : Machine α) (r : Report.StatusReport) :
    (m.receive r.text).run = (RunState.ofToken? r.token).getD m.run := by
  rw [receive, if_pos r.startsWith_text, receiveReport, if_pos r.isStatusReport_text,
    r.stateToken_text, receiveToken]
  cases RunState.ofToken? r.token with
  | some run => rw [run_setRun, Option.getD_some]
  | none => exact run_receivePosition r.text m

/-- A message that has not the shape of a report says nothing. -/
theorem Machine.receive_shapeless {message : Bytes} (m : Machine α)
    (shapeless : message.startsWith [0x3C] = true → ¬ Report.HasReport message) :
    (m.receive message).position = m.position ∧ (m.receive message).run = m.run := by
  rw [receive]
  split
  next bracket =>
    rw [receiveReport, if_neg fun shape => shapeless bracket (Report.isStatusReport_iff.1 shape)]
    exact ⟨rfl, rfl⟩
  next =>
    split
    · exact ⟨rfl, rfl⟩
    · split
      · exact ⟨rfl, rfl⟩
      · split <;> exact ⟨rfl, rfl⟩

namespace Tracker

omit [Scalar α] in
/-- At most where the machine is and what it does was taken up, and the journal: modes and feed,
ledger and counts, the queue and the motion in flight stay. -/
structure Reported (t t' : Tracker α) : Prop where
  rest : t' = t.mapMachine fun _ => t'.machine
  modes : t'.machine.modes = t.machine.modes
  feed : t'.machine.feed = t.machine.feed

/-- A message that is no answer touches nothing but the machine. -/
theorem receive_reported {message : Bytes} (kind : isAnswer message.trim = false)
    (t : Tracker α) : Reported t (t.receive message) := by
  have heard := receive_heard message t
  refine ⟨?_, heard.machine.modes, heard.machine.feed⟩
  obtain ⟨notOk, notError⟩ := Bool.or_eq_false_iff.1 kind
  simp only [receive, notOk, notError, Bool.false_eq_true, if_false]
  split <;> rfl

omit [Scalar α] in
theorem not_isAnswer_of_bracket {message : Bytes} (bracket : message.startsWith [0x3C] = true) :
    isAnswer message = false := by
  obtain ⟨rest, rfl⟩ := List.isPrefixOf_iff_prefix.1 bracket
  have ok : Bytes.ofText "ok" = [0x6F, 0x6B] := by decide +kernel
  have error : Bytes.ofText "error" = [0x65, 0x72, 0x72, 0x6F, 0x72] := by decide +kernel
  simp [isAnswer, ok, error, Bytes.startsWith, List.isPrefixOf]

/-- A message that says nothing about where the machine is and what it does. -/
structure Ignored (t t' : Tracker α) : Prop where
  position : t'.machine.position = t.machine.position
  run : t'.machine.run = t.machine.run
  reported : Reported t t'

theorem receive_ignored {message : Bytes} (other : isAnswer message.trim = false)
    (shapeless : message.trim.startsWith [0x3C] = true → ¬ Report.HasReport message.trim)
    (t : Tracker α) : Ignored t (t.receive message) := by
  have nothing : (t.receive message).machine.position = t.machine.position ∧
      (t.receive message).machine.run = t.machine.run := by
    obtain ⟨notOk, notError⟩ := Bool.or_eq_false_iff.1 other
    simp only [receive, notOk, notError, Bool.false_eq_true, if_false]
    split
    · exact ⟨rfl, rfl⟩
    · exact t.machine.receive_shapeless shapeless
  exact ⟨nothing.1, nothing.2, receive_reported other t⟩

section
variable (r : Report.StatusReport) {before after : Bytes}
  (front : ∀ b ∈ before, Text.isBlankByte b = true) (behind : ∀ b ∈ after, Text.isBlankByte b = true)
include front behind

theorem receive_text (t : Tracker α) :
    t.receive (before ++ (r.text ++ after)) = t.mapMachine (·.receive r.text) := by
  have trimmed := r.trim_text front behind
  have bracket : (before ++ (r.text ++ after)).trim.startsWith [0x3C] = true := by
    rw [trimmed, r.startsWith_text]
  rw [receive_report bracket, trimmed]

theorem receive_text_reported (t : Tracker α) :
    Reported t (t.receive (before ++ (r.text ++ after))) := by
  refine receive_reported (not_isAnswer_of_bracket ?_) t
  rw [r.trim_text front behind, r.startsWith_text]

end

/-- The machine is where a report says, and does what its token says; an unknown token says nothing
about that.  Nothing else was touched. -/
structure TakenUp (r : Report.StatusReport) (t t' : Tracker Float) : Prop where
  x : (t'.machine.position.x == r.x.value.toFloat) = true
  y : (t'.machine.position.y == r.y.value.toFloat) = true
  z : (t'.machine.position.z == r.z.value.toFloat) = true
  run : ∀ s : RunState, r.token = s.token → t'.machine.run = s
  unknown : (∀ s : RunState, r.token ≠ s.token) → t'.machine.run = t.machine.run
  reported : Reported t t'

theorem receive_text_takenUp (r : Report.StatusReport) {before after : Bytes}
    (front : ∀ b ∈ before, Text.isBlankByte b = true)
    (behind : ∀ b ∈ after, Text.isBlankByte b = true) (t : Tracker Float) :
    TakenUp r t (t.receive (before ++ (r.text ++ after))) := by
  have machine : (t.receive (before ++ (r.text ++ after))).machine = t.machine.receive r.text :=
    congrArg machine (receive_text r front behind t)
  obtain ⟨x, y, z⟩ := Machine.position_receive t.machine r.startsWith_text r.isStatusReport_text
    r.firstTriple?_text
  have run := t.machine.run_receive_text r
  rw [← machine] at x y z run
  refine ⟨x, y, z, fun s named => ?_, fun unknown => ?_, receive_text_reported r front behind t⟩
  · rw [run, named, RunState.ofToken?_token, Option.getD_some]
  · rw [run, RunState.ofToken?_unknown unknown, Option.getD_none]

/-- `<Hold:0|MPos:1.5,-2.0,1.5|FS:600,0|WCO:7.0,8.0,9.0>`. -/
def holdReport : Report.StatusReport :=
  let x : Report.Coordinate :=
    { whole := [0x31], fraction := [0x35]
      whole_ne := List.cons_ne_nil _ _, fraction_ne := List.cons_ne_nil _ _
      whole_figures := List.forall_mem_singleton.2 rfl
      fraction_figures := List.forall_mem_singleton.2 rfl }
  let y : Report.Coordinate :=
    { negative := true, whole := [0x32], fraction := [0x30]
      whole_ne := List.cons_ne_nil _ _, fraction_ne := List.cons_ne_nil _ _
      whole_figures := List.forall_mem_singleton.2 rfl
      fraction_figures := List.forall_mem_singleton.2 rfl }
  { token := Bytes.ofText "Hold", subState := some [0x30], x, y, z := x
    fields := [Bytes.ofText "FS:600,0", Bytes.ofText "WCO:7.0,8.0,9.0"]
    token_name := by decide +kernel
    subState_figures := by decide
    fields_single := by decide +kernel }

end Tracker

end GcodeSender
