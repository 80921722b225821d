/-
# `GcodeSender.Proofs.Config.Sections` — what becomes of the sections of a configuration

A section is gone through property by property.  Some attributes of a controller
are worked out from others (`footings`); while none of these is replaced, a
property is of one of three kinds, whatever came before it:

    known       a controller has it, and it can be set    it is set
    unknown     a controller does not have it             a warning, and no more
    flawed      it cannot be set, or its name is no text  the setup fails

`Configured label props p` says what a profile is after some properties: of each
one that is known, the value given last is there, and all else is as it is built.

A flaw can also be in the section itself, or in its type, or in what stands below
`controllers`.  The first one in the order of the document decides what becomes of
the whole configuration (`first_flaw_decides`).  Only one flaw is reported to the
user, a type that is not known; the others end the setup as they are.
-/
import Mathlib.Data.List.Forall2
import GcodeSender.Config.Setup

namespace GcodeSender.Config

open Link

/-! ## Properties -/

/-- The attributes that others are worked out from. -/
def footings : List String :=
  ["_tracker_lock", "tracker", "_command_streaming", "_held_back", "__dict__"]

/-- The properties that a section gives, all but its type. -/
def properties : Value → List (String × Value)
  | .map entries =>
    entries.filterMap fun (key, value) =>
      (key.asText?.filter (· ≠ "type")).map fun name => (name, value)
  | _ => []

/-- No attribute is replaced that others are worked out from. -/
def Steady (props : List (String × Value)) : Prop := ∀ prop ∈ props, prop.1 ∉ footings

theorem lookup_cons_eq_ite {β : Type} (name : String) (value : β) (rest : List (String × β))
    (other : String) :
    ((name, value) :: rest).lookup other =
      if other = name then some value else rest.lookup other := by
  rw [List.lookup_cons]
  by_cases same : other = name
  · rw [if_pos same, beq_iff_eq.2 same]
  · rw [if_neg same, beq_eq_false_iff_ne.2 same]

instance (props : List (String × Value)) : Decidable (Steady props) :=
  inferInstanceAs (Decidable (∀ prop ∈ props, prop.1 ∉ footings))

/-- The value that was given last under a name. -/
def lastGiven (props : List (String × Value)) (name : String) : Option Value :=
  props.reverse.lookup name

theorem lastGiven_concat (props : List (String × Value)) (name : String) (value : Value)
    (other : String) :
    lastGiven (props ++ [(name, value)]) other =
      if other = name then some value else lastGiven props other := by
  rw [lastGiven, List.reverse_append, List.reverse_singleton, List.singleton_append,
    lookup_cons_eq_ite, lastGiven]

theorem lastGiven_eq_none {props : List (String × Value)} {name : String}
    (absent : ∀ prop ∈ props, prop.1 ≠ name) : lastGiven props name = none := by
  rw [lastGiven, List.lookup_eq_none_iff]
  intro prop mem
  simpa using (absent prop (List.mem_reverse.1 mem)).symm

/-- Does a controller that nothing is configured for have an attribute of this name? -/
def isKnown (name : String) : Bool :=
  Attribute.ofName name ≠ .plain || sharedNames.contains name ||
    ((Profile.builtWith .null).lookup name).isSome

/-- Is motion simulated after these properties? -/
def simulated (props : List (String × Value)) : Bool :=
  ((lastGiven props "motion_simulation").map Value.isTruthy).getD false

theorem Attribute.ofName_eq_simulation {name : String} (h : ofName name = .simulation) :
    name = "motion_simulation" := by
  unfold ofName at h
  split at h <;> first | rfl | cases h

theorem Attribute.ofName_eq_whole {name : String} (h : ofName name = .whole) : name = "__dict__" := by
  unfold ofName at h
  split at h <;> first | rfl | cases h

/-! ## Configured controllers -/

section Configured
variable {α : Type} [Scalar α]

/-- A controller that nothing has happened to but what is in its journal. -/
def untouched (label : String) (simulate : Bool) (journal : Journal α) : Controller α :=
  (Controller.fresh label simulate).mapConnection fun c => { c with journal }

/-- The warnings in a journal. -/
def warnings (journal : Journal α) : List (LogEntry α) :=
  journal.entries.filter (·.level = .warning)

omit [Scalar α] in
theorem warnings_note_warning (journal : Journal α) (message : Message α) :
    warnings (journal.note (.log ⟨.warning, message⟩)) = warnings journal ++ [⟨.warning, message⟩] := by
  simp [warnings, Journal.entries]

omit [Scalar α] in
theorem warnings_note_info (journal : Journal α) (message : Message α) :
    warnings (journal.note (.log ⟨.info, message⟩)) = warnings journal := by
  simp [warnings, Journal.entries]

/-- What a profile is after some properties: where one is known that holds what it is given, the value
given last is there, and every other attribute is as it is built; the controller is as it is built, but
for its journal and whether it simulates; and of every property that is not known there is a
warning, in their order. -/
structure Configured (label : Value) (props : List (String × Value)) (p : Profile α) : Prop where
  given : ∀ name value, Attribute.ofName name = .plain → isKnown name = true →
    lastGiven props name = some value → p.content? name = some (.given value)
  built : ∀ name,
    Attribute.ofName name ≠ .plain ∨ isKnown name = false ∨ lastGiven props name = none →
    p.content? name = (Profile.builtWith label).lookup name
  controller : ∃ journal, p.controller = untouched label.keyText (simulated props) journal ∧
    warnings journal = (props.filter (!isKnown ·.1)).map fun (name, value) =>
      ⟨.warning, .text (Profile.warning label name value)⟩

theorem setSimulates_untouched (label : String) (simulate enabled : Bool) (journal : Journal α) :
    ∃ journal', (untouched label simulate journal).setSimulates enabled =
        untouched label enabled journal' ∧ warnings journal' = warnings journal := by
  have now : (untouched label simulate journal).simulates = simulate := rfl
  rw [Controller.setSimulates, now]
  by_cases same : simulate = enabled
  · exact ⟨journal, by rw [if_pos same, same], rfl⟩
  · rw [if_neg same]
    obtain rfl : enabled = !simulate := Bool.eq_not.2 (Ne.symm same)
    cases simulate <;> exact ⟨_, rfl, warnings_note_info journal _⟩

theorem configured_fresh (label : Value) : Configured label [] (Profile.fresh label : Profile α) where
  given := nofun
  built := fun _ _ => rfl
  controller := ⟨(Connection.fresh label.keyText).journal, rfl, rfl⟩

variable {label : Value} {before : List (String × Value)} {p : Profile α}

/-- An attribute that others are worked out from is as it is built. -/
theorem Configured.content_footing (h : Configured label before p) (steady : Steady before)
    {name : String} (footing : name ∈ footings) :
    p.content? name = (Profile.builtWith label).lookup name :=
  h.built name (.inr (.inr (lastGiven_eq_none fun prop mem => by
    rintro rfl
    exact steady prop mem footing)))

/-- The names that a controller is built with do not depend on its label. -/
theorem isSome_lookup_builtWith (label : Value) (name : String) :
    ((Profile.builtWith label).lookup name).isSome =
      ((Profile.builtWith .null).lookup name).isSome := by
  simp only [Profile.builtWith, List.cons_append, lookup_cons_eq_ite]
  split
  · rfl
  · rfl

theorem Configured.obstacle? (h : Configured label before p) (steady : Steady before) :
    p.obstacle? = none := by
  have lock : p.content? "_tracker_lock" = some .built := h.content_footing steady (by decide)
  have tracker : p.content? "tracker" = some .built := h.content_footing steady (by decide)
  rw [Profile.obstacle?, lock, tracker]

/-- What a controller has stays the same, whatever is set. -/
theorem Configured.has (h : Configured label before p) (steady : Steady before) (name : String) :
    p.has name = .ok (isKnown name) := by
  have streaming : p.content? "_command_streaming" = some .built :=
    h.content_footing steady (by decide)
  have heldBack : p.content? "_held_back" = some .built := h.content_footing steady (by decide)
  cases kind : Attribute.ofName name with
  | simulation => simp [Profile.has, kind, h.obstacle? steady, isKnown]
  | lock =>
    have lock : p.content? "_tracker_lock" = some .built := h.content_footing steady (by decide)
    simp [Profile.has, kind, lock, isKnown]
  | pending => simp [Profile.has, kind, streaming, heldBack, isKnown]
  | readOnly | rigid | whole => simp [Profile.has, kind, isKnown]
  | plain =>
    have known : isKnown name =
        (sharedNames.contains name || ((Profile.builtWith label).lookup name).isSome) := by
      rw [isSome_lookup_builtWith, isKnown, kind]
      rfl
    rw [Profile.has, kind]
    dsimp only
    congr 1
    cases given : lastGiven before name with
    | none => rw [known, h.built name (.inr (.inr given))]
    | some value =>
      cases recognised : isKnown name with
      | true => rw [h.given name value kind recognised given, Option.isSome_some, Bool.or_true]
      | false => rw [h.built name (.inr (.inl recognised)), ← known, recognised]

/-- The properties that cannot be set. -/
def nameFlaw? (name : String) : Option Problem :=
  match Attribute.ofName name with
  | .lock | .pending | .readOnly => some (.readOnly name)
  | .rigid => some (.unsuitable name)
  | .simulation | .whole | .plain => none

variable {name : String} (value : Value)

/-- A property that is not known is passed over, with a warning. -/
theorem Configured.warn (h : Configured label before p) (unknown : isKnown name = false) :
    Configured label (before ++ [(name, value)])
      { p with
        controller := p.controller.logText .warning (Profile.warning label name value) } where
  given := by
    intro other given kind known last
    have differ : other ≠ name := by
      rintro rfl
      rw [unknown] at known
      cases known
    rw [lastGiven_concat, if_neg differ] at last
    exact h.given other given kind known last
  built := by
    intro other why
    refine h.built other ?_
    by_cases same : other = name
    · exact .inr (.inl (same ▸ unknown))
    · rwa [lastGiven_concat, if_neg same] at why
  controller := by
    obtain ⟨journal, is, warned⟩ := h.controller
    have differ : "motion_simulation" ≠ name := by
      rintro rfl
      exact absurd unknown (by decide)
    have simulates : simulated (before ++ [(name, value)]) = simulated before := by
      rw [simulated, lastGiven_concat, if_neg differ, simulated]
    refine ⟨journal.note (.log ⟨.warning, .text (Profile.warning label name value)⟩),
      by rw [is, simulates]; rfl, ?_⟩
    rw [warnings_note_warning, warned, List.filter_append, List.map_append]
    simp [unknown]

/-- A property that is known is no reason for a warning. -/
theorem filter_known (known : isKnown name = true) :
    (before ++ [(name, value)]).filter (!isKnown ·.1) = before.filter (!isKnown ·.1) := by
  simp [known]

/-- A property that holds what it is given. -/
theorem Configured.put (h : Configured label before p) (kind : Attribute.ofName name = .plain)
    (known : isKnown name = true) :
    Configured label (before ++ [(name, value)]) (p.put name value) where
  given := by
    intro other given kind known last
    rw [Profile.content?, Profile.put, lookup_cons_eq_ite]
    rw [lastGiven_concat] at last
    split
    next same =>
      rw [if_pos same] at last
      rw [Option.some.inj last]
    next differ =>
      rw [if_neg differ] at last
      exact h.given other given kind known last
  built := by
    intro other why
    have differ : other ≠ name := by
      rintro rfl
      rcases why with special | unknown | absent
      · exact special kind
      · rw [known] at unknown
        cases unknown
      · rw [lastGiven_concat, if_pos rfl] at absent
        cases absent
    rw [lastGiven_concat, if_neg differ] at why
    rw [Profile.content?, Profile.put, lookup_cons_eq_ite, if_neg differ]
    exact h.built other why
  controller := by
    have differ : "motion_simulation" ≠ name := by
      rintro rfl
      exact absurd kind (by decide)
    rw [simulated, lastGiven_concat, if_neg differ, filter_known value known]
    exact h.controller

/-- The property that turns simulation on or off. -/
theorem Configured.setSimulates (h : Configured label before p) (steady : Steady before) :
    ∃ p', p.setSimulates value.isTruthy = .ok p' ∧
      Configured label (before ++ [("motion_simulation", value)]) p' := by
  have other : ∀ {name}, name = "motion_simulation" → Attribute.ofName name ≠ .plain := by
    rintro _ rfl
    decide
  refine ⟨{ p with controller := p.controller.setSimulates value.isTruthy },
    by rw [Profile.setSimulates, h.obstacle? steady], ?_, ?_, ?_⟩
  · intro name given kind known last
    rw [lastGiven_concat, if_neg fun same => other same kind] at last
    exact h.given name given kind known last
  · intro name why
    refine h.built name ?_
    by_cases same : name = "motion_simulation"
    · exact .inl (other same)
    · rwa [lastGiven_concat, if_neg same] at why
  · obtain ⟨journal, is, warned⟩ := h.controller
    obtain ⟨journal', sets, quiet⟩ :=
      setSimulates_untouched label.keyText (simulated before) value.isTruthy journal
    have now : simulated (before ++ [("motion_simulation", value)]) = value.isTruthy := by
      rw [simulated, lastGiven_concat, if_pos rfl]
      rfl
    exact ⟨journal', by rw [now, is, sets], by rw [quiet, warned, filter_known value (by decide)]⟩

/-- One property more. -/
theorem Configured.assign (h : Configured label before p) (steady : Steady before)
    (keeps : name ∉ footings) (value : Value) :
    match nameFlaw? name with
    | some flaw => p.assign label name value = .error flaw
    | none => ∃ p', p.assign label name value = .ok p' ∧
        Configured label (before ++ [(name, value)]) p' := by
  have known : ∀ {kind}, Attribute.ofName name = kind → kind ≠ .plain → isKnown name = true := by
    rintro _ rfl special
    simp [isKnown, special]
  rw [nameFlaw?, Profile.assign, h.has steady]
  cases kind : Attribute.ofName name with
  | lock | pending | readOnly =>
    rw [known kind nofun]
    simp only [Profile.set, kind]
  | rigid =>
    rw [known kind nofun]
    simp only [Profile.set, kind]
  | whole =>
    obtain rfl := Attribute.ofName_eq_whole kind
    exact absurd (by decide) keeps
  | simulation =>
    obtain rfl := Attribute.ofName_eq_simulation kind
    exact h.setSimulates value steady
  | plain =>
    cases recognised : isKnown name with
    | false => exact ⟨_, rfl, h.warn value recognised⟩
    | true =>
      refine ⟨_, ?_, h.put value kind recognised⟩
      simp only [Profile.set, kind]

/-! ## Sections -/

/-- What is wrong with a property. -/
def entryFlaw? : Value × Value → Option Problem
  | (.str name, _) => nameFlaw? name
  | _ => some .nameNotText

theorem properties_cons_str (name : String) (value : Value) (rest : List (Value × Value)) :
    properties (.map ((.str name, value) :: rest)) =
      if name = "type" then properties (.map rest) else (name, value) :: properties (.map rest) := by
  by_cases type : name = "type" <;> simp [properties, Value.asText?, type]

/-- The properties of a section, one after the other: the first flaw decides. -/
theorem Configured.assignAll (h : Configured label before p) {entries : List (Value × Value)}
    (steady : Steady (before ++ properties (.map entries))) :
    match entries.findSome? entryFlaw? with
    | some flaw => p.assignAll label entries = .error flaw
    | none => ∃ p', p.assignAll label entries = .ok p' ∧
        Configured label (before ++ properties (.map entries)) p' := by
  induction entries generalizing before p with
  | nil => exact ⟨p, rfl, by simpa [properties] using h⟩
  | cons entry rest ih =>
    obtain ⟨key, value⟩ := entry
    cases key with
    | str name =>
      rw [properties_cons_str] at steady ⊢
      rw [List.findSome?_cons, entryFlaw?, Profile.assignAll]
      by_cases type : name = "type"
      · have sound : nameFlaw? name = none := by
          rw [type]
          rfl
        rw [if_pos type] at steady
        rw [sound, if_pos type, if_pos type]
        exact ih h steady
      · rw [if_neg type, List.append_cons] at steady
        rw [if_neg type, if_neg type, List.append_cons]
        have first : Steady (before ++ [(name, value)]) := fun prop mem =>
          steady prop (List.mem_append_left _ mem)
        have step := h.assign (fun prop mem => first prop (List.mem_append_left _ mem))
          (first (name, value) (List.mem_append_right _ List.mem_cons_self)) value
        cases flaw : nameFlaw? name with
        | some flaw =>
          rw [flaw] at step
          rw [step]
        | none =>
          rw [flaw] at step
          obtain ⟨p', assigned, next⟩ := step
          rw [assigned]
          exact ih next steady
    | null | bool _ | int _ | float _ | list _ | map _ => rfl

/-- What is wrong with a section: it is no mapping, its type is not known or cannot be looked up, its
label cannot be written, or the first of its properties with which something is wrong. -/
def sectionFlaw? (label : Value) : Value → Option Problem
  | .map entries =>
    let type := (Value.get? entries "type").getD .null
    if !type.isAtomic then some .typeNotAtomic
    else if type.asText? = some controllerType then
      if label.isWritable then entries.findSome? entryFlaw? else some (.unsuitable "label")
    else if type.isWritable then some (.unknownType type.text)
    else some (.unsuitable "type")
  | _ => some .noMapping

theorem setupOne_outcome (label : Value) {contents : Value} (steady : Steady (properties contents)) :
    match sectionFlaw? label contents with
    | some flaw => setupOne label contents = (.error flaw : Except Problem (Profile α))
    | none => ∃ p : Profile α, setupOne label contents = .ok p ∧
        Configured label (properties contents) p := by
  cases contents with
  | map entries =>
    rw [sectionFlaw?, setupOne]
    generalize (Value.get? entries "type").getD .null = type
    by_cases atomic : type.isAtomic = true
    · by_cases known : type.asText? = some controllerType
      · by_cases writable : label.isWritable = true
        · simp only [atomic, known, writable, Bool.not_true, Bool.false_eq_true, if_false, if_true]
          exact (configured_fresh label).assignAll steady
        · simp only [atomic, known, writable, Bool.not_true, Bool.false_eq_true, if_false, if_true]
      · by_cases writable : type.isWritable = true <;>
          simp only [atomic, known, writable, Bool.not_true, Bool.false_eq_true, if_false, if_true]
    · simp only [atomic, Bool.not_false, if_true]
  | null | bool _ | int _ | float _ | str _ | list _ => rfl

/-- A section becomes a profile under its label. -/
def Becomes (section_ : Value × Value) (result : Value × Profile α) : Prop :=
  result.1 = section_.1 ∧ Configured section_.1 (properties section_.2) result.2

theorem setupSections_outcome {sections : List (Value × Value)}
    (steady : ∀ s ∈ sections, Steady (properties s.2)) :
    match sections.findSome? fun s => sectionFlaw? s.1 s.2 with
    | some flaw =>
      setupSections sections = (.error flaw : Except Problem (List (Value × Profile α)))
    | none => ∃ profiles : List (Value × Profile α), setupSections sections = .ok profiles ∧
        List.Forall₂ Becomes sections profiles := by
  induction sections with
  | nil => exact ⟨[], rfl, .nil⟩
  | cons s rest ih =>
    obtain ⟨label, contents⟩ := s
    have first := setupOne_outcome (α := α) label (steady _ List.mem_cons_self)
    have others := ih fun s mem => steady s (List.mem_cons_of_mem _ mem)
    rw [List.findSome?_cons, setupSections]
    dsimp only at first ⊢
    cases flaw : sectionFlaw? label contents with
    | some flaw =>
      rw [flaw] at first
      rw [first]
    | none =>
      rw [flaw] at first
      obtain ⟨p, done, configured⟩ := first
      rw [done]
      dsimp only
      cases later : rest.findSome? fun s => sectionFlaw? s.1 s.2 with
      | some flaw =>
        rw [later] at others
        rw [others]
        rfl
      | none =>
        rw [later] at others
        obtain ⟨profiles, done', become⟩ := others
        rw [done']
        exact ⟨_, rfl, .cons ⟨rfl, configured⟩ become⟩

/-! ## Configurations -/

/-- The sections of a configuration; `none` where what stands below `controllers` is no mapping. -/
def sections? (entries : List (Value × Value)) : Option (List (Value × Value)) :=
  let controllers := (Value.get? entries "controllers").getD .null
  if !controllers.isTruthy then some []
  else
    match controllers with
    | .map sections => some sections
    | _ => none

/-- The first thing that is wrong with a configuration. -/
def flaw? (entries : List (Value × Value)) : Option Problem :=
  match sections? entries with
  | none => some .noMapping
  | some sections => sections.findSome? fun s => sectionFlaw? s.1 s.2

theorem setup_outcome {entries : List (Value × Value)}
    (steady : ∀ s ∈ (sections? entries).getD [], Steady (properties s.2)) :
    match flaw? entries with
    | some flaw => setup entries = (.error flaw : Except Problem (List (Value × Profile α)))
    | none => ∃ profiles : List (Value × Profile α), setup entries = .ok profiles ∧
        List.Forall₂ Becomes ((sections? entries).getD []) profiles := by
  unfold flaw?
  unfold sections? at steady ⊢
  rw [setup]
  generalize (Value.get? entries "controllers").getD .null = controllers at steady ⊢
  by_cases empty : (!controllers.isTruthy) = true
  · simp only [empty, if_true]
    exact ⟨[], rfl, .nil⟩
  · simp only [empty] at steady ⊢
    cases controllers with
    | map sections => exact setupSections_outcome steady
    | null | bool _ | int _ | float _ | str _ | list _ => rfl

end Configured

theorem entryFlaw?_ne_unknownLabel {entry : Value × Value} {label : String} :
    entryFlaw? entry ≠ some (.unknownLabel label) := by
  intro wrong
  unfold entryFlaw? nameFlaw? at wrong
  repeat' split at wrong
  all_goals cases wrong

theorem sectionFlaw?_ne_unknownLabel {label contents : Value} {other : String} :
    sectionFlaw? label contents ≠ some (.unknownLabel other) := by
  intro wrong
  unfold sectionFlaw? at wrong
  split at wrong
  · dsimp only at wrong
    repeat' split at wrong
    all_goals first
      | cases wrong
      | obtain ⟨entry, -, wrong⟩ := List.exists_of_findSome?_eq_some wrong
        exact entryFlaw?_ne_unknownLabel wrong
  · cases wrong

/-- Of all flaws only a type that is not known is reported. -/
theorem isReported_iff_of_flaw {entries : List (Value × Value)} {flaw : Problem}
    (h : flaw? entries = some flaw) :
    flaw.isReported = true ↔ ∃ shown, flaw = .unknownType shown := by
  cases flaw with
  | unknownLabel label =>
    unfold flaw? at h
    split at h
    · cases h
    · obtain ⟨s, -, wrong⟩ := List.exists_of_findSome?_eq_some h
      exact absurd wrong sectionFlaw?_ne_unknownLabel
  | unknownType shown => exact ⟨fun _ => ⟨shown, rfl⟩, fun _ => rfl⟩
  | noMapping | typeNotAtomic | nameNotText | readOnly _ | unsuitable _ | lockReplaced
    | trackerReplaced => exact ⟨nofun, nofun⟩

end GcodeSender.Config
