/-
# `GcodeSender.Proofs.Motion.Loop` — a loop that ends of itself

`settle` repeats a step while it is due, and stops short at a limit.  What a
limit hides is whether the loop would have ended without it:

    endsWithin n s   after at most `n` steps from `s` nothing is due any more,
                     or a step was stopped
    Ends s           so it is for some `n`

Where a loop ends of itself the limit does not matter, as long as it is not the
limit that ends it (`settle_of_endsWithin`).  Two loops over the same step, the
second of which goes on longer, come to what the second alone comes to
(`settle_settle`).

A loop whose course hangs on one of finitely many codes goes through no code
twice, or it would never end.  So it ends within as many steps as there are
codes (`Ends.endsWithin_card`).
-/
import Mathlib
import GcodeSender.Motion.Simulation

namespace GcodeSender

variable {σ τ : Type} {due : σ → Bool} {step : σ → Step σ Unit}

/-- Does the loop end of itself after at most `n` steps? -/
def endsWithin (due : σ → Bool) (step : σ → Step σ Unit) : Nat → σ → Bool
  | 0, s => !due s
  | n + 1, s =>
    if due s then
      match step s with
      | ⟨s', .ok _⟩ => endsWithin due step n s'
      | _ => true
    else true

/-- The loop ends of itself. -/
def Ends (due : σ → Bool) (step : σ → Step σ Unit) (s : σ) : Prop :=
  ∃ n, endsWithin due step n s = true

/-! ## One more step -/

theorem settle_rests {s : σ} (rests : due s = false) (limit : Nat) :
    settle due step limit s = .done s () := by
  cases limit with
  | zero => rfl
  | succ limit => rw [settle, if_neg (by simp [rests])]

theorem settle_stopped {s s' : σ} {fault : Fault} (h : due s = true)
    (stopped : step s = .stopped s' fault) (limit : Nat) :
    settle due step (limit + 1) s = .stopped s' fault := by
  rw [settle, if_pos h, stopped]
  rfl

theorem settle_again {s s' : σ} (h : due s = true) (again : step s = .done s' ()) (limit : Nat) :
    settle due step (limit + 1) s = settle due step limit s' := by
  rw [settle, if_pos h, again]
  rfl

theorem endsWithin_rests {s : σ} (rests : due s = false) (n : Nat) :
    endsWithin due step n s = true := by
  cases n with
  | zero => simp [endsWithin, rests]
  | succ n => rw [endsWithin, if_neg (by simp [rests])]

theorem endsWithin_stopped {s s' : σ} {fault : Fault} (stopped : step s = .stopped s' fault)
    (n : Nat) : endsWithin due step (n + 1) s = true := by
  rw [endsWithin, stopped]
  simp [Step.stopped]

theorem endsWithin_again {s s' : σ} (h : due s = true) (again : step s = .done s' ()) (n : Nat) :
    endsWithin due step (n + 1) s = endsWithin due step n s' := by
  rw [endsWithin, if_pos h, again]
  rfl

/-- A step goes on or is stopped. -/
theorem Step.done_or_stopped (a : Step σ Unit) :
    (∃ s, a = .done s ()) ∨ ∃ s fault, a = .stopped s fault := by
  obtain ⟨s, result⟩ := a
  cases result with
  | ok _ => exact .inl ⟨s, rfl⟩
  | error fault => exact .inr ⟨s, fault, rfl⟩

theorem Step.mapResult_unit {ρ : Type} (a : Step σ Unit) (r : ρ) :
    (a.mapResult fun _ => r).mapResult (fun _ => ()) = a := by
  rcases a.done_or_stopped with ⟨s, rfl⟩ | ⟨s, fault, rfl⟩ <;> rfl

/-! ## More steps than needed -/

theorem endsWithin_mono {n limit : Nat} (le : n ≤ limit) {s : σ}
    (h : endsWithin due step n s = true) : endsWithin due step limit s = true := by
  induction n generalizing limit s with
  | zero =>
    rw [endsWithin, Bool.not_eq_true'] at h
    exact endsWithin_rests h limit
  | succ n ih =>
    obtain ⟨limit, rfl⟩ : ∃ m, limit = m + 1 := ⟨limit - 1, by omega⟩
    cases isDue : due s with
    | false => exact endsWithin_rests isDue _
    | true =>
      rcases Step.done_or_stopped (step s) with ⟨s', again⟩ | ⟨s', fault, stopped⟩
      · rw [endsWithin_again isDue again] at h ⊢
        exact ih (by omega) h
      · exact endsWithin_stopped stopped limit

/-- A limit that does not end the loop does not matter. -/
theorem settle_of_endsWithin {n limit : Nat} (le : n ≤ limit) {s : σ}
    (h : endsWithin due step n s = true) :
    settle due step limit s = settle due step n s := by
  induction n generalizing limit s with
  | zero =>
    rw [endsWithin, Bool.not_eq_true'] at h
    rw [settle_rests h, settle_rests h]
  | succ n ih =>
    obtain ⟨limit, rfl⟩ : ∃ m, limit = m + 1 := ⟨limit - 1, by omega⟩
    cases isDue : due s with
    | false => rw [settle_rests isDue, settle_rests isDue]
    | true =>
      rcases Step.done_or_stopped (step s) with ⟨s', again⟩ | ⟨s', fault, stopped⟩
      · rw [endsWithin_again isDue again] at h
        rw [settle_again isDue again, settle_again isDue again]
        exact ih (by omega) h
      · rw [settle_stopped isDue stopped, settle_stopped isDue stopped]

/-- Nothing is due where a loop has ended of itself and was not stopped. -/
theorem rests_of_endsWithin {n : Nat} {s : σ} (h : endsWithin due step n s = true)
    (unstopped : (settle due step n s).result = .ok ()) :
    due (settle due step n s).state = false := by
  induction n generalizing s with
  | zero =>
    rw [endsWithin, Bool.not_eq_true'] at h
    exact h
  | succ n ih =>
    cases isDue : due s with
    | false =>
      rw [settle_rests isDue]
      exact isDue
    | true =>
      rcases Step.done_or_stopped (step s) with ⟨s', again⟩ | ⟨s', fault, stopped⟩
      · rw [endsWithin_again isDue again] at h
        rw [settle_again isDue again] at unstopped ⊢
        exact ih h unstopped
      · rw [settle_stopped isDue stopped] at unstopped
        cases unstopped

/-! ## One loop behind another -/

section Behind
variable {earlier : σ → Bool}

/-- A loop that ends earlier, and then the longer one: together they do what the longer one does.
A step that is stopped leaves the state as it is, so that it is stopped again. -/
theorem settle_settle (sooner : ∀ s, earlier s = true → due s = true)
    (stays : ∀ s s' fault, step s = .stopped s' fault → s' = s) {n : Nat} {s : σ}
    (h : endsWithin due step n s = true) :
    endsWithin earlier step n s = true ∧
      endsWithin due step n (settle earlier step n s).state = true ∧
      settle due step n (settle earlier step n s).state = settle due step n s := by
  induction n generalizing s with
  | zero =>
    have rests : earlier s = false := by
      rw [endsWithin, Bool.not_eq_true'] at h
      by_contra early
      rw [sooner s (by simpa using early)] at h
      cases h
    exact ⟨endsWithin_rests rests 0, h, rfl⟩
  | succ n ih =>
    cases early : earlier s with
    | false =>
      rw [settle_rests early]
      exact ⟨endsWithin_rests early _, h, rfl⟩
    | true =>
      have isDue := sooner s early
      rcases Step.done_or_stopped (step s) with ⟨s', again⟩ | ⟨s', fault, stopped⟩
      · rw [endsWithin_again isDue again] at h
        obtain ⟨first, later, same⟩ := ih h
        rw [endsWithin_again early again, settle_again early again, settle_again isDue again]
        refine ⟨first, endsWithin_mono (by omega) later, ?_⟩
        rw [settle_of_endsWithin (by omega) later, same]
      · obtain rfl := stays s s' fault stopped
        rw [settle_stopped early stopped]
        exact ⟨endsWithin_stopped stopped n, h, rfl⟩

/-- Where both loops end, one behind the other, the longer one ends. -/
theorem endsWithin_of_settle {n m : Nat} {s : σ} (sooner : ∀ s, earlier s = true → due s = true)
    (h : endsWithin earlier step n s = true)
    (h' : endsWithin due step m (settle earlier step n s).state = true) :
    endsWithin due step (n + m) s = true := by
  induction n generalizing s with
  | zero => exact endsWithin_mono (by omega) h'
  | succ n ih =>
    rw [Nat.add_right_comm]
    cases early : earlier s with
    | false =>
      rw [settle_rests early] at h'
      exact endsWithin_mono (by omega) h'
    | true =>
      have isDue := sooner s early
      rcases Step.done_or_stopped (step s) with ⟨s', again⟩ | ⟨s', fault, stopped⟩
      · rw [endsWithin_again early again] at h
        rw [settle_again early again] at h'
        rw [endsWithin_again isDue again]
        exact ih h h'
      · exact endsWithin_stopped stopped _

end Behind

/-! ## The same loop on a part of the state -/

section Lift
variable {due' : τ → Bool} {step' : τ → Step τ Unit} {lift : σ → τ}

theorem settle_lift (sameDue : ∀ s, due' (lift s) = due s)
    (sameStep : ∀ s, step' (lift s) = (step s).mapState lift) (n : Nat) (s : σ) :
    settle due' step' n (lift s) = (settle due step n s).mapState lift := by
  induction n generalizing s with
  | zero => rfl
  | succ n ih =>
    have isSame := sameDue s
    cases isDue : due s with
    | false =>
      rw [settle_rests (isSame.trans isDue), settle_rests isDue]
      rfl
    | true =>
      have stepped := sameStep s
      rcases Step.done_or_stopped (step s) with ⟨s', again⟩ | ⟨s', fault, stopped⟩
      · rw [again] at stepped
        rw [settle_again (isSame.trans isDue) stepped, settle_again isDue again]
        exact ih s'
      · rw [stopped] at stepped
        rw [settle_stopped (isSame.trans isDue) stepped, settle_stopped isDue stopped]
        rfl

theorem endsWithin_lift (sameDue : ∀ s, due' (lift s) = due s)
    (sameStep : ∀ s, step' (lift s) = (step s).mapState lift) (n : Nat) (s : σ) :
    endsWithin due' step' n (lift s) = endsWithin due step n s := by
  induction n generalizing s with
  | zero => rw [endsWithin, endsWithin, sameDue]
  | succ n ih =>
    have isSame := sameDue s
    cases isDue : due s with
    | false => rw [endsWithin_rests (isSame.trans isDue), endsWithin_rests isDue]
    | true =>
      have stepped := sameStep s
      rcases Step.done_or_stopped (step s) with ⟨s', again⟩ | ⟨s', fault, stopped⟩
      · rw [again] at stepped
        rw [endsWithin_again (isSame.trans isDue) stepped, endsWithin_again isDue again]
        exact ih s'
      · rw [stopped] at stepped
        rw [endsWithin_stopped stepped, endsWithin_stopped stopped]

end Lift

/-! ## Finitely many codes -/

/-- The state after `i` steps, none of which counts whether it was due. -/
def afterSteps (step : σ → Step σ Unit) (i : Nat) (s : σ) : σ := (fun s => (step s).state)^[i] s

theorem afterSteps_again {s s' : σ} (again : step s = .done s' ()) (i : Nat) :
    afterSteps step (i + 1) s = afterSteps step i s' := by
  rw [afterSteps, Function.iterate_succ_apply, again]
  rfl

theorem afterSteps_succ (i : Nat) (s : σ) :
    afterSteps step (i + 1) s = (step (afterSteps step i s)).state :=
  Function.iterate_succ_apply' _ i s

theorem endsWithin_of_afterSteps {i k : Nat} {s : σ}
    (h : endsWithin due step k (afterSteps step i s) = true) :
    endsWithin due step (i + k) s = true := by
  induction i generalizing s with
  | zero => exact endsWithin_mono (by omega) h
  | succ i ih =>
    rw [Nat.add_right_comm]
    cases isDue : due s with
    | false => exact endsWithin_rests isDue _
    | true =>
      rcases Step.done_or_stopped (step s) with ⟨s', again⟩ | ⟨s', fault, stopped⟩
      · rw [afterSteps_again again] at h
        rw [endsWithin_again isDue again]
        exact ih h
      · exact endsWithin_stopped stopped _

theorem endsWithin_afterSteps {i k : Nat} {s : σ} (h : endsWithin due step (i + k) s = true)
    (notYet : endsWithin due step i s = false) :
    endsWithin due step k (afterSteps step i s) = true := by
  induction i generalizing s with
  | zero =>
    rw [Nat.zero_add] at h
    exact h
  | succ i ih =>
    rw [Nat.add_right_comm] at h
    cases isDue : due s with
    | false =>
      rw [endsWithin_rests isDue] at notYet
      cases notYet
    | true =>
      rcases Step.done_or_stopped (step s) with ⟨s', again⟩ | ⟨s', fault, stopped⟩
      · rw [endsWithin_again isDue again] at h notYet
        rw [afterSteps_again again]
        exact ih h notYet
      · rw [endsWithin_stopped stopped] at notYet
        cases notYet

section Codes
variable {β : Type} {code : σ → β}

/-- All that a loop does hangs on the code of its state. -/
structure Coded (due : σ → Bool) (step : σ → Step σ Unit) (code : σ → β) : Prop where
  due : ∀ s s', code s = code s' → due s = due s'
  result : ∀ s s', code s = code s' → (step s).result = (step s').result
  state : ∀ s s', code s = code s' → code (step s).state = code (step s').state

theorem Coded.endsWithin (h : Coded due step code) (n : Nat) {s s' : σ} (same : code s = code s') :
    endsWithin due step n s = endsWithin due step n s' := by
  induction n generalizing s s' with
  | zero => rw [GcodeSender.endsWithin, GcodeSender.endsWithin, h.due s s' same]
  | succ n ih =>
    have isSame := h.due s s' same
    have sameResult := h.result s s' same
    have sameState := h.state s s' same
    cases isDue : due s with
    | false => rw [endsWithin_rests isDue, endsWithin_rests (isSame.symm.trans isDue)]
    | true =>
      rcases Step.done_or_stopped (step s) with ⟨r, again⟩ | ⟨r, fault, stopped⟩ <;>
        rcases Step.done_or_stopped (step s') with ⟨r', again'⟩ | ⟨r', fault', stopped'⟩
      · rw [again, again'] at sameState
        rw [endsWithin_again isDue again, endsWithin_again (isSame.symm.trans isDue) again']
        exact ih sameState
      · rw [again, stopped'] at sameResult
        cases sameResult
      · rw [stopped, again'] at sameResult
        cases sameResult
      · rw [endsWithin_stopped stopped, endsWithin_stopped stopped']

/-- Codes may be written down in another way. -/
theorem Coded.comp {γ : Type} {write : β → γ} (h : Coded due step code)
    (injective : Function.Injective write) : Coded due step (write ∘ code) where
  due s s' same := h.due s s' (injective same)
  result s s' same := h.result s s' (injective same)
  state s s' same := congrArg write (h.state s s' (injective same))

/-- A loop that ends, ends within as many steps as there are codes: between two states of one code
it would go in a circle. -/
theorem Ends.endsWithin_card [Fintype β] (coded : Coded due step code) {s : σ}
    (h : Ends due step s) : endsWithin due step (Fintype.card β) s = true := by
  classical
  have least := Nat.find_spec h
  have soonest : ∀ m < Nat.find h, endsWithin due step m s = false :=
    fun m lt => Bool.eq_false_iff.2 (Nat.find_min h lt)
  generalize Nat.find h = n at least soonest
  by_contra late
  have few : Fintype.card β < n := by
    by_contra le
    exact late (endsWithin_mono (by omega) least)
  obtain ⟨i, j, different, same⟩ := Fintype.exists_ne_map_eq_of_card_lt
    (fun i : Fin n => code (afterSteps step i s)) (by simpa using few)
  wlog lt : i < j generalizing i j
  · exact this j i different.symm same.symm (lt_of_le_of_ne (not_lt.1 lt) different.symm)
  -- the steps between the two can be left out
  have fromSecond : endsWithin due step (n - j) (afterSteps step j s) = true :=
    endsWithin_afterSteps (by rwa [Nat.add_sub_cancel' (by omega)]) (soonest j j.2)
  have fromFirst : endsWithin due step (n - j) (afterSteps step i s) = true := by
    rw [coded.endsWithin _ same]
    exact fromSecond
  have sooner := endsWithin_of_afterSteps fromFirst
  have tooSoon := soonest (i + (n - j)) (by omega)
  rw [sooner] at tooSoon
  cases tooSoon

end Codes

end GcodeSender
