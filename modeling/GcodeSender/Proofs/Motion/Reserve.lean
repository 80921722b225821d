/-
# `GcodeSender.Proofs.Motion.Reserve` — the reserve of ticks suffices

The course of the ticks of one slot hangs on little of a simulation:

    course slot s   where the machine is, what is in the slot, whether
                    simulation is on, and how long a tick lasts

(`coded_course`).  On a machine with rounded numbers that is sixteen words of
64 bits (`words`), so a loop of ticks that ends, ends within `(2 ^ 64) ^ 16` of them
(`endsWithin_reserve`).  `settleSlot` has these in reserve, so what it comes to
is what the loop comes to without a limit.
-/
import GcodeSender.Proofs.Motion.Tick

namespace GcodeSender

open Scalar

section
variable {α : Type} [Scalar α]

/-! ## What the ticks of a slot go by -/

/-- The position after an assignment hangs on the position before it. -/
theorem Machine.position_setPosition_congr {m m' : Machine α} (h : m.position = m'.position)
    (t : Target α) : (m.setPosition t).position = (m'.setPosition t).position := by
  rw [setPosition, setPosition, h]
  split
  · rfl
  · exact h

namespace Simulation

omit [Scalar α] in
/-- All that the ticks of a slot go by. -/
def course (slot : Slot) (s : Simulation α) : Position α × Option (Flight α) × Bool × α :=
  (s.machine.position, s.flight slot, s.enabled, s.tickMs)

omit [Scalar α] in
theorem course_eq_iff {slot : Slot} {s s' : Simulation α} :
    course slot s = course slot s' ↔
      s.machine.position = s'.machine.position ∧ s.flight slot = s'.flight slot ∧
        s.enabled = s'.enabled ∧ s.tickMs = s'.tickMs := by
  simp only [course, Prod.mk.injEq]

omit [Scalar α] in
theorem course_setFlight {slot : Slot} {s s' : Simulation α} (same : course slot s = course slot s')
    (f : Option (Flight α)) : course slot (s.setFlight slot f) = course slot (s'.setFlight slot f) := by
  obtain ⟨position, -, enabled, tickMs⟩ := course_eq_iff.1 same
  refine course_eq_iff.2 ⟨?_, by simp, ?_, ?_⟩
  · simpa using position
  · simpa using enabled
  · simpa using tickMs

theorem course_moveTo {slot : Slot} {s s' : Simulation α} (same : course slot s = course slot s')
    (p : Position α) : course slot (s.moveTo p) = course slot (s'.moveTo p) := by
  obtain ⟨position, held, enabled, tickMs⟩ := course_eq_iff.1 same
  refine course_eq_iff.2 ⟨Machine.position_setPosition_congr position _, ?_, enabled, tickMs⟩
  cases slot <;> exact held

omit [Scalar α] in
theorem course_endMotion {slot : Slot} {s s' : Simulation α} (same : course slot s = course slot s') :
    course slot s.endMotion = course slot s'.endMotion := by
  obtain ⟨position, -, enabled, tickMs⟩ := course_eq_iff.1 same
  refine course_eq_iff.2 ⟨position, ?_, enabled, tickMs⟩
  cases slot <;> rfl

/-- Ticks from the same course come to the same course, with the same result. -/
theorem tick_congr {slot : Slot} {s s' : Simulation α} (same : course slot s = course slot s') :
    (tick slot s).result = (tick slot s').result ∧
      course slot (tick slot s).state = course slot (tick slot s').state := by
  obtain ⟨position, held, enabled, tickMs⟩ := course_eq_iff.1 same
  cases taken : s.flight slot with
  | none =>
    rw [tick_empty taken, tick_empty (held.symm.trans taken)]
    exact ⟨rfl, same⟩
  | some f =>
    have taken' := held.symm.trans taken
    cases on : s.enabled with
    | false =>
      rw [tick_off taken on, tick_off taken' (enabled.symm.trans on)]
      exact ⟨rfl, course_setFlight same _⟩
    | true =>
      have on' := enabled.symm.trans on
      cases advance : f.motion.advance s.machine.position with
      | error fault =>
        rw [tick_fault taken on advance, tick_fault taken' on' (position ▸ advance)]
        exact ⟨rfl, same⟩
      | ok a =>
        have interval : s.tickInterval = s'.tickInterval := by
          rw [tickInterval, tickInterval, tickMs]
        cases goes : a.goesOn with
        | true =>
          rw [tick_goesOn taken on advance goes, tick_goesOn taken' on' (position ▸ advance) goes,
            interval]
          exact ⟨rfl, course_setFlight (course_moveTo same _) _⟩
        | false =>
          rw [tick_ends taken on advance goes, tick_ends taken' on' (position ▸ advance) goes]
          exact ⟨rfl, course_endMotion (course_moveTo same _)⟩

theorem coded_course (slot : Slot) (now : α) :
    Coded (due slot now) (tickSlot slot) (course slot : Simulation α → _) where
  due s s' same := by
    obtain ⟨-, held, -, -⟩ := course_eq_iff.1 same
    rw [due, due, held]
  result s s' same := by
    rw [tickSlot, tickSlot, Step.mapResult, Step.mapResult, (tick_congr same).1]
  state s s' same := (tick_congr same).2

end Simulation

end

/-! ## Rounded numbers -/

/-- A word of 64 bits. -/
abbrev Word64 := Fin (2 ^ 64)

/-- The word of a machine number. -/
def word (x : Float) : Word64 := x.toBits.toFin

@[simp] theorem word_inj {x y : Float} : word x = word y ↔ x = y := by
  rw [word, word, UInt64.toFin_inj, Float.toBits_inj]

/-- A truth value as a word. -/
def flagWord (b : Bool) : Word64 := if b then 1 else 0

@[simp] theorem flagWord_inj {b b' : Bool} : flagWord b = flagWord b' ↔ b = b' := by
  cases b <;> cases b' <;> decide

/-- The kind of a motion, and its eight numbers. -/
def Motion.words : Motion Float → List Word64
  | .linear m =>
    [1, word m.start.x, word m.start.y, word m.start.z, word m.step.x, word m.step.y,
      word m.step.z, word m.stepDistance, word m.total]
  | .arc m =>
    [if m.clockwise then 2 else 3, word m.centre.x, word m.centre.y, word m.radius,
      word m.stepDistance, word m.total, word m.zStep, word m.angleStep, word m.travelled]

theorem Motion.words_inj {m m' : Motion Float} (h : m.words = m'.words) : m = m' := by
  rcases m with ⟨⟨_, _, _⟩, ⟨_, _, _⟩, _, _⟩ | ⟨⟨_, _⟩, _, cw, _, _, _, _, _⟩ <;>
    rcases m' with ⟨⟨_, _, _⟩, ⟨_, _, _⟩, _, _⟩ | ⟨⟨_, _⟩, _, cw', _, _, _, _, _⟩
  · simpa [words, and_assoc] using h
  · cases cw' <;> simp [words] at h
  · cases cw <;> simp [words] at h
  · cases cw <;> cases cw' <;> simp [words] at h ⊢ <;> simp [h]

/-- What is in a slot, in eleven words. -/
def flightWords : Option (Flight Float) → List Word64
  | none => List.replicate 11 0
  | some f => word f.dueAt :: flagWord f.cancelled :: f.motion.words

theorem flightWords_inj {f f' : Option (Flight Float)} (h : flightWords f = flightWords f') :
    f = f' := by
  have kind : ∀ m : Motion Float, ∃ w rest, m.words = w :: rest ∧ w ≠ 0 := by
    rintro (m | m)
    · exact ⟨_, _, rfl, by decide⟩
    · refine ⟨_, _, rfl, ?_⟩
      split <;> decide
  rcases f with _ | ⟨m, _, _⟩ <;> rcases f' with _ | ⟨m', _, _⟩
  · rfl
  · obtain ⟨w, rest, hw, nonzero⟩ := kind m'
    simp only [flightWords, hw, List.replicate, List.cons.injEq] at h
    exact absurd h.2.2.1.symm nonzero
  · obtain ⟨w, rest, hw, nonzero⟩ := kind m
    simp only [flightWords, hw, List.replicate, List.cons.injEq] at h
    exact absurd h.2.2.1 nonzero
  · simp only [flightWords, List.cons.injEq, word_inj, flagWord_inj] at h
    obtain ⟨rfl, rfl, words⟩ := h
    rw [Motion.words_inj words]

theorem length_flightWords (f : Option (Flight Float)) : (flightWords f).length = 11 := by
  rcases f with _ | ⟨m | m, _, _⟩ <;> rfl

namespace Simulation

/-- The course of the ticks of a slot, in sixteen words. -/
def words : Position Float × Option (Flight Float) × Bool × Float → List.Vector Word64 16
  | (p, f, on, tickMs) =>
    ⟨word p.x :: word p.y :: word p.z :: flagWord on :: word tickMs :: flightWords f, by
      simp [length_flightWords]⟩

theorem words_inj : Function.Injective words := by
  rintro ⟨⟨x, y, z⟩, f, on, tickMs⟩ ⟨⟨x', y', z'⟩, f', on', tickMs'⟩ h
  have lists := congrArg Subtype.val h
  simp only [words, List.cons.injEq, word_inj, flagWord_inj] at lists
  obtain ⟨rfl, rfl, rfl, rfl, rfl, same⟩ := lists
  rw [flightWords_inj same]

/-- A loop of ticks that ends of itself ends within the reserve. -/
theorem endsWithin_reserve {slot : Slot} {now : Float} {s : Simulation Float}
    (ends : Ends (due slot now) (tickSlot slot) s) :
    endsWithin (due slot now) (tickSlot slot) tickReserve s = true := by
  have coded := (coded_course (α := Float) slot now).comp words_inj
  have few : Fintype.card (List.Vector Word64 16) = tickReserve := by
    rw [card_vector, Fintype.card_fin, tickReserve, Nat.pow_eq, Nat.pow_eq]
  rw [← few]
  exact ends.endsWithin_card coded

theorem reserve_le_tickAllowance {slot : Slot} {now : Float} {s : Simulation Float}
    (isDue : due slot now s = true) : tickReserve ≤ s.tickAllowance slot now := by
  cases taken : s.flight slot with
  | none => simp [due, taken] at isDue
  | some f =>
    rw [tickAllowance, taken]
    exact Nat.le_add_left _ _

end Simulation

end GcodeSender
