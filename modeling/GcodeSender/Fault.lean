/-
# `GcodeSender.Fault` — what can stop an operation half-way

Most operations cannot fail, or answer with a refusal that leaves everything
usable.  The faults listed here stop an operation where it stands: what was
done before stays done, and the fault goes to the caller together with the
state reached (`Step`).
-/
import GcodeSender.Text.Literal

namespace GcodeSender

/-- The causes that stop an operation half-way. -/
inductive Fault where
  /-- A letter that stands for a word letter but has no word of its own. -/
  | unmappedLetter (letter : Char)
  /-- A whole number past the range of the machine. -/
  | numberTooLarge
  /-- An arc whose step per tick is zero. -/
  | zeroStep
  /-- The cosine or sine of an infinite angle. -/
  | infiniteAngle
  /-- A serial port that failed in a way the connection does not handle. -/
  | port (kind message : String)
  /-- An operation that needs a transport, asked of a connection that has none. -/
  | noTransport
  /-- The user asked to stop. -/
  | interrupted
  deriving DecidableEq, Repr

/-- The text of a fault. -/
def Fault.message : Fault → String
  | .unmappedLetter letter => Text.quoted [letter]
  | .numberTooLarge => "int too large to convert to float"
  | .zeroStep => "float division by zero"
  | .infiniteAngle => "math domain error"
  | .port _ message => message
  | .noTransport | .interrupted => ""

/-- The outcome of an operation: the state it reached, and its result or the fault that stopped
it there. -/
structure Step (σ ρ : Type) where
  state : σ
  result : Except Fault ρ

namespace Step

variable {σ τ ρ ρ' : Type}

/-- An operation that ended with a result. -/
def done (s : σ) (r : ρ) : Step σ ρ := ⟨s, .ok r⟩

/-- An operation that was stopped. -/
def stopped (s : σ) (f : Fault) : Step σ ρ := ⟨s, .error f⟩

/-- Go on with the next operation, unless the first was stopped. -/
def andThen (a : Step σ ρ) (next : ρ → σ → Step σ ρ') : Step σ ρ' :=
  match a.result with
  | .ok r => next r a.state
  | .error f => stopped a.state f

/-- The same outcome, its state seen as part of a larger one. -/
def mapState (f : σ → τ) (a : Step σ ρ) : Step τ ρ := ⟨f a.state, a.result⟩

/-- The same outcome with another result. -/
def mapResult (f : ρ → ρ') (a : Step σ ρ) : Step σ ρ' := ⟨a.state, a.result.map f⟩

end Step

end GcodeSender
