import Descent.Parser.Basic

/-!
# Failing

Parsers that only fail.  They leave the state alone, so that an alternative may
be tried after them.
-/

namespace Descent.Parser

variable {m : Type → Type} {σ π α : Type} [Monad m]

/-- Fails with a message at the current position. -/
def fail (message : String) : Parser m σ π α :=
  ⟨fun _ s => Pure.pure (.errorHere message s)⟩

/-- Fails with a message about a given position. -/
def failAt (message : String) (position : π) : Parser m σ π α :=
  ⟨fun _ s => Pure.pure (.error ⟨message, position⟩ s)⟩

/-- The message of a choice between no alternatives. -/
def noAlternative : String :=
  "No alternative"

/-- The choice between no alternatives. -/
def empty : Parser m σ π α :=
  fail noAlternative

@[simp]
theorem parse_fail (message : String) (fuel : Nat) (s : State σ π) :
    (fail message : Parser m σ π α).parse fuel s = Pure.pure (.errorHere message s) :=
  rfl

@[simp]
theorem parse_failAt (message : String) (position : π) (fuel : Nat) (s : State σ π) :
    (failAt message position : Parser m σ π α).parse fuel s =
      Pure.pure (.error ⟨message, position⟩ s) :=
  rfl

end Descent.Parser
