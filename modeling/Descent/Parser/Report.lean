import Descent.Parser.Basic

/-!
# Reporting

Wrappers that change what is said about a run, and not where it ends.

Main definitions:

- `mapError`, `withMessage`, `atStart`: another error.
- `withSpan`: the value together with the stretch of input that it was read from.
-/

namespace Descent.Parser

variable {m : Type → Type} {σ π α : Type} [Monad m]

/-- Applies a function to the error. -/
def mapError (p : Parser m σ π α) (f : ParseError π → ParseError π) : Parser m σ π α :=
  p.revise fun _ reply => reply.mapError f

/-- Fails with a message of its own, at the same place. -/
def withMessage (p : Parser m σ π α) (message : String) : Parser m σ π α :=
  p.mapError (·.reword message)

/-- Fails with the same message, at the place where the parser started. -/
def atStart (p : Parser m σ π α) : Parser m σ π α :=
  p.revise fun entry reply => reply.mapError (·.relocate entry.position)

/-- Gives the value with the span from where the parser started to where it ended. -/
def withSpan (p : Parser m σ π α) : Parser m σ π (α × Span π) :=
  p.revise fun entry reply => reply.map (·, ⟨entry.position, reply.state.position⟩)

end Descent.Parser
