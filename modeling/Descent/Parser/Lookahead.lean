import Descent.Parser.Basic

/-!
# Looking ahead

Wrappers that run a parser and then give back some of what the state was before.

Main definitions:

- `attempt`: after a failure, as if nothing had been read.
- `lookAhead`: the state is always the one before.
- `notFollowedBy`: succeeds exactly when the parser fails, and never moves.
-/

namespace Descent.Parser

variable {m : Type → Type} {σ π α : Type} [Monad m]

/-- Runs a parser; after a failure the flag is what it was before, while the input and
the position stay where the failure left them. -/
def attempt (p : Parser m σ π α) : Parser m σ π α :=
  p.revise fun entry reply =>
    match reply.result with
    | .ok _ => reply
    | .error e => .error e (reply.state.withConsumed entry.consumed)

/-- Runs a parser and goes back to where it started, whether it succeeded or not. -/
def lookAhead (p : Parser m σ π α) : Parser m σ π α :=
  p.revise fun entry reply => { reply with state := entry }

/-- The message of a parser that succeeded where it must not. -/
def unexpectedMatchMessage : String :=
  "negative lookahead failed: unexpected match"

/-- Succeeds where the given parser fails, and fails where it succeeds; goes back to
where it started in both cases. -/
def notFollowedBy (p : Parser m σ π α) : Parser m σ π Unit :=
  p.revise fun entry reply =>
    match reply.result with
    | .ok _ => .errorHere unexpectedMatchMessage entry
    | .error _ => .ok () entry

end Descent.Parser
