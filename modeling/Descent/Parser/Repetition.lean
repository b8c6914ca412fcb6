import Descent.Parser.Basic

/-!
# Repetition

Each round of a repetition is a choice between one more item and stopping, by the
rule of ordered choice: a failure that read nothing ends the repetition in the state
before that round, and any other failure is the failure of the whole.  A round that
succeeds without reading would be repeated for ever, and is an error.

Main definitions:

- `Reply.nextRound`: what a repetition makes of the reply of one round.
- `Parser.many`.
-/

namespace Descent

variable {m : Type → Type} {σ π α : Type}

/-- The message of a repetition whose parser succeeded without reading. -/
def Parser.emptyIterationMessage : String :=
  "many: parser accepted empty input"

/-- What a repetition makes of one round, given the items so far, newest first, and the
state that the round started from. -/
def Reply.nextRound (items : List α) (entry : State σ π) (reply : Reply σ π α) :
    Flow (List α × State σ π) (Reply σ π (List α)) :=
  match reply.result, reply.state.consumed with
  | .ok value, true => .next (value :: items, reply.state)
  | .ok _, false => .done (.errorHere Parser.emptyIterationMessage reply.state)
  | .error e, true => .done (.error e reply.state)
  | .error _, false => .done (.ok items.reverse entry)

namespace Reply

/-- A round that read something adds its value, and the repetition goes on. -/
theorem nextRound_ok_of_consumed (items : List α) (entry : State σ π) (value : α)
    {s : State σ π} (h : s.consumed = true) :
    nextRound items entry (ok value s) = .next (value :: items, s) := by
  simp [nextRound, ok, h]

/-- A round that succeeded without reading is an error. -/
theorem nextRound_ok_of_not_consumed (items : List α) (entry : State σ π) (value : α)
    {s : State σ π} (h : s.consumed = false) :
    nextRound items entry (ok value s) = .done (errorHere Parser.emptyIterationMessage s) := by
  simp [nextRound, ok, h]

/-- A round that failed after reading fails the repetition. -/
theorem nextRound_error_of_consumed (items : List α) (entry : State σ π) (e : ParseError π)
    {s : State σ π} (h : s.consumed = true) :
    nextRound items entry (error e s) = .done (error e s) := by
  simp [nextRound, error, h]

/-- A round that failed without reading stops the repetition where the round started. -/
theorem nextRound_error_of_not_consumed (items : List α) (entry : State σ π)
    (e : ParseError π) {s : State σ π} (h : s.consumed = false) :
    nextRound items entry (error e s) = .done (ok items.reverse entry) := by
  simp [nextRound, error, h]

end Reply

namespace Parser

/-- One round of a repetition: the parser is run with the flag cleared. -/
def round [Monad m] (p : Parser m σ π α) (fuel : Nat) :
    List α × State σ π → OptionT m (Flow (List α × State σ π) (Reply σ π (List α)))
  | (items, s) => Reply.nextRound items s <$> p.parse fuel (s.withConsumed false)

/-- Repeats a parser as often as it succeeds, and gives the values in order. -/
def many [Host m] (p : Parser m σ π α) : Parser m σ π (List α) :=
  ⟨fun fuel s => Host.loop fuel (p.round fuel) ([], s)⟩

end Parser

end Descent
