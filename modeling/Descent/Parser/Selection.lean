import Descent.Parser.Basic

/-!
# Selecting values

Parsers that keep some of the values of another parser and reject the rest.  A
rejection is a failure at the place where the other parser started, in exactly the
state it was entered with; a failure of the other parser is passed on.

Main definitions:

- `filterMap`, `filter`, `compact`.
- `partition`, `separate`, `partitionMap`: two parsers that divide the values of one
  between them.
-/

namespace Descent

variable {m : Type → Type} {σ π α β γ : Type}

/-- Keeps a value or rejects it; a rejection goes back to the state before. -/
def Reply.select (decide : α → Option β) (message : String) (entry : State σ π)
    (reply : Reply σ π α) : Reply σ π β :=
  match reply.result with
  | .ok value =>
      match decide value with
      | some kept => .ok kept reply.state
      | none => .errorHere message entry
  | .error e => .error e reply.state

@[simp]
theorem Reply.select_error (decide : α → Option β) (message : String) (entry s : State σ π)
    (e : ParseError π) : select decide message entry (error e s) = error e s :=
  rfl

theorem Reply.select_ok_of_some {decide : α → Option β} (message : String)
    (entry s : State σ π) {value : α} {kept : β} (h : decide value = some kept) :
    select decide message entry (ok value s) = ok kept s := by
  simp [select, ok, h]

theorem Reply.select_ok_of_none {decide : α → Option β} (message : String)
    (entry s : State σ π) {value : α} (h : decide value = none) :
    select decide message entry (ok value s) = errorHere message entry := by
  simp [select, ok, h]

namespace Parser

variable [Monad m]

/-- Applies a partial function to the value, and rejects the value where it is undefined. -/
def filterMap (p : Parser m σ π α) (decide : α → Option β) (message : String) :
    Parser m σ π β :=
  p.revise (Reply.select decide message)

/-- Keeps the values that a predicate accepts. -/
def filter (p : Parser m σ π α) (accept : α → Bool) (message : String) : Parser m σ π α :=
  p.filterMap (fun value => if accept value then some value else none) message

/-- The message of a parser whose value is missing. -/
def absentValueMessage : String :=
  "compact: parsed value was absent"

/-- Keeps the values that are there. -/
def compact (p : Parser m σ π (Option α)) : Parser m σ π α :=
  p.filterMap id absentValueMessage

/-! ## Dividing values between two parsers -/

/-- The message of the half that takes the rejected values, for an accepted one. -/
def predicateHeldMessage : String :=
  "partition: predicate held"

/-- The message of the half that takes the accepted values, for a rejected one. -/
def predicateFailedMessage : String :=
  "partition: predicate failed"

/-- One parser for the values that a predicate rejects, and one for those it accepts. -/
def partition (p : Parser m σ π α) (accept : α → Bool) : Parser m σ π α × Parser m σ π α :=
  (p.filter (fun value => !accept value) predicateHeldMessage,
    p.filter accept predicateFailedMessage)

/-- The message of the half that takes errors, for another value. -/
def notAnErrorMessage : String :=
  "separate: expected an Err value"

/-- The message of the half that takes results, for an error. -/
def notAnOkMessage : String :=
  "separate: expected an Ok value"

/-- One parser for the errors among the values, and one for the others. -/
def separate (p : Parser m σ π (Except β γ)) : Parser m σ π β × Parser m σ π γ :=
  (p.filterMap (fun | .error left => some left | .ok _ => none) notAnErrorMessage,
    p.filterMap (fun | .ok right => some right | .error _ => none) notAnOkMessage)

/-- Classifies the values, and gives one parser for each class. -/
def partitionMap (p : Parser m σ π α) (classify : α → Except β γ) :
    Parser m σ π β × Parser m σ π γ :=
  (p.map classify).separate

end Parser

end Descent
