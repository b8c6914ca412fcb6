import Descent.Error
import Descent.Input

/-!
# Parser states and replies

A state holds the input that is left, the position of its first item, and a flag
that says whether the current attempt has read anything.  The flag is what an
ordered choice looks at when it decides whether the other branch may be tried.
A reply is what one run of a parser hands back: a value or an error, and the state
it ended in, which is kept on failure too.

Main definitions:

- `State`, `State.start`, `State.resume`, `State.advance`, `State.withConsumed`.
- `State.next?` reads one item, `State.readAll?` a fixed list of items.
- `Reply`.
-/

namespace Descent

variable {σ τ π : Type}

/-- What a parser runs on: the rest of the input, where it starts, and whether the
current attempt has read anything. -/
structure State (σ π : Type) where
  input : σ
  position : π
  consumed : Bool
deriving DecidableEq, Inhabited, Repr

namespace State

/-- The state that takes an input up at a given position, with nothing read. -/
def resume (input : σ) (position : π) : State σ π :=
  ⟨input, position, false⟩

/-- The state in which a run starts on a whole input. -/
def start [Position π] (input : σ) : State σ π :=
  State.resume input Position.initial

/-- The same place with the flag replaced. -/
def withConsumed (s : State σ π) (consumed : Bool) : State σ π :=
  { s with consumed }

/-- Moves on to another place, which counts as reading. -/
def advance (_ : State σ π) (input : σ) (position : π) : State σ π :=
  ⟨input, position, true⟩

@[simp]
theorem input_withConsumed (s : State σ π) (b : Bool) : (s.withConsumed b).input = s.input :=
  rfl

@[simp]
theorem position_withConsumed (s : State σ π) (b : Bool) :
    (s.withConsumed b).position = s.position :=
  rfl

@[simp]
theorem consumed_withConsumed (s : State σ π) (b : Bool) : (s.withConsumed b).consumed = b :=
  rfl

@[simp]
theorem withConsumed_withConsumed (s : State σ π) (b c : Bool) :
    (s.withConsumed b).withConsumed c = s.withConsumed c :=
  rfl

@[simp]
theorem withConsumed_self (s : State σ π) : s.withConsumed s.consumed = s :=
  rfl

@[simp]
theorem consumed_advance (s : State σ π) (input : σ) (position : π) :
    (s.advance input position).consumed = true :=
  rfl

/-! ## Reading -/

/-- Reads one item: the item and the state after it, or nothing at the end of the input. -/
def next? [Input σ τ π] (s : State σ π) : Option (τ × State σ π) :=
  match Input.next? s.input with
  | none => none
  | some (x, rest) => some (x, s.advance rest (Input.advance σ s.position x))

/-- Reads exactly the given items; nothing unless the input starts with all of them. -/
def readAll? [Input σ τ π] [BEq τ] : List τ → State σ π → Option (State σ π)
  | [], s => some s
  | x :: xs, s =>
      match s.next? with
      | some (y, rest) => if y == x then readAll? xs rest else none
      | none => none

@[simp]
theorem readAll?_nil [Input σ τ π] [BEq τ] (s : State σ π) : readAll? [] s = some s :=
  rfl

theorem next?_eq_none [Input σ τ π] {s : State σ π} (h : Input.next? s.input = none) :
    s.next? = none := by
  simp [next?, h]

theorem next?_eq_some [Input σ τ π] {s : State σ π} {x : τ} {rest : σ}
    (h : Input.next? s.input = some (x, rest)) :
    s.next? = some (x, s.advance rest (Input.advance σ s.position x)) := by
  simp [next?, h]

/-- Reading does not look at the flag. -/
@[simp]
theorem next?_withConsumed [Input σ τ π] (s : State σ π) (b : Bool) :
    (s.withConsumed b).next? = s.next? :=
  rfl

/-- Reading an item sets the flag. -/
theorem consumed_of_next? [Input σ τ π] {s t : State σ π} {x : τ} (h : s.next? = some (x, t)) :
    t.consumed = true := by
  unfold next? at h
  split at h
  · simp at h
  · simp only [Option.some.injEq, Prod.mk.injEq] at h
    simp [← h.2]

/-- Reading at least one item sets the flag. -/
theorem consumed_of_readAll? [Input σ τ π] [BEq τ] {x : τ} {xs : List τ} {s t : State σ π}
    (h : readAll? (x :: xs) s = some t) : t.consumed = true := by
  induction xs generalizing x s with
  | nil =>
      unfold readAll? at h
      split at h
      · rename_i y rest hnext
        split at h
        · obtain rfl := Option.some.inj h
          exact consumed_of_next? hnext
        · simp at h
      · simp at h
  | cons y ys ih =>
      unfold readAll? at h
      split at h
      · split at h
        · exact ih h
        · simp at h
      · simp at h

end State

/-! ## Replies -/

/-- The end of one run: a value or an error, and the state that the run ended in. -/
structure Reply (σ π α : Type) where
  result : Except (ParseError π) α
  state : State σ π

namespace Reply

variable {α β : Type}

/-- The run gave a value. -/
def ok (value : α) (state : State σ π) : Reply σ π α :=
  ⟨.ok value, state⟩

/-- The run failed with an error. -/
def error (error : ParseError π) (state : State σ π) : Reply σ π α :=
  ⟨.error error, state⟩

/-- The run failed at the place where it ended. -/
def errorHere (message : String) (state : State σ π) : Reply σ π α :=
  .error ⟨message, state.position⟩ state

/-- Applies a function to the value. -/
def map (f : α → β) (reply : Reply σ π α) : Reply σ π β :=
  ⟨reply.result.map f, reply.state⟩

/-- Applies a function to the error. -/
def mapError (f : ParseError π → ParseError π) (reply : Reply σ π α) : Reply σ π α :=
  ⟨reply.result.mapError f, reply.state⟩

@[simp]
theorem map_ok (f : α → β) (a : α) (s : State σ π) : (ok a s).map f = ok (f a) s :=
  rfl

@[simp]
theorem map_error (f : α → β) (e : ParseError π) (s : State σ π) :
    (error e s : Reply σ π α).map f = error e s :=
  rfl

theorem map_id (reply : Reply σ π α) : reply.map id = reply := by
  rcases reply with ⟨_ | value, state⟩
  · rfl
  · rfl

theorem map_map {γ : Type} (f : α → β) (g : β → γ) (reply : Reply σ π α) :
    (reply.map f).map g = reply.map (g ∘ f) := by
  rcases reply with ⟨_ | value, state⟩
  · rfl
  · rfl

@[simp]
theorem mapError_ok (f : ParseError π → ParseError π) (a : α) (s : State σ π) :
    (ok a s).mapError f = ok a s :=
  rfl

@[simp]
theorem mapError_error (f : ParseError π → ParseError π) (e : ParseError π) (s : State σ π) :
    (error e s : Reply σ π α).mapError f = error (f e) s :=
  rfl

end Reply

end Descent
