import Descent.Host
import Descent.State

/-!
# Parsers

A parser takes a state to a reply, as a computation in a host.  Grammars may be
recursive and repetitions have no bound of their own, so a run is given fuel: how
deep definitions may be unfolded, and how many rounds a repetition may take.  A run
that ends does not depend on the fuel that is left over; one without an answer ran
out of it.  Fuel is handed on unchanged to every part of a parser, so it never
decides between alternatives.

Main definitions:

- `Parser`, `Parser.parse`, `Parser.runState`, `Parser.run`.
- `Parser.pure`, `Parser.andThen`, `Parser.map`: parsers are a monad.
- `Parser.perform`, `Parser.lift`: host computations as parsers that read nothing.
- `Parser.revise`: everything that a wrapper may do to a reply, knowing the state
  that the parser was entered with.
-/

namespace Descent

/-- A parser for inputs `σ` with positions `π` that gives values `α`, run in the host `m`. -/
structure Parser (m : Type → Type) (σ π α : Type) where
  /-- Runs the parser on a state with the given fuel; no reply means that the fuel ran out. -/
  parse : Nat → State σ π → OptionT m (Reply σ π α)

namespace Parser

variable {m : Type → Type} {σ π α β : Type}

/-- Two parsers are equal when they give the same computation for every fuel and state. -/
@[ext]
theorem ext {p q : Parser m σ π α} (h : ∀ fuel s, p.parse fuel s = q.parse fuel s) : p = q := by
  cases p with
  | mk f =>
      cases q with
      | mk g => exact congrArg mk (funext fun fuel => funext fun s => h fuel s)

/-- A parser is a function, so this is all that there is to show of it. -/
instance : ToString (Parser m σ π α) where
  toString _ := "Parser \x7b action: \"<function>\" \x7d"

section Monad

variable [Monad m]

/-! ## Running -/

/-- Parses a whole input from its first position. -/
def runState [Position π] (p : Parser m σ π α) (fuel : Nat) (input : σ) :
    OptionT m (Reply σ π α) :=
  p.parse fuel (State.start input)

/-- Parses a whole input and forgets the state that was reached. -/
def run [Position π] (p : Parser m σ π α) (fuel : Nat) (input : σ) :
    OptionT m (Except (ParseError π) α) :=
  Reply.result <$> p.runState fuel input

/-! ## Values -/

/-- Gives a value and leaves the state alone. -/
def pure (value : α) : Parser m σ π α :=
  ⟨fun _ s => Pure.pure (.ok value s)⟩

@[simp]
theorem parse_pure (value : α) (fuel : Nat) (s : State σ π) :
    (pure value : Parser m σ π α).parse fuel s = Pure.pure (.ok value s) :=
  rfl

/-- Runs a host computation that may need fuel and gives its value; the state is left
alone. -/
def perform (computation : Nat → OptionT m α) : Parser m σ π α :=
  ⟨fun fuel s => (Reply.ok · s) <$> computation fuel⟩

/-- Runs a host computation and gives its value; the state is left alone. -/
def lift (computation : m α) : Parser m σ π α :=
  perform fun _ => OptionT.lift computation

/-! ## Wrapping -/

/-- Runs a parser and changes its reply, knowing the state it was entered with. -/
def revise (p : Parser m σ π α) (change : State σ π → Reply σ π α → Reply σ π β) :
    Parser m σ π β :=
  ⟨fun fuel s => change s <$> p.parse fuel s⟩

@[simp]
theorem parse_revise (p : Parser m σ π α) (change : State σ π → Reply σ π α → Reply σ π β)
    (fuel : Nat) (s : State σ π) :
    (p.revise change).parse fuel s = change s <$> p.parse fuel s :=
  rfl

/-- Applies a function to the value. -/
def map (f : α → β) (p : Parser m σ π α) : Parser m σ π β :=
  p.revise fun _ reply => reply.map f

@[simp]
theorem parse_map (f : α → β) (p : Parser m σ π α) (fuel : Nat) (s : State σ π) :
    (p.map f).parse fuel s = Reply.map f <$> p.parse fuel s :=
  rfl

/-! ## Sequences -/

/-- Runs a parser, and then the parser that its value selects, where the first one ended.
A failure ends the sequence. -/
def andThen (p : Parser m σ π α) (k : α → Parser m σ π β) : Parser m σ π β :=
  ⟨fun fuel s => p.parse fuel s >>= fun reply =>
    match reply.result with
    | .ok value => (k value).parse fuel reply.state
    | .error e => Pure.pure (.error e reply.state)⟩

/-- A sequence whose first part gives a value at once. -/
@[simp]
theorem pure_andThen [LawfulMonad m] (value : α) (k : α → Parser m σ π β) :
    (pure value).andThen k = k value := by
  ext fuel s
  simp [andThen, Reply.ok]

/-- Runs two parsers in turn and gives the value of the second. -/
def seqRight (p : Parser m σ π α) (q : Parser m σ π β) : Parser m σ π β :=
  p.andThen fun _ => q

/-- Runs two parsers in turn and gives both values. -/
def pair (p : Parser m σ π α) (q : Parser m σ π β) : Parser m σ π (α × β) :=
  ⟨fun fuel s => p.parse fuel s >>= fun reply =>
    match reply.result with
    | .ok first => (Reply.map (first, ·)) <$> q.parse fuel reply.state
    | .error e => Pure.pure (.error e reply.state)⟩

instance : Monad (Parser m σ π) where
  pure := pure
  map := map
  bind := andThen

end Monad

end Parser

end Descent
