import Descent.Parser.Basic

/-!
# Access to the state

Parsers that look at the state or replace it, and read nothing.
-/

namespace Descent.Parser

variable {m : Type → Type} {σ π : Type} [Monad m]

/-- Gives the current state. -/
def getState : Parser m σ π (State σ π) :=
  ⟨fun _ s => Pure.pure (.ok s s)⟩

/-- Goes on from another state. -/
def putState (replacement : State σ π) : Parser m σ π Unit :=
  ⟨fun _ _ => Pure.pure (.ok () replacement)⟩

/-- Gives the current position. -/
def position : Parser m σ π π :=
  ⟨fun _ s => Pure.pure (.ok s.position s)⟩

/-- Sets the flag that says whether the current attempt has read anything. -/
def setConsumed (consumed : Bool) : Parser m σ π Unit :=
  ⟨fun _ s => Pure.pure (.ok () (s.withConsumed consumed))⟩

/-- Makes the current attempt count as one that has read something. -/
def consume : Parser m σ π Unit :=
  setConsumed true

/-- Makes the current attempt count as one that has read nothing. -/
def unconsume : Parser m σ π Unit :=
  setConsumed false

@[simp]
theorem parse_getState (fuel : Nat) (s : State σ π) :
    (getState : Parser m σ π (State σ π)).parse fuel s = Pure.pure (.ok s s) :=
  rfl

@[simp]
theorem parse_putState (replacement : State σ π) (fuel : Nat) (s : State σ π) :
    (putState replacement : Parser m σ π Unit).parse fuel s = Pure.pure (.ok () replacement) :=
  rfl

@[simp]
theorem parse_position (fuel : Nat) (s : State σ π) :
    (position : Parser m σ π π).parse fuel s = Pure.pure (.ok s.position s) :=
  rfl

@[simp]
theorem parse_setConsumed (consumed : Bool) (fuel : Nat) (s : State σ π) :
    (setConsumed consumed : Parser m σ π Unit).parse fuel s =
      Pure.pure (.ok () (s.withConsumed consumed)) :=
  rfl

end Descent.Parser
