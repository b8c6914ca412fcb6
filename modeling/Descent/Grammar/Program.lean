import Descent.Grammar.Effects
import Descent.Grammar.Expr

/-!
# Programs of hosts

A grammar can run programs in the host.  They compute values with expressions and
have the effects that the host offers.

Main definitions:

- `Program`: pure values, sequences, loops and effects.
- `Program.run`: the computation that a program describes.
-/

namespace Descent

variable {σ π : Type}

/-- Programs that run in a host. -/
inductive Program (σ π : Type) where
  | pure (value : Expr σ π)
  | map (p : Program σ π) (f : Expr σ π)
  | bind (p k : Program σ π)
  | throw (text : Expr σ π)
  | recover (p handler : Program σ π)
  | tell (entry : Expr σ π)
  | suspend (times : Nat)
  | ite (condition : Expr σ π) (p q : Program σ π)
  | iterate (seed : Expr σ π) (step : Program σ π)

/-- What a loop makes of the value of one round: an error is the next seed, and anything
else stops the loop. -/
def Value.toFlow (value : Value σ π) : Flow (Value σ π) (Value σ π) :=
  match value.asExcept with
  | .error seed => .next seed
  | .ok result => .done result

namespace Program

variable [Position π] [Coordinates π] [BEq σ] [BEq π]

/-- The computation that a program describes, given the values that its names stand for.
The fuel bounds the rounds of each loop. -/
def run {m : Type → Type} [Effects m] (fuel : Nat) (bindings : Bindings σ π) :
    Program σ π → OptionT m (Value σ π)
  | pure value => Pure.pure (value.eval bindings)
  | map p f => f.apply bindings <$> p.run fuel bindings
  | bind p k => p.run fuel bindings >>= fun value => k.run fuel (bindings.withArgument value)
  | throw text => do
      Effects.throw (m := m) (text.text bindings)
      return .unit
  | recover p handler =>
      OptionT.mk (Effects.recover (p.run fuel bindings).run fun text =>
        (handler.run fuel (bindings.withArgument (.str text))).run)
  | tell entry => do
      Effects.tell (m := m) (entry.text bindings)
      return .unit
  | suspend times => do
      Effects.suspend (m := m) times
      return .unit
  | ite condition p q =>
      if (condition.eval bindings).isTrue then p.run fuel bindings else q.run fuel bindings
  | iterate seed step =>
      Host.loop fuel
        (fun value => Value.toFlow <$> step.run fuel (bindings.withArgument value))
        (seed.eval bindings)

end Program

end Descent
