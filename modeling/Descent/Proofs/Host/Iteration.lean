import Descent.Host.Logged
import Descent.Host.Resumption

/-!
# Loops and binding

A host may run its loops in place, but what a loop means is fixed by the monad: each round is
bound to the one before.  This file shows that the loops in place mean just that, and gives
the equations by which later proofs unroll a loop in any such host.

Main definitions:

- `LawfulHost`: a host that keeps the monad laws and loops by binding.

Main results:

- Theorems `iteratePure_eq_iterateByBind`, `iterateExcept_eq_iterateByBind` and
  `Resumption.iterate_eq_iterateByBind`: the loops in place bind their rounds.
- Theorem `Host.loop_succ`: the first round of a loop that may run out of fuel.
-/

namespace Descent

variable {m : Type → Type} {α β ε ω : Type}

/-! ## Hosts that loop by binding -/

theorem iterateByBind_succ [Monad m] (rounds : Nat) (step : α → m (Flow α β)) (seed : α) :
    iterateByBind (rounds + 1) step seed =
      step seed >>= fun
        | .next seed => iterateByBind rounds step seed
        | .done result => pure (some result) :=
  rfl

/-- A host that keeps the monad laws, and whose loop binds each round to the one before. -/
class LawfulHost (m : Type → Type) [Host m] : Prop extends LawfulMonad m where
  iterate_eq {α β : Type} (rounds : Nat) (step : α → m (Flow α β)) (seed : α) :
    Host.iterate rounds step seed = iterateByBind rounds step seed

/-- Without effects, binding a round is going on with its result. -/
theorem iteratePure_eq_iterateByBind (rounds : Nat) (step : α → Id (Flow α β)) (seed : α) :
    iteratePure rounds step seed = iterateByBind (m := Id) rounds step seed := by
  induction rounds generalizing seed with
  | zero => rfl
  | succ rounds ih =>
      have round : iterateByBind (m := Id) (rounds + 1) step seed =
          match step seed with
          | .next seed => iterateByBind (m := Id) rounds step seed
          | .done result => some result := rfl
      rw [round, iteratePure]
      cases step seed with
      | next seed => exact ih seed
      | done result => rfl

/-- Returning at the first failure is what binding does. -/
theorem iterateExcept_eq_iterateByBind (rounds : Nat) (step : α → Except ε (Flow α β))
    (seed : α) : iterateExcept rounds step seed = iterateByBind rounds step seed := by
  induction rounds generalizing seed with
  | zero => rfl
  | succ rounds ih =>
      rw [iterateByBind_succ, iterateExcept]
      cases step seed with
      | error failure => rfl
      | ok flow =>
          cases flow with
          | next seed => exact ih seed
          | done result => rfl

/-- A loop that is suspended with its round is a round that is bound. -/
theorem Resumption.iterate_eq_iterateByBind (rounds : Nat)
    (step : α → Resumption (Flow α β)) (seed : α) :
    Resumption.iterate rounds step seed = iterateByBind rounds step seed := by
  induction rounds generalizing seed with
  | zero => rfl
  | succ rounds ih =>
      rw [iterateByBind_succ, Resumption.iterate]
      cases step seed with
      | ready flow =>
          cases flow with
          | next seed => exact ih seed
          | done result => rfl
      | pending resume =>
          refine congrArg pending (funext fun _ => congrArg (resume ()).bind ?_)
          funext flow
          cases flow with
          | next seed => exact ih seed
          | done result => rfl

instance : LawfulHost Id where
  iterate_eq := iteratePure_eq_iterateByBind

instance : LawfulHost (Except ε) where
  iterate_eq := iterateExcept_eq_iterateByBind

instance : LawfulHost Resumption where
  iterate_eq := Resumption.iterate_eq_iterateByBind

instance : LawfulHost Option where
  iterate_eq _ _ _ := rfl

instance : LawfulHost (Logged ω) where
  iterate_eq _ _ _ := rfl

/-! ## Loops that may run out of fuel -/

/-- Nothing can be done with a value that is missing. -/
theorem Host.map_failure [Monad m] [LawfulMonad m] (f : α → β) :
    f <$> (failure : OptionT m α) = failure := by
  refine OptionT.ext ?_
  rw [OptionT.run_map]
  exact map_pure _ none

section Loop

variable [Host m] [LawfulHost m]

@[simp]
theorem Host.loop_zero (step : α → OptionT m (Flow α β)) (seed : α) :
    Host.loop 0 step seed = failure := by
  refine OptionT.ext ?_
  rw [Host.loop, LawfulHost.iterate_eq]
  simp

/-- A loop runs its first round, and goes on from the next seed or stops. -/
theorem Host.loop_succ (rounds : Nat) (step : α → OptionT m (Flow α β)) (seed : α) :
    Host.loop (rounds + 1) step seed =
      step seed >>= fun
        | .next seed => Host.loop rounds step seed
        | .done result => pure result := by
  refine OptionT.ext ?_
  simp only [Host.loop, LawfulHost.iterate_eq, OptionT.run_mk, OptionT.run_bind,
    iterateByBind_succ, map_bind, bind_map_left, Option.elimM]
  refine bind_congr fun flow => ?_
  match flow with
  | none => simp
  | some (.next seed) => rfl
  | some (.done result) => simp

end Loop

end Descent
