/-!
# Hosts

Parsers run inside a host: a monad that carries the effects of whatever surrounds
the parse, such as failures of its own, suspensions or a log.  A host also says how
it runs a loop, so that a host that can loop in place need not nest one `bind` per
round.

Main definitions:

- `Flow`: what one round of a loop decides.
- `iterateByBind`: the loop that every monad has.
- `Host`: a monad with a loop of its own; `Id`, `Except ε` and `Option` are hosts.
- `Host.loop`: the loop for steps that may run out of fuel themselves.
-/

namespace Descent

variable {m : Type → Type} {α β γ ε : Type}

/-! ## Rounds -/

/-- What one round of a loop decides: go on with another seed, or stop with a result. -/
inductive Flow (α β : Type) where
  | next (seed : α)
  | done (result : β)

namespace Flow

/-- Turns a round that may be missing into one that stops without a result. -/
def settle : Option (Flow α β) → Flow α (Option β)
  | none => done none
  | some (next seed) => next seed
  | some (done result) => done (some result)

@[simp]
theorem settle_none : settle (none : Option (Flow α β)) = done none :=
  rfl

@[simp]
theorem settle_next (seed : α) : settle (some (next seed) : Option (Flow α β)) = next seed :=
  rfl

@[simp]
theorem settle_done (result : β) :
    settle (some (done result) : Option (Flow α β)) = done (some result) :=
  rfl

end Flow

/-! ## Loops -/

/-- Runs at most the given number of rounds, binding each to the one before.  The result
is missing if no round stopped. -/
def iterateByBind [Monad m] : Nat → (α → m (Flow α β)) → α → m (Option β)
  | 0, _, _ => pure none
  | rounds + 1, step, seed =>
      step seed >>= fun
        | .next seed => iterateByBind rounds step seed
        | .done result => pure (some result)

@[simp]
theorem iterateByBind_zero [Monad m] (step : α → m (Flow α β)) (seed : α) :
    iterateByBind 0 step seed = pure none :=
  rfl

/-- A monad with a loop.  The loop runs at most the given number of rounds, and has no
result if none of them stopped. -/
class Host (m : Type → Type) extends Monad m where
  /-- Repeats a step from a seed until it stops. -/
  iterate {α β : Type} : Nat → (α → m (Flow α β)) → α → m (Option β) := iterateByBind

/-- Repeats a step that may itself run out of fuel; the loop then ends without a result. -/
def Host.loop [Host m] (rounds : Nat) (step : α → OptionT m (Flow α β)) (seed : α) :
    OptionT m β :=
  OptionT.mk (Option.join <$> Host.iterate rounds (fun a => Flow.settle <$> (step a).run) seed)

/-! ## Hosts that loop in place -/

/-- Repeats a step without effects. -/
def iteratePure : Nat → (α → Flow α β) → α → Option β
  | 0, _, _ => none
  | rounds + 1, step, seed =>
      match step seed with
      | .next seed => iteratePure rounds step seed
      | .done result => some result

/-- The host without effects. -/
instance : Host Id where
  iterate := iteratePure

/-- Repeats a step that may fail, and stops at the first failure. -/
def iterateExcept : Nat → (α → Except ε (Flow α β)) → α → Except ε (Option β)
  | 0, _, _ => .ok none
  | rounds + 1, step, seed =>
      match step seed with
      | .ok (.next seed) => iterateExcept rounds step seed
      | .ok (.done result) => .ok (some result)
      | .error failure => .error failure

/-- A host that can fail with a value of its own. -/
instance : Host (Except ε) where
  iterate := iterateExcept

/-- A host that can fail without saying why. -/
instance : Host Option where

end Descent
