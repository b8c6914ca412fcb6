import Descent.Host

/-!
# How computations end

Some hosts settle a computation at once: it has a value, or the host has failed.  The host
without effects and the hosts that fail with a value of their own are of this kind.  A
computation that may also run out of fuel then ends in one of three ways, and everything
that a host does can be followed on these outcomes alone.

Main definitions:

- `Outcome`: failed, unfinished, or delivered; with `Outcome.bind`, `Outcome.map` and
  `Outcome.loop`.
- `Outcome.Agree`: two computations end in the same way.
- `ImmediateHost`: hosts whose computations settle at once; `Id` and `Except ε` are.
- `Host.outcome`: how a computation ends.

Main results:

- Theorems `Host.outcome_map` and `Host.outcome_bind`: outcomes follow the host.
- Theorem `Host.outcome_loop`: the loop of a host is the loop on outcomes.
-/

namespace Descent

variable {m : Type → Type} {α β γ ε : Type}

/-! ## Outcomes -/

/-- The end of a computation: the host failed, the fuel ran out, or there is a value. -/
inductive Outcome (ε α : Type) where
  | failed (failure : ε)
  | unfinished
  | delivered (value : α)

namespace Outcome

/-- Goes on with the value, if there is one. -/
def bind : Outcome ε α → (α → Outcome ε β) → Outcome ε β
  | failed failure, _ => failed failure
  | unfinished, _ => unfinished
  | delivered value, f => f value

/-- Applies a function to the value. -/
def map (f : α → β) (x : Outcome ε α) : Outcome ε β :=
  x.bind fun a => delivered (f a)

@[simp]
theorem failed_bind (failure : ε) (f : α → Outcome ε β) :
    (failed failure).bind f = failed failure :=
  rfl

@[simp]
theorem unfinished_bind (f : α → Outcome ε β) : (unfinished : Outcome ε α).bind f = unfinished :=
  rfl

@[simp]
theorem delivered_bind (a : α) (f : α → Outcome ε β) : (delivered a).bind f = f a :=
  rfl

@[simp]
theorem failed_map (failure : ε) (f : α → β) : (failed failure).map f = failed failure :=
  rfl

@[simp]
theorem unfinished_map (f : α → β) : (unfinished : Outcome ε α).map f = unfinished :=
  rfl

@[simp]
theorem delivered_map (a : α) (f : α → β) : (delivered a : Outcome ε α).map f = delivered (f a) :=
  rfl

/-- A sequence delivers a value exactly when its two parts do. -/
theorem bind_eq_delivered {x : Outcome ε α} {f : α → Outcome ε β} {b : β} :
    x.bind f = delivered b ↔ ∃ a, x = delivered a ∧ f a = delivered b := by
  cases x with
  | failed failure => simp
  | unfinished => simp
  | delivered a => simp

/-- A changed value comes from a value. -/
theorem map_eq_delivered {f : α → β} {x : Outcome ε α} {b : β} :
    x.map f = delivered b ↔ ∃ a, x = delivered a ∧ f a = b := by
  simp [map, bind_eq_delivered]

/-- Changing the value ends a computation no earlier and no later. -/
@[simp]
theorem map_eq_unfinished {f : α → β} {x : Outcome ε α} :
    x.map f = unfinished ↔ x = unfinished := by
  cases x with
  | failed failure => simp
  | unfinished => simp
  | delivered a => simp

/-- Two computations end in the same way, and with related values if they have values. -/
inductive Agree (R : α → β → Prop) : Outcome ε α → Outcome ε β → Prop where
  | failed (failure : ε) : Agree R (failed failure) (failed failure)
  | unfinished : Agree R unfinished unfinished
  | delivered {a : α} {b : β} (related : R a b) : Agree R (delivered a) (delivered b)

/-- One computation with two functions applied to its value. -/
theorem Agree.map {R : β → γ → Prop} {f : α → β} {g : α → γ} (x : Outcome ε α)
    (h : ∀ a, R (f a) (g a)) : Agree R (x.map f) (x.map g) := by
  cases x with
  | failed failure => exact .failed failure
  | unfinished => exact .unfinished
  | delivered a => exact .delivered (h a)

/-- Repeats a step from a seed for at most the given number of rounds. -/
def loop : Nat → (α → Outcome ε (Flow α β)) → α → Outcome ε β
  | 0, _, _ => unfinished
  | rounds + 1, step, seed =>
      (step seed).bind fun
        | .next seed => loop rounds step seed
        | .done result => delivered result

@[simp]
theorem loop_zero (step : α → Outcome ε (Flow α β)) (seed : α) : loop 0 step seed = unfinished :=
  rfl

theorem loop_succ (rounds : Nat) (step : α → Outcome ε (Flow α β)) (seed : α) :
    loop (rounds + 1) step seed =
      (step seed).bind fun
        | .next seed => loop rounds step seed
        | .done result => delivered result :=
  rfl

/-- A loop that delivers still does so when it may take more rounds, and when its steps deliver
more often. -/
theorem loop_mono {step step' : α → Outcome ε (Flow α β)}
    (h : ∀ seed flow, step seed = delivered flow → step' seed = delivered flow)
    {rounds rounds' : Nat} (more : rounds ≤ rounds') {seed : α} {result : β}
    (ends : loop rounds step seed = delivered result) :
    loop rounds' step' seed = delivered result := by
  induction rounds generalizing seed rounds' with
  | zero => cases ends
  | succ rounds ih =>
      obtain ⟨rounds', rfl⟩ : ∃ n, rounds' = n + 1 := ⟨rounds' - 1, by omega⟩
      rw [loop_succ, bind_eq_delivered] at ends ⊢
      rcases ends with ⟨flow, first, rest⟩
      refine ⟨flow, h seed flow first, ?_⟩
      cases flow with
      | next seed => exact ih (Nat.le_of_succ_le_succ more) rest
      | done result => exact rest

/-- The outcome of a settled computation that may lack a value. -/
def ofExcept : Except ε (Option α) → Outcome ε α
  | .error failure => failed failure
  | .ok none => unfinished
  | .ok (some value) => delivered value

end Outcome

/-! ## Hosts that settle at once -/

/-- A host whose computations settle at once, each with a value or with a failure of the
host, and whose operations are those of failing computations. -/
class ImmediateHost (m : Type → Type) [Host m] (ε : outParam Type) where
  /-- The value of a computation, or the failure of the host. -/
  settle {α : Type} : m α → Except ε α
  settle_pure {α : Type} (a : α) : settle (pure a : m α) = .ok a
  settle_map {α β : Type} (f : α → β) (x : m α) : settle (f <$> x) = f <$> settle x
  settle_bind {α β : Type} (x : m α) (f : α → m β) :
    settle (x >>= f) = settle x >>= fun a => settle (f a)
  settle_iterate {α β : Type} (rounds : Nat) (step : α → m (Flow α β)) (seed : α) :
    settle (Host.iterate rounds step seed) = iterateExcept rounds (fun a => settle (step a)) seed

/-- The loop without effects is a loop that never fails. -/
theorem iterateExcept_ok (rounds : Nat) (step : α → Flow α β) (seed : α) :
    iterateExcept rounds (fun a => (.ok (step a) : Except ε (Flow α β))) seed =
      .ok (iteratePure rounds step seed) := by
  induction rounds generalizing seed with
  | zero => rfl
  | succ rounds ih =>
      unfold iterateExcept iteratePure
      dsimp only
      cases step seed with
      | next seed => exact ih seed
      | done result => rfl

/-- Without effects every computation has its value. -/
instance : ImmediateHost Id Empty where
  settle x := .ok x.run
  settle_pure _ := rfl
  settle_map _ _ := rfl
  settle_bind _ _ := rfl
  settle_iterate rounds step seed := (iterateExcept_ok rounds step seed).symm

/-- A computation that may fail is settled as it stands. -/
instance : ImmediateHost (Except ε) ε where
  settle x := x
  settle_pure _ := rfl
  settle_map _ _ := rfl
  settle_bind _ _ := rfl
  settle_iterate _ _ _ := rfl

/-! ## The outcome of a computation -/

section Outcome

variable [Host m] [ImmediateHost m ε]

/-- How a computation ends that may run out of fuel. -/
def Host.outcome (x : OptionT m α) : Outcome ε α :=
  .ofExcept (ImmediateHost.settle x.run)

@[simp]
theorem Host.outcome_pure (a : α) : outcome (pure a : OptionT m α) = .delivered a := by
  simp [outcome, ImmediateHost.settle_pure, Outcome.ofExcept]

@[simp]
theorem Host.outcome_failure : outcome (failure : OptionT m α) = .unfinished := by
  simp [outcome, ImmediateHost.settle_pure, Outcome.ofExcept]

/-- The outcome of a sequence is the sequence of the outcomes. -/
@[simp]
theorem Host.outcome_bind (x : OptionT m α) (f : α → OptionT m β) :
    outcome (x >>= f) = (outcome x).bind fun a => outcome (f a) := by
  have sequence : (x >>= f).run = x.run >>= fun value =>
      value.elim (pure none) fun a => (f a).run := by
    refine congrArg (x.run >>= ·) (funext fun value => ?_)
    cases value with
    | none => rfl
    | some a => rfl
  unfold outcome
  rw [sequence, ImmediateHost.settle_bind]
  cases ImmediateHost.settle x.run with
  | error failure => rfl
  | ok value =>
      cases value with
      | none => exact congrArg Outcome.ofExcept (ImmediateHost.settle_pure none)
      | some a => rfl

@[simp]
theorem Host.outcome_map (f : α → β) (x : OptionT m α) : outcome (f <$> x) = (outcome x).map f := by
  have sequence : f <$> x = x >>= fun a => pure (f a) := rfl
  rw [sequence, outcome_bind]
  simp [Outcome.map]

/-- A computation of the host alone fails or delivers its value. -/
theorem Host.outcome_lift (x : m α) :
    outcome (OptionT.lift x) = .ofExcept (some <$> ImmediateHost.settle x) := by
  have run : (OptionT.lift x).run = x >>= fun a => pure (some a) := rfl
  rw [outcome, run, ImmediateHost.settle_bind]
  simp only [ImmediateHost.settle_pure]
  cases ImmediateHost.settle x <;> rfl

/-- The loop of a host, seen from its outcomes. -/
theorem Host.outcome_loop (rounds : Nat) (step : α → OptionT m (Flow α β)) (seed : α) :
    outcome (Host.loop rounds step seed) =
      Outcome.loop rounds (fun a => outcome (step a)) seed := by
  unfold outcome Host.loop
  rw [OptionT.run_mk, ImmediateHost.settle_map, ImmediateHost.settle_iterate]
  simp only [ImmediateHost.settle_map]
  induction rounds generalizing seed with
  | zero => rfl
  | succ rounds ih =>
      unfold iterateExcept
      dsimp only
      rw [Outcome.loop_succ]
      cases ImmediateHost.settle (step seed).run with
      | error failure => rfl
      | ok flow =>
          match flow with
          | none => rfl
          | some (.next seed) => exact ih seed
          | some (.done result) => rfl

end Outcome

end Descent
