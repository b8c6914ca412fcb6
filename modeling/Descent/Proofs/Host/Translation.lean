import Descent.Proofs.Host.Iteration

/-!
# Translations between hosts

A translation takes the computations of one host to computations of another, values to values
and sequences to sequences.  Two runs in different hosts are then compared by following the
values that they pass on side by side: the second run is the translation of the first, but for
values that may differ in a fixed way.

Main definitions:

- `Translation`: a map between monads that keeps `pure` and `bind`.
- `Translation.refl`: nothing is translated.
- `Translation.ofValues`: values without effects are values in every host.
- `Translation.optional`: the translation of computations that may run out of fuel.
- `Translation.Links`: two computations that pass on related values, the second one with the
  translated effects of the first.

Main results:

- Theorem `Links.bind`: linked computations can be continued by linked ones.
- Theorem `Links.loop`: linked steps make linked loops, whatever loops the hosts run.
- Theorem `Links.eq_apply`: a computation that is linked by equality is the translation.
- Theorem `Links.map_eq`: what linked computations have in common is the same computation.
-/

namespace Descent

variable {m n : Type → Type} {α β γ δ : Type}

/-! ## Translations -/

/-- Takes the computations of one monad to computations of another, and keeps values and
sequences. -/
structure Translation (m n : Type → Type) [Monad m] [Monad n] where
  apply {α : Type} : m α → n α
  apply_pure {α : Type} (a : α) : apply (pure a : m α) = pure a
  apply_bind {α β : Type} (x : m α) (f : α → m β) :
    apply (x >>= f) = apply x >>= fun a => apply (f a)

namespace Translation

attribute [simp] apply_pure apply_bind

/-- A translation keeps functions applied to a value. -/
@[simp]
theorem apply_map [Monad m] [Monad n] [LawfulMonad m] [LawfulMonad n] (h : Translation m n)
    (f : α → β) (x : m α) : h.apply (f <$> x) = f <$> h.apply x := by
  rw [← bind_pure_comp, ← bind_pure_comp, apply_bind]
  exact bind_congr fun a => h.apply_pure (f a)

/-- Every computation is left as it is. -/
def refl (m : Type → Type) [Monad m] : Translation m m where
  apply x := x
  apply_pure _ := rfl
  apply_bind _ _ := rfl

/-- A value without effects is a value in every host. -/
def ofValues (n : Type → Type) [Monad n] [LawfulMonad n] : Translation Id n where
  apply x := pure x.run
  apply_pure _ := rfl
  apply_bind x f := (pure_bind x.run fun a => pure (f a).run).symm

@[simp]
theorem apply_ofValues [Monad n] [LawfulMonad n] (x : Id α) :
    (ofValues n).apply x = pure x.run :=
  rfl

/-- Translates computations that may run out of fuel. -/
def optional [Monad m] [Monad n] (h : Translation m n) :
    Translation (OptionT m) (OptionT n) where
  apply x := OptionT.mk (h.apply x.run)
  apply_pure a := h.apply_pure (some a)
  apply_bind x f := by
    refine OptionT.ext ?_
    simp only [OptionT.run_mk, OptionT.run_bind, Option.elimM, apply_bind]
    refine bind_congr fun value => ?_
    cases value with
    | none => exact h.apply_pure none
    | some a => rfl

section Optional

variable [Monad m] [Monad n] (h : Translation m n)

@[simp]
theorem run_optional (x : OptionT m α) : (h.optional.apply x).run = h.apply x.run :=
  rfl

@[simp]
theorem optional_failure : h.optional.apply (failure : OptionT m α) = failure :=
  h.apply_pure none

end Optional

/-! ## Linked computations -/

section Links

variable [Monad m] [Monad n] (h : Translation m n)

/-- Two computations run side by side: they pass on related values, and the effects of the
second are the translated effects of the first. -/
def Links (R : α → β → Prop) (x : m α) (y : n β) : Prop :=
  ∃ both : m {ab : α × β // R ab.1 ab.2},
    (fun ab => ab.1.1) <$> both = x ∧ h.apply ((fun ab => ab.1.2) <$> both) = y

variable {h}

/-- Linked by equality, the second computation is the translation of the first. -/
theorem Links.eq_apply {x : m α} {y : n α} (linked : h.Links Eq x y) : y = h.apply x := by
  rcases linked with ⟨both, rfl, rfl⟩
  exact congrArg (fun f => h.apply (f <$> both)) (funext fun ab => ab.2.symm)

variable [LawfulMonad m]

/-- A computation and its translation are linked by equality. -/
theorem links_apply (x : m α) : h.Links Eq x (h.apply x) := by
  refine ⟨(fun a => ⟨(a, a), rfl⟩) <$> x, ?_, ?_⟩
  · rw [Functor.map_map, id_map']
  · rw [Functor.map_map, id_map']

/-- What is linked by a relation is linked by every weaker one. -/
theorem Links.imp {R S : α → β → Prop} {x : m α} {y : n β} (linked : h.Links R x y)
    (weaker : ∀ a b, R a b → S a b) : h.Links S x y := by
  rcases linked with ⟨both, rfl, rfl⟩
  refine ⟨(fun ab => ⟨ab.1, weaker _ _ ab.2⟩) <$> both, ?_, ?_⟩
  · rw [Functor.map_map]
  · rw [Functor.map_map]

theorem Links.pure {R : α → β → Prop} {a : α} {b : β} (related : R a b) :
    h.Links R (Pure.pure a) (Pure.pure b) := by
  refine ⟨Pure.pure ⟨(a, b), related⟩, map_pure _ _, ?_⟩
  rw [map_pure, apply_pure]

/-- Linked computations continued by linked ones are linked. -/
theorem Links.bind [LawfulMonad n] {R : α → β → Prop} {S : γ → δ → Prop} {x : m α} {y : n β}
    {f : α → m γ} {g : β → n δ} (first : h.Links R x y)
    (second : ∀ a b, R a b → h.Links S (f a) (g b)) : h.Links S (x >>= f) (y >>= g) := by
  rcases first with ⟨both, rfl, rfl⟩
  -- For each pair of related values there is one computation behind both continuations.
  refine ⟨both >>= fun ab => (second ab.1.1 ab.1.2 ab.2).choose, ?_, ?_⟩
  · rw [map_bind, bind_map_left]
    exact bind_congr fun ab => (second ab.1.1 ab.1.2 ab.2).choose_spec.1
  · rw [map_bind, apply_bind, apply_map, bind_map_left]
    exact bind_congr fun ab => (second ab.1.1 ab.1.2 ab.2).choose_spec.2

/-- Functions that keep a relation keep links. -/
theorem Links.map [LawfulMonad n] {R : α → β → Prop} {S : γ → δ → Prop} {x : m α} {y : n β}
    {f : α → γ} {g : β → δ} (linked : h.Links R x y) (keep : ∀ a b, R a b → S (f a) (g b)) :
    h.Links S (f <$> x) (g <$> y) := by
  rw [map_eq_pure_bind, map_eq_pure_bind]
  exact linked.bind fun a b related => .pure (keep a b related)

/-- Functions that give the same of related values give the same computation. -/
theorem Links.map_eq [LawfulMonad n] {R : α → β → Prop} {x : m α} {y : n β} {f : α → γ}
    {g : β → γ} (linked : h.Links R x y) (agree : ∀ a b, R a b → f a = g b) :
    h.apply (f <$> x) = g <$> y := by
  rcases linked with ⟨both, rfl, rfl⟩
  have same : (fun ab : {ab : α × β // R ab.1 ab.2} => f ab.1.1) = fun ab => g ab.1.2 :=
    funext fun ab => agree _ _ ab.2
  rw [Functor.map_map, apply_map, apply_map, Functor.map_map, same]

/-- Where both run out of fuel there are no values to relate. -/
theorem links_failure [LawfulMonad n] {R : α → β → Prop} :
    h.optional.Links R (failure : OptionT m α) (failure : OptionT n β) := by
  refine ⟨failure, Host.map_failure _, ?_⟩
  rw [apply_map, optional_failure, Host.map_failure]

end Links

/-! ## Linked loops -/

section Loop

variable [Host m] [Host n] [LawfulHost m] [LawfulHost n] {h : Translation m n}

/-- Two rounds that decide alike: both go on with related seeds, or both stop with related
results. -/
inductive FlowAlike (R : α → β → Prop) (S : γ → δ → Prop) : Flow α γ → Flow β δ → Prop where
  | next {a : α} {b : β} (related : R a b) : FlowAlike R S (.next a) (.next b)
  | done {c : γ} {d : δ} (related : S c d) : FlowAlike R S (.done c) (.done d)

/-- Steps that are linked on related seeds make loops that are linked, however each of the
two hosts runs its loops. -/
theorem Links.loop {R : α → β → Prop} {S : γ → δ → Prop}
    {step : α → OptionT m (Flow α γ)} {step' : β → OptionT n (Flow β δ)}
    (steps : ∀ a b, R a b → h.optional.Links (FlowAlike R S) (step a) (step' b)) (rounds : Nat)
    {a : α} {b : β} (related : R a b) :
    h.optional.Links S (Host.loop rounds step a) (Host.loop rounds step' b) := by
  induction rounds generalizing a b with
  | zero =>
      rw [Host.loop_zero, Host.loop_zero]
      exact links_failure
  | succ rounds ih =>
      rw [Host.loop_succ, Host.loop_succ]
      refine (steps a b related).bind fun flow flow' alike => ?_
      cases alike with
      | next related => exact ih related
      | done related => exact .pure related

end Loop

end Translation

end Descent
