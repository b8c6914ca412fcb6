import Descent.Proofs.Host.Iteration

/-!
# Loops step by step

What a loop comes to can be said without any loop: run the step on the seed, then on the seed
that it gave, and so on, until a step stops or the host fails.  This file follows a loop along
these steps, through suspensions and failures, in every host whose computations run from start
to end, and says for the hosts that loop in place that they and the loop by binding are the
same computation with exactly this ending.

Main definitions:

- `Ending`: how often a computation suspends, and the value or the failure it ends with.
- `SequentialHost`: hosts whose computations have an ending.
- `Stepping`: the seeds that a loop steps through, and its ending.
- `LoopsByBinding`: the loop of a host is the loop by binding, and follows its steps.

Main results:

- Theorem `Stepping.ending_iterateByBind`: the loop by binding has the ending of its steps.
- Theorem `Stepping.of_result`: a loop that ends with a value or a failure has stepped there.
- Theorem `loopsByBinding_shipped`: the hosts that loop in place.
-/

namespace Descent

variable {m : Type → Type} {α β ε : Type}

/-! ## Endings -/

/-- How a computation ends: the number of its suspensions, and then a value or a failure. -/
structure Ending (ε α : Type) where
  suspensions : Nat
  result : Except ε α
deriving Repr

namespace Ending

/-- Goes on with the value, if there is one; suspensions add up. -/
def bind (x : Ending ε α) (f : α → Ending ε β) : Ending ε β :=
  match x.result with
  | .ok a => ⟨x.suspensions + (f a).suspensions, (f a).result⟩
  | .error failure => ⟨x.suspensions, .error failure⟩

/-- Applies a function to the value, if there is one. -/
def map (f : α → β) (x : Ending ε α) : Ending ε β :=
  ⟨x.suspensions, f <$> x.result⟩

@[simp]
theorem bind_ok (n : Nat) (a : α) (f : α → Ending ε β) :
    (⟨n, .ok a⟩ : Ending ε α).bind f = ⟨n + (f a).suspensions, (f a).result⟩ :=
  rfl

@[simp]
theorem bind_error (n : Nat) (failure : ε) (f : α → Ending ε β) :
    (⟨n, .error failure⟩ : Ending ε α).bind f = ⟨n, .error failure⟩ :=
  rfl

end Ending

/-- A host whose computations run from start to end: each suspends a number of times, and then
has a value or fails. -/
class SequentialHost (m : Type → Type) [Host m] (ε : outParam Type) where
  /-- How a computation ends. -/
  ending {α : Type} : m α → Ending ε α
  ending_pure {α : Type} (a : α) : ending (pure a : m α) = ⟨0, .ok a⟩
  ending_bind {α β : Type} (x : m α) (f : α → m β) :
    ending (x >>= f) = (ending x).bind fun a => ending (f a)

open SequentialHost

/-- Without effects every computation has its value at once. -/
instance : SequentialHost Id Empty where
  ending x := ⟨0, .ok x.run⟩
  ending_pure _ := rfl
  ending_bind _ _ := rfl

/-- A computation that may fail never suspends. -/
instance : SequentialHost (Except ε) ε where
  ending x := ⟨0, x⟩
  ending_pure _ := rfl
  ending_bind x f := by
    cases x with
    | error failure => rfl
    | ok a => exact congrArg (Ending.mk · (f a)) (Nat.zero_add 0).symm

/-- A computation that may suspend is resumed until its value is there. -/
instance : SequentialHost Resumption Empty where
  ending x := ⟨x.complete.1, .ok x.complete.2⟩
  ending_pure _ := rfl
  ending_bind x f := by rw [Resumption.complete_bind]; rfl

/-! ## Steps -/

section Stepping

variable [Host m] [SequentialHost m ε]

/-- Stepping from a seed runs the step on these seeds, one after the other, until it stops or
the host fails, and has this ending. -/
inductive Stepping (step : α → m (Flow α β)) : α → List α → Ending ε β → Prop where
  | done {seed : α} {n : Nat} {result : β}
      (ends : ending (step seed) = ⟨n, .ok (.done result)⟩) :
      Stepping step seed [seed] ⟨n, .ok result⟩
  | failed {seed : α} {n : Nat} {failure : ε}
      (ends : ending (step seed) = ⟨n, .error failure⟩) :
      Stepping step seed [seed] ⟨n, .error failure⟩
  | next {seed seed' : α} {n : Nat} {seeds : List α} {last : Ending ε β}
      (ends : ending (step seed) = ⟨n, .ok (.next seed')⟩)
      (more : Stepping step seed' seeds last) :
      Stepping step seed (seed :: seeds) ⟨n + last.suspensions, last.result⟩

/-- Only the steps that are run count. -/
theorem Stepping.congr {step step' : α → m (Flow α β)} {seed : α} {seeds : List α}
    {last : Ending ε β} (h : Stepping step seed seeds last)
    (same : ∀ a ∈ seeds, step' a = step a) : Stepping step' seed seeds last := by
  induction h with
  | done ends => exact .done (by rw [same _ List.mem_cons_self, ends])
  | failed ends => exact .failed (by rw [same _ List.mem_cons_self, ends])
  | next ends _ ih =>
      refine .next (by rw [same _ List.mem_cons_self, ends]) (ih fun a ha => ?_)
      exact same a (List.mem_cons_of_mem _ ha)

/-- One round of the loop by binding, seen from its ending. -/
theorem ending_iterateByBind_succ (rounds : Nat) (step : α → m (Flow α β)) (seed : α) :
    ending (iterateByBind (rounds + 1) step seed) =
      (ending (step seed)).bind fun
        | .next seed => ending (iterateByBind rounds step seed)
        | .done result => ⟨0, .ok (some result)⟩ := by
  rw [iterateByBind_succ, ending_bind]
  congr 1
  funext flow
  cases flow with
  | next seed => rfl
  | done result => exact ending_pure _

/-- With a round for each step, the loop by binding has the ending of its steps. -/
theorem Stepping.ending_iterateByBind {step : α → m (Flow α β)} {seed : α} {seeds : List α}
    {last : Ending ε β} (h : Stepping step seed seeds last) {rounds : Nat}
    (enough : seeds.length ≤ rounds) :
    ending (iterateByBind rounds step seed) = last.map some := by
  induction h generalizing rounds with
  | done ends =>
      cases rounds with
      | zero => cases enough
      | succ rounds =>
          rw [ending_iterateByBind_succ, ends]
          rfl
  | failed ends =>
      cases rounds with
      | zero => cases enough
      | succ rounds =>
          rw [ending_iterateByBind_succ, ends]
          rfl
  | next ends _ ih =>
      cases rounds with
      | zero => cases enough
      | succ rounds =>
          rw [ending_iterateByBind_succ, ends, Ending.bind_ok]
          dsimp only
          rw [ih (Nat.le_of_succ_le_succ enough)]
          rfl

/-- A loop by binding that ends with a value or a failure has stepped there. -/
theorem Stepping.of_result {step : α → m (Flow α β)} {seed : α} {rounds : Nat}
    (h : (ending (iterateByBind rounds step seed)).result ≠ .ok none) :
    ∃ seeds last, Stepping step seed seeds last := by
  induction rounds generalizing seed with
  | zero =>
      rw [iterateByBind_zero, ending_pure] at h
      exact (h rfl).elim
  | succ rounds ih =>
      rw [ending_iterateByBind_succ] at h
      rcases ends : ending (step seed) with ⟨n, failure | seed' | result⟩
      · exact ⟨_, _, .failed ends⟩
      · rw [ends, Ending.bind_ok] at h
        rcases ih h with ⟨seeds, last, more⟩
        exact ⟨_, _, .next ends more⟩
      · exact ⟨_, _, .done ends⟩

/-! ## Loops that follow their steps -/

/-- The loop of a host is the loop by binding; where stepping ends, it has that ending, which
the steps on other seeds do not touch; and where stepping never ends, it has no result however
many rounds it takes. -/
structure LoopsByBinding (m : Type → Type) {ε : Type} [Host m] [SequentialHost m ε] :
    Prop where
  same {α β : Type} (rounds : Nat) (step : α → m (Flow α β)) (seed : α) :
    Host.iterate rounds step seed = iterateByBind rounds step seed
  reaches {α β : Type} {step step' : α → m (Flow α β)} {seed : α} {seeds : List α}
    {last : Ending ε β} (stepping : Stepping step seed seeds last)
    (agree : ∀ a ∈ seeds, step' a = step a) {rounds : Nat} (enough : seeds.length ≤ rounds) :
    ending (Host.iterate rounds step' seed) = last.map some
  lacks {α β : Type} {step : α → m (Flow α β)} {seed : α}
    (endless : ∀ seeds last, ¬Stepping step seed seeds last) (rounds : Nat) :
    (ending (Host.iterate rounds step seed)).result = .ok none

/-- Every host that loops by binding follows its steps. -/
theorem LawfulHost.loopsByBinding [LawfulHost m] : LoopsByBinding m where
  same := LawfulHost.iterate_eq
  reaches stepping agree rounds enough := by
    rw [LawfulHost.iterate_eq]
    exact (stepping.congr agree).ending_iterateByBind enough
  lacks {α β step seed} endless rounds := by
    rw [LawfulHost.iterate_eq]
    refine Classical.byContradiction fun result => ?_
    rcases Stepping.of_result result with ⟨seeds, last, stepping⟩
    exact endless seeds last stepping

end Stepping

/-- The hosts that loop in place, without effects, with failures or with suspensions, run the
very computation that binding each round to the one before would run. -/
theorem loopsByBinding_shipped :
    LoopsByBinding Id ∧ (∀ ε, LoopsByBinding (Except ε)) ∧ LoopsByBinding Resumption :=
  ⟨LawfulHost.loopsByBinding, fun _ => LawfulHost.loopsByBinding, LawfulHost.loopsByBinding⟩

/-- Suspends as often as the seed says, and counts it down. -/
def countdown (n : Nat) : Resumption (Flow Nat String) :=
  Resumption.suspend n >>= fun _ => pure (if n = 0 then .done "over" else .next (n - 1))

/-- Counting down from two suspends two times in the first round and once in the second; and a
failure in the second round is the failure of the loop, whatever later steps would do. -/
theorem loopsByBinding_shipped_countdown :
    Host.iterate 3 countdown 2 = iterateByBind 3 countdown 2 ∧
      ending (Host.iterate 3 countdown 2) = ⟨3, .ok (some "over")⟩ ∧
      ∀ step : Nat → Except String (Flow Nat Nat), step 0 = .ok (.next 1) →
        step 1 = .error "lost" → Host.iterate 5 step 0 = .error "lost" := by
  rcases loopsByBinding_shipped with ⟨-, failing, suspending⟩
  refine ⟨suspending.same 3 countdown 2, ?_, fun step first second => ?_⟩
  · have third : Stepping countdown 0 [0] ⟨0, .ok "over"⟩ := .done rfl
    have second : Stepping countdown 1 [1, 0] ⟨1, .ok "over"⟩ := .next (n := 1) rfl third
    have first : Stepping countdown 2 [2, 1, 0] ⟨3, .ok "over"⟩ := .next (n := 2) rfl second
    exact suspending.reaches first (fun _ _ => rfl) (by decide)
  · have later : Stepping step 1 [1] ⟨0, .error "lost"⟩ :=
      .failed (congrArg (Ending.mk 0) second)
    have fails : Stepping step 0 [0, 1] ⟨0, .error "lost"⟩ :=
      .next (n := 0) (congrArg (Ending.mk 0) first) later
    have ends := (failing String).reaches fails (fun _ _ => rfl) (by decide : 2 ≤ 5)
    exact congrArg Ending.result ends

end Descent
