import Descent.Proofs.Host.Outcome

/-!
# Loops that count their rounds

A loop whose seeds come down in some measure runs its step at most once more than the measure
of the seed that it starts from, and a loop that may take more rounds than that ends on its own
account.  The count is taken by a loop that does the same and counts along the way.

Main definitions:

- `Outcome.countedLoop`: the loop together with the number of times that it runs its step.
- `Outcome.Decreases`: a step that goes on only from a smaller seed.

Main results:

- Theorem `countedLoop_fst`: counting changes nothing.
- Theorem `Decreases.countedLoop_snd_le`: the measure bounds the count.
- Theorem `Decreases.loop_settles`: with rounds to spare, a loop ends in the same way however
  many they are.
-/

namespace Descent.Outcome

variable {α β ε : Type}

/-- The loop together with the number of times that it runs its step. -/
def countedLoop : Nat → (α → Outcome ε (Flow α β)) → α → Outcome ε β × Nat
  | 0, _, _ => (unfinished, 0)
  | rounds + 1, step, seed =>
      match step seed with
      | failed failure => (failed failure, 1)
      | unfinished => (unfinished, 1)
      | delivered (.next seed) =>
          ((countedLoop rounds step seed).1, (countedLoop rounds step seed).2 + 1)
      | delivered (.done result) => (delivered result, 1)

/-- Counting changes nothing. -/
@[simp]
theorem countedLoop_fst (rounds : Nat) (step : α → Outcome ε (Flow α β)) (seed : α) :
    (countedLoop rounds step seed).1 = loop rounds step seed := by
  induction rounds generalizing seed with
  | zero => rfl
  | succ rounds ih =>
      rw [countedLoop, loop_succ]
      rcases step seed with failure | _ | next | result
      · rfl
      · rfl
      · exact ih next
      · rfl

/-- The step goes on only from a seed that is smaller in this measure. -/
def Decreases (measure : α → Nat) (step : α → Outcome ε (Flow α β)) : Prop :=
  ∀ seed next, step seed = delivered (.next next) → measure next < measure seed

namespace Decreases

variable {measure : α → Nat} {step : α → Outcome ε (Flow α β)}

/-- The step is run at most once for each smaller value of the measure, and once at the end. -/
theorem countedLoop_snd_le (h : Decreases measure step) (rounds : Nat) (seed : α) :
    (countedLoop rounds step seed).2 ≤ measure seed + 1 := by
  induction rounds generalizing seed with
  | zero => exact Nat.zero_le _
  | succ rounds ih =>
      rw [countedLoop]
      rcases run : step seed with failure | _ | next | result
      · exact Nat.le_add_left 1 _
      · exact Nat.le_add_left 1 _
      · have smaller : measure next < measure seed := h seed next run
        have later : (countedLoop rounds step next).2 ≤ measure next + 1 := ih next
        dsimp only
        omega
      · exact Nat.le_add_left 1 _

/-- Two loops that may both take more rounds than the measure of the seed end, and end alike, if
their steps end and are alike from there on down. -/
theorem loop_settles (h : Decreases measure step) {step' : α → Outcome ε (Flow α β)}
    {rounds rounds' : Nat} {seed : α}
    (alike : ∀ next, measure next ≤ measure seed →
      step next ≠ unfinished ∧ step next = step' next)
    (enough : measure seed < rounds) (enough' : measure seed < rounds') :
    loop rounds step seed ≠ unfinished ∧ loop rounds step seed = loop rounds' step' seed := by
  induction rounds generalizing seed rounds' with
  | zero => cases enough
  | succ rounds ih =>
      obtain ⟨rounds', rfl⟩ := Nat.exists_eq_add_of_le' (Nat.zero_lt_of_lt enough')
      -- Both loops run the same step, and go on from the same smaller seed with a round less.
      rcases alike seed (Nat.le_refl _) with ⟨ends, same⟩
      rw [loop_succ, loop_succ, ← same]
      rcases run : step seed with failure | _ | next | result
      · exact ⟨nofun, rfl⟩
      · exact (ends run).elim
      · have smaller : measure next < measure seed := h seed next run
        refine ih (fun later below => alike later ?_) ?_ ?_ <;> omega
      · exact ⟨nofun, rfl⟩

end Decreases

end Descent.Outcome
