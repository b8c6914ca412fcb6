import Descent.Proofs.Parser.Rounds

/-!
# The flag of a failed repetition

A repetition fails in two ways: its last round failed after reading, or its last round succeeded
without reading.  The failure is handed out with the flag of that round.  In the first case the
flag is set.  In the second it is clear, whatever the repetition had collected and whatever flag
it had been entered with, so that a choice around it goes on with its second branch.

Main definitions:

- `optionalLetter`: a body with a round that reads and a round that does not.

Main results:

- Theorem `many_error_consumed_iff`: which round leaves which flag.
- Theorem `not_consumed_optionalLetter`: collected rounds do not keep the flag set.
-/

namespace Descent.Parser

variable {m : Type → Type} {σ π α ε : Type}

section

variable [Host m] [ImmediateHost m ε]

/-- A failed repetition has the flag of its last round: set exactly if that round failed, and
clear exactly if that round succeeded.  Neither the rounds collected before nor the flag of the
entry make a difference. -/
theorem many_error_consumed_iff {p : Parser m σ π α} {fuel : Nat} {s t : State σ π}
    {e : ParseError π} (h : p.many.Delivers fuel s (.error e t)) :
    ∃ values u, p.Collects fuel s values u ∧
      (t.consumed = true ↔ p.Delivers fuel (u.withConsumed false) (.error e t)) ∧
      (t.consumed = false ↔ ∃ a, p.Delivers fuel (u.withConsumed false) (.ok a t)) ∧
      (t.consumed = false → e = ⟨emptyIterationMessage, t.position⟩) := by
  rcases delivers_many h with ⟨values, u, collects, stops⟩
  refine ⟨values, u, collects, ?_⟩
  rcases stops.error_cases with ⟨failed, consumed⟩ | ⟨a, succeeded, clear, own⟩
  · have set : t.consumed ≠ false := by simp [consumed]
    refine ⟨iff_of_true consumed failed, iff_of_false set ?_, fun clear => (set clear).elim⟩
    rintro ⟨a, succeeded⟩
    cases succeeded.unique failed
  · have not_set : t.consumed ≠ true := by simp [clear]
    refine ⟨iff_of_false not_set fun failed => ?_, iff_of_true clear ⟨a, succeeded⟩, fun _ => own⟩
    cases failed.unique succeeded

end

/-- Two letters, of which the second may be missing by mistake. -/
def letterPair : Parser Id Text LineColumn Char :=
  (item 'a').seqRight (item 'b')

/-- The second round reads a letter and fails at the end of the input, so that the flag is set. -/
theorem many_error_consumed_iff_letterPair :
    letterPair.many.Delivers 2 ⟨⟨['a', 'b', 'a']⟩, ⟨1, 1⟩, false⟩
        (.error ⟨unexpectedEndMessage (Quoted.quoted 'b'), ⟨1, 4⟩⟩ ⟨⟨[]⟩, ⟨1, 4⟩, true⟩) ∧
      ∃ values u, letterPair.Collects 2 ⟨⟨['a', 'b', 'a']⟩, ⟨1, 1⟩, false⟩ values u ∧
        letterPair.Delivers 2 (u.withConsumed false)
          (.error ⟨unexpectedEndMessage (Quoted.quoted 'b'), ⟨1, 4⟩⟩ ⟨⟨[]⟩, ⟨1, 4⟩, true⟩) := by
  have delivers : letterPair.many.Delivers 2 ⟨⟨['a', 'b', 'a']⟩, ⟨1, 1⟩, false⟩
      (.error ⟨unexpectedEndMessage (Quoted.quoted 'b'), ⟨1, 4⟩⟩ ⟨⟨[]⟩, ⟨1, 4⟩, true⟩) := rfl
  rcases many_error_consumed_iff delivers with ⟨values, u, collects, set, -, -⟩
  exact ⟨delivers, values, u, collects, set.mp rfl⟩

/-- A letter, or nothing in its place. -/
def optionalLetter : Parser Id Text LineColumn Char :=
  (item 'a').orElse (pure '-')

/-- The first round reads a letter and is collected; the second one reads nothing, and the
repetition fails with the flag clear, so that a choice around it starts over.  A flag that was
set before the repetition is lost in the same way. -/
theorem not_consumed_optionalLetter :
    optionalLetter.Collects 2 ⟨⟨['a', 'b']⟩, ⟨1, 1⟩, false⟩ ['a'] ⟨⟨['b']⟩, ⟨1, 2⟩, true⟩ ∧
      optionalLetter.many.Delivers 2 ⟨⟨['a', 'b']⟩, ⟨1, 1⟩, false⟩
        (.errorHere emptyIterationMessage ⟨⟨['b']⟩, ⟨1, 2⟩, false⟩) ∧
      (optionalLetter.many.orElse (pure [])).Delivers 2 ⟨⟨['a', 'b']⟩, ⟨1, 1⟩, false⟩
        (.ok [] ⟨⟨['a', 'b']⟩, ⟨1, 1⟩, false⟩) ∧
      optionalLetter.many.Delivers 1 ⟨⟨['b']⟩, ⟨1, 2⟩, true⟩
        (.errorHere emptyIterationMessage ⟨⟨['b']⟩, ⟨1, 2⟩, false⟩) ∧
      ¬∀ (p : Parser Id Text LineColumn Char) (fuel : Nat) (s u t : State Text LineColumn)
        (values : List Char) (e : ParseError LineColumn), p.Collects fuel s values u →
          p.many.Delivers fuel s (.error e t) → s.consumed = true ∨ values ≠ [] →
          t.consumed = true := by
  have collects : optionalLetter.Collects 2 ⟨⟨['a', 'b']⟩, ⟨1, 1⟩, false⟩ ([] ++ ['a'])
      ⟨⟨['b']⟩, ⟨1, 2⟩, true⟩ := .round .start rfl rfl
  have fails : optionalLetter.many.Delivers 2 ⟨⟨['a', 'b']⟩, ⟨1, 1⟩, false⟩
      (.errorHere emptyIterationMessage ⟨⟨['b']⟩, ⟨1, 2⟩, false⟩) := rfl
  refine ⟨collects, fails, rfl, rfl, fun kept => ?_⟩
  have consumed := kept _ _ _ _ _ _ _ collects fails (.inr (List.cons_ne_nil 'a' []))
  cases consumed

end Descent.Parser
