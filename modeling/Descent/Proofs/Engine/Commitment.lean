import Descent.Proofs.Phrase.UniqueTrail

/-!
# When a choice commits

A choice commits to its first branch by the flag, and not by the input.  The two agree as long as
the branch has not passed a reset point of its own: behind one, what was read before it no longer
counts.  So a branch may read, leave an inner choice through a first branch that has read nothing,
fail behind it, and be discarded by the outer choice.  An inner choice that is only looked ahead at
makes no difference.

Main definitions:

- `forgetful`: a branch that is discarded although it has read.
- `peeking`: the same branch, but for a look-ahead around its inner choice.

Main results:

- Theorem `orElse_of_progress`: which choices commit to a branch that failed after reading.
- Theorem `outcome_orElse_of_remaining_lt`: those whose first branch has no choices of its own do.
- Theorem `not_committed_forgetful`: reading alone does not commit.
-/

namespace Descent.Parser

variable {σ τ π ω α : Type}

/-- Suppose that the first branch of a choice fails with fewer items left.  Its run leaves one
trail.  If something was read since the last reset point of the branch, or if there is none, then
the choice returns exactly this failure, whatever its second branch is.  Otherwise the flag of the
failure is clear, and the choice is its second branch, from the state that the choice was entered
with. -/
theorem orElse_of_progress [Input σ τ π] [FiniteInput σ] {g : Phrase σ τ π ω [] α}
    (within : g.Within
      (.without [.many, .attempt, .putState, .setConsumed true, .setConsumed false]))
    {fuel : Nat} {s t : State σ π} {e : ParseError π}
    (h : (g.parser .plain).Delivers fuel (s.withConsumed false) (.error e t))
    (less : t.remaining < s.remaining) :
    (∃! x, Leaves .none g (s.withConsumed false) (.error e t) x) ∧
      ∀ x, Leaves .none g (s.withConsumed false) (.error e t) x → ∀ q : Parser Id σ π α,
        (¬x.IsStale → ((g.parser .plain).orElse q).outcome fuel s = .delivered (.error e t)) ∧
          (x.IsStale → t.consumed = false ∧
            ((g.parser .plain).orElse q).outcome fuel s = q.outcome fuel s) := by
  refine ⟨?_, fun x leaves q => ⟨fun fresh => ?_, fun stale => ?_⟩⟩
  · exact Phrase.existsUnique_leaves within ⟨by simp, by simp⟩ h (.inr ⟨by simp, by simp⟩)
  · have consumed : t.consumed = true := leaves.consumed_of_remaining_lt less fresh
    exact outcome_orElse_of_consumed h consumed q
  · have clear : t.consumed = false := leaves.consumed_of_isStale stale
    exact ⟨clear, outcome_orElse_of_clear h clear q⟩

/-- A branch without choices of its own has no reset points, so that the choice commits to every
failure of it with fewer items left. -/
theorem outcome_orElse_of_remaining_lt [Input σ τ π] [FiniteInput σ] {g : Phrase σ τ π ω [] α}
    (within : g.Within
      (.without [.orElse, .many, .attempt, .putState, .setConsumed true, .setConsumed false]))
    {fuel : Nat} {s t : State σ π} {e : ParseError π}
    (h : (g.parser .plain).Delivers fuel (s.withConsumed false) (.error e t))
    (less : t.remaining < s.remaining) (q : Parser Id σ π α) :
    ((g.parser .plain).orElse q).outcome fuel s = .delivered (.error e t) := by
  have one := Phrase.existsUnique_leaves within ⟨by simp, by simp⟩ h (.inr ⟨by simp, by simp⟩)
  rcases one with ⟨x, leaves, -⟩
  have fresh : ¬x.IsStale := leaves.not_isStale (by simp) trivial within
  exact outcome_orElse_of_consumed h (leaves.consumed_of_remaining_lt less fresh) q

/-- A choice whose first branch reads nothing. -/
def idle : Phrase Text Char LineColumn Empty [] Nat :=
  .orElse (.primitive (.pure 1)) (.primitive (.pure 2))

/-- Reads an item, leaves a choice through a first branch that reads nothing, and fails. -/
def forgetful : Phrase Text Char LineColumn Empty [] Nat :=
  .seqRight .anyItem (.seqRight idle (.primitive (.fail "stuck")))

/-- Reads an item, looks ahead at the same choice, and fails. -/
def peeking : Phrase Text Char LineColumn Empty [] Nat :=
  .seqRight .anyItem (.seqRight (.wrap .lookAhead idle) (.primitive (.fail "stuck")))

/-- The look-ahead has put the choice back, so that the item still counts: the outer choice commits
to the failure.  Without the look-ahead nothing was read since the reset point, and the outer choice
is its second branch. -/
theorem orElse_of_progress_peeking :
    peeking.Within (.without [.many, .attempt, .putState, .setConsumed true, .setConsumed false]) ∧
      (peeking.parser .plain).Delivers 0 ⟨⟨['a', 'b']⟩, ⟨1, 1⟩, false⟩
        (.error ⟨"stuck", ⟨1, 2⟩⟩ ⟨⟨['b']⟩, ⟨1, 2⟩, true⟩) ∧
      (∀ q : Parser Id Text LineColumn Nat,
        ((peeking.parser .plain).orElse q).outcome 0 ⟨⟨['a', 'b']⟩, ⟨1, 1⟩, false⟩ =
          .delivered (.error ⟨"stuck", ⟨1, 2⟩⟩ ⟨⟨['b']⟩, ⟨1, 2⟩, true⟩)) ∧
      forgetful.Within
        (.without [.many, .attempt, .putState, .setConsumed true, .setConsumed false]) ∧
      (forgetful.parser .plain).Delivers 0 ⟨⟨['a', 'b']⟩, ⟨1, 1⟩, false⟩
        (.error ⟨"stuck", ⟨1, 2⟩⟩ ⟨⟨['b']⟩, ⟨1, 2⟩, false⟩) ∧
      ∀ q : Parser Id Text LineColumn Nat,
        ((forgetful.parser .plain).orElse q).outcome 0 ⟨⟨['a', 'b']⟩, ⟨1, 1⟩, false⟩ =
          q.outcome 0 ⟨⟨['a', 'b']⟩, ⟨1, 1⟩, false⟩ := by
  have peeks : peeking.Within
      (.without [.many, .attempt, .putState, .setConsumed true, .setConsumed false]) := by
    simp [peeking, idle, Phrase.seqRight, Phrase.anyItem, Phrase.Within, Primitive.Within,
      Wrapping.Within]
  have forgets : forgetful.Within
      (.without [.many, .attempt, .putState, .setConsumed true, .setConsumed false]) := by
    simp [forgetful, idle, Phrase.seqRight, Phrase.anyItem, Phrase.Within, Primitive.Within]
  have stands : (peeking.parser .plain).Delivers 0 ⟨⟨['a', 'b']⟩, ⟨1, 1⟩, false⟩
      (.error ⟨"stuck", ⟨1, 2⟩⟩ ⟨⟨['b']⟩, ⟨1, 2⟩, true⟩) := rfl
  have discarded : (forgetful.parser .plain).Delivers 0 ⟨⟨['a', 'b']⟩, ⟨1, 1⟩, false⟩
      (.error ⟨"stuck", ⟨1, 2⟩⟩ ⟨⟨['b']⟩, ⟨1, 2⟩, false⟩) := rfl
  have behindItem : Leaves .none peeking ⟨⟨['a', 'b']⟩, ⟨1, 1⟩, false⟩
      (.error ⟨"stuck", ⟨1, 2⟩⟩ ⟨⟨['b']⟩, ⟨1, 2⟩, true⟩) (.sinceEntry ['a']) := by
    refine .andThen (x := .sinceEntry ['a']) (y := .sinceEntry []) (.primitive _ _ not_false) ?_
    have back : Leaves .none (.wrap .lookAhead idle) ⟨⟨['b']⟩, ⟨1, 2⟩, true⟩
        (.ok 1 ⟨⟨['b']⟩, ⟨1, 2⟩, true⟩) (.sinceEntry []) :=
      .wrapBack .lookAhead (.orElseFirst (.primitive _ _) rfl) trivial
    exact .andThen (x := .sinceEntry []) (y := .sinceEntry []) back (.primitive _ _ not_false)
  have behindChoice : Leaves .none forgetful ⟨⟨['a', 'b']⟩, ⟨1, 1⟩, false⟩
      (.error ⟨"stuck", ⟨1, 2⟩⟩ ⟨⟨['b']⟩, ⟨1, 2⟩, false⟩) (.sinceReset []) := by
    refine .andThen (x := .sinceEntry ['a']) (y := .sinceReset []) (.primitive _ _ not_false) ?_
    have left : Leaves .none idle ⟨⟨['b']⟩, ⟨1, 2⟩, true⟩ (.ok 1 ⟨⟨['b']⟩, ⟨1, 2⟩, false⟩)
        (.sinceReset []) :=
      .orElseFirst (x := .sinceEntry []) (.primitive _ _ not_false) rfl
    exact .andThen (x := .sinceReset []) (y := .sinceEntry []) left (.primitive _ _ not_false)
  refine ⟨peeks, stands, fun q => ?_, forgets, discarded, fun q => ?_⟩
  · have result := orElse_of_progress (s := ⟨⟨['a', 'b']⟩, ⟨1, 1⟩, false⟩) peeks stands (by decide)
    exact (result.2 _ behindItem q).1 nofun
  · have result := orElse_of_progress (s := ⟨⟨['a', 'b']⟩, ⟨1, 1⟩, false⟩) forgets discarded
      (by decide)
    exact ((result.2 _ behindChoice q).2 rfl).2

/-- A branch that fails with fewer items left is discarded: behind its inner choice the flag is
clear. -/
theorem not_committed_forgetful :
    forgetful.Within (.without [.getState, .putState, .position, .setConsumed true,
        .setConsumed false, .many, .attempt, .recursion]) ∧
      (forgetful.parser .plain).Delivers 0 ⟨⟨['a', 'b']⟩, ⟨1, 1⟩, false⟩
        (.error ⟨"stuck", ⟨1, 2⟩⟩ ⟨⟨['b']⟩, ⟨1, 2⟩, false⟩) ∧
      (⟨⟨['b']⟩, ⟨1, 2⟩, false⟩ : State Text LineColumn).remaining <
        (⟨⟨['a', 'b']⟩, ⟨1, 1⟩, false⟩ : State Text LineColumn).remaining ∧
      ¬((forgetful.parser .plain).orElse (pure 3)).Delivers 0 ⟨⟨['a', 'b']⟩, ⟨1, 1⟩, false⟩
        (.error ⟨"stuck", ⟨1, 2⟩⟩ ⟨⟨['b']⟩, ⟨1, 2⟩, false⟩) := by
  refine ⟨?_, rfl, by decide, fun committed => ?_⟩
  · simp [forgetful, idle, Phrase.seqRight, Phrase.anyItem, Phrase.Within, Primitive.Within]
  · have other : ((forgetful.parser .plain).orElse (pure 3)).Delivers 0
        ⟨⟨['a', 'b']⟩, ⟨1, 1⟩, false⟩ (.ok 3 ⟨⟨['a', 'b']⟩, ⟨1, 1⟩, false⟩) := rfl
    have same := committed.unique other
    cases same

end Descent.Parser
