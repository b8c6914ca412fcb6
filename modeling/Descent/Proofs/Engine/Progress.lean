import Descent.Proofs.Phrase.UniqueTrail

/-!
# Which rounds a repetition collects

A repetition judges by the flag whether a round has read anything.  As with choices, this is
what the round has read since its last reset point: a round that reads and then leaves a choice
through a first branch that has read nothing counts as an empty one.

Main definitions:

- `separated`: a body whose last round counts as empty although it has read.
- `glancing`: a body that only looks ahead at such a choice.

Main results:

- Theorem `many_of_progress`: rounds that made progress are collected, and the others are
  the only ones that a repetition rejects.
- Theorem `not_collected_separated`: progress alone is not enough.
-/

namespace Descent.Parser

section

variable {m : Type → Type} {σ π α ε : Type} [Host m] [ImmediateHost m ε]

/-- A round that succeeded after reading is collected, and the repetition goes on from it. -/
theorem Collects.next_round {p : Parser m σ π α} {fuel : Nat} {s u t : State σ π}
    {values : List α} {a : α} (before : p.Collects fuel s values u)
    (h : p.Delivers fuel (u.withConsumed false) (.ok a t)) (consumed : t.consumed = true) :
    p.Collects fuel s (values ++ [a]) t ∧
      (values.length < fuel → p.many.outcome fuel s =
        p.manyFrom fuel (fuel - (values.length + 1)) (values ++ [a]).reverse t) := by
  have after : p.Collects fuel s (values ++ [a]) t := before.round h consumed
  refine ⟨after, fun more => ?_⟩
  have rounds := after.outcome_many
  rw [List.length_append, List.length_singleton] at rounds
  exact rounds (by omega)

/-- A round that succeeded with the flag clear makes the repetition fail. -/
theorem Collects.empty_round {p : Parser m σ π α} {fuel : Nat} {s u t : State σ π}
    {values : List α} {a : α} (before : p.Collects fuel s values u)
    (h : p.Delivers fuel (u.withConsumed false) (.ok a t)) (clear : t.consumed = false)
    (more : values.length < fuel) :
    p.many.outcome fuel s = .delivered (.errorHere emptyIterationMessage t) := by
  have stops : p.Stops fuel values u (.errorHere emptyIterationMessage t) := .empty h clear
  exact delivers_many_iff.mpr ⟨values, u, more, before, stops⟩

end

variable {σ τ π ω α : Type}

/-- Suppose that a round succeeds with fewer items left.  It leaves one trail.  If something was
read since its last reset point, or if there is none, then the round is collected and the repetition
goes on from it; otherwise the repetition fails with its own error where the round ended.  And a
repetition ends in one of two ways: at a round that failed, with the values that were collected or
with the failure, or else with its own error at a round that succeeded, which has read nothing since
its last reset point or left the input as it was. -/
theorem many_of_progress [Input σ τ π] [FiniteInput σ] {g : Phrase σ τ π ω [] α}
    (within : g.Within (.without [.putState, .setConsumed true, .setConsumed false]))
    (fuel : Nat) (s : State σ π) :
    (∀ values u a t, (g.parser .plain).Collects fuel s values u →
      (g.parser .plain).Delivers fuel (u.withConsumed false) (.ok a t) →
      t.remaining < u.remaining →
      (∃! x, Leaves .none g (u.withConsumed false) (.ok a t) x) ∧
        ∀ x, Leaves .none g (u.withConsumed false) (.ok a t) x →
          (¬x.IsStale → (g.parser .plain).Collects fuel s (values ++ [a]) t ∧
            (values.length < fuel → (g.parser .plain).many.outcome fuel s =
              (g.parser .plain).manyFrom fuel (fuel - (values.length + 1))
                (values ++ [a]).reverse t)) ∧
          (x.IsStale → values.length < fuel → ∃ flag, (g.parser .plain).many.outcome fuel s =
            .delivered (.errorHere emptyIterationMessage (t.withConsumed flag)))) ∧
    ∀ r, (g.parser .plain).many.Delivers fuel s r →
      ∃ values u, (g.parser .plain).Collects fuel s values u ∧
        ((∃ e t, (g.parser .plain).Delivers fuel (u.withConsumed false) (.error e t) ∧
            (r = .ok values u ∨ r = .error e t)) ∨
          ∃ a t flag, (g.parser .plain).Delivers fuel (u.withConsumed false) (.ok a t) ∧
            r = .errorHere emptyIterationMessage (t.withConsumed flag) ∧
            (∃! x, Leaves .none g (u.withConsumed false) (.ok a t) x) ∧
            ∀ x, Leaves .none g (u.withConsumed false) (.ok a t) x →
              x.IsStale ∨ t.input = u.input) := by
  have leavesOne {u t : State σ π} {a : α}
      (h : (g.parser .plain).Delivers fuel (u.withConsumed false) (.ok a t)) :
      ∃! x, Leaves .none g (u.withConsumed false) (.ok a t) x :=
    Phrase.existsUnique_leaves within ⟨by simp, by simp⟩ h (.inl ⟨a, t, rfl⟩)
  constructor
  · intro values u a t before h less
    refine ⟨leavesOne h, fun x leaves => ⟨fun fresh => ?_, fun stale more => ?_⟩⟩
    · have consumed : t.consumed = true := leaves.consumed_of_remaining_lt less fresh
      exact before.next_round h consumed
    · have clear : t.consumed = false := leaves.consumed_of_isStale stale
      exact ⟨t.consumed, before.empty_round h clear more⟩
  · intro r hr
    rcases delivers_many hr with ⟨values, u, before, stops⟩
    refine ⟨values, u, before, ?_⟩
    cases stops with
    | finished delivers clear => exact .inl ⟨_, _, delivers, .inl rfl⟩
    | committed delivers consumed => exact .inl ⟨_, _, delivers, .inr rfl⟩
    | empty delivers clear =>
        exact .inr ⟨_, _, _, delivers, rfl, leavesOne delivers,
          fun x leaves => leaves.isStale_or_input_eq clear⟩

/-- An item, and a comma after it unless the input ends there. -/
def separated : Phrase Text Char LineColumn Empty [] Unit :=
  .seqRight .anyItem (.orElse (.primitive .eof) (.seqRight (.item ',') (.primitive (.pure ()))))

/-- An item, and a look ahead at a choice whose first branch reads nothing. -/
def glancing : Phrase Text Char LineColumn Empty [] Nat :=
  .seqRight .anyItem (.wrap .lookAhead (.orElse (.primitive (.pure 1)) (.primitive (.pure 2))))

/-- The look-ahead puts its choice back, so that a round over an item is collected.  A round that
leaves its choice through the test for the end has read nothing since then, and is rejected. -/
theorem many_of_progress_glancing :
    glancing.Within (.without [.putState, .setConsumed true, .setConsumed false]) ∧
      (glancing.parser .plain).Delivers 3 ⟨⟨['a', 'b']⟩, ⟨1, 1⟩, false⟩
        (.ok 1 ⟨⟨['b']⟩, ⟨1, 2⟩, true⟩) ∧
      (glancing.parser .plain).Collects 3 ⟨⟨['a', 'b']⟩, ⟨1, 1⟩, false⟩ [1]
        ⟨⟨['b']⟩, ⟨1, 2⟩, true⟩ ∧
      (glancing.parser .plain).many.outcome 3 ⟨⟨['a', 'b']⟩, ⟨1, 1⟩, false⟩ =
        (glancing.parser .plain).manyFrom 3 2 [1] ⟨⟨['b']⟩, ⟨1, 2⟩, true⟩ ∧
      separated.Within (.without [.putState, .setConsumed true, .setConsumed false]) ∧
      (separated.parser .plain).Delivers 2 ⟨⟨['a']⟩, ⟨1, 1⟩, false⟩
        (.ok () ⟨⟨[]⟩, ⟨1, 2⟩, false⟩) ∧
      ∃ flag, (separated.parser .plain).many.outcome 2 ⟨⟨['a']⟩, ⟨1, 1⟩, false⟩ =
        .delivered (.errorHere emptyIterationMessage ⟨⟨[]⟩, ⟨1, 2⟩, flag⟩) := by
  have glances : glancing.Within (.without [.putState, .setConsumed true, .setConsumed false]) := by
    simp [glancing, Phrase.seqRight, Phrase.anyItem, Phrase.Within, Primitive.Within,
      Wrapping.Within]
  have separates : separated.Within
      (.without [.putState, .setConsumed true, .setConsumed false]) := by
    simp [separated, Phrase.seqRight, Phrase.anyItem, Phrase.item, Phrase.Within,
      Primitive.Within]
  have glanced : (glancing.parser .plain).Delivers 3 ⟨⟨['a', 'b']⟩, ⟨1, 1⟩, false⟩
      (.ok 1 ⟨⟨['b']⟩, ⟨1, 2⟩, true⟩) := rfl
  have ended : (separated.parser .plain).Delivers 2 ⟨⟨['a']⟩, ⟨1, 1⟩, false⟩
      (.ok () ⟨⟨[]⟩, ⟨1, 2⟩, false⟩) := rfl
  have behindItem : Leaves .none glancing ⟨⟨['a', 'b']⟩, ⟨1, 1⟩, false⟩
      (.ok 1 ⟨⟨['b']⟩, ⟨1, 2⟩, true⟩) (.sinceEntry ['a']) := by
    refine .andThen (x := .sinceEntry ['a']) (y := .sinceEntry []) (.primitive _ _ not_false) ?_
    exact .wrapBack .lookAhead (.orElseFirst (.primitive _ _) rfl) trivial
  have behindChoice : Leaves .none separated ⟨⟨['a']⟩, ⟨1, 1⟩, false⟩
      (.ok () ⟨⟨[]⟩, ⟨1, 2⟩, false⟩) (.sinceReset []) := by
    refine .andThen (x := .sinceEntry ['a']) (y := .sinceReset []) (.primitive _ _ not_false) ?_
    exact .orElseFirst (x := .sinceEntry []) (.primitive _ _ not_false) rfl
  have rounds := (many_of_progress glances 3 ⟨⟨['a', 'b']⟩, ⟨1, 1⟩, false⟩).1
  have collected := ((rounds [] _ 1 _ .start glanced (by decide)).2 _ behindItem).1 nofun
  have rounds' := (many_of_progress separates 2 ⟨⟨['a']⟩, ⟨1, 1⟩, false⟩).1
  have rejected := ((rounds' [] _ () _ .start ended (by decide)).2 _ behindChoice).2 rfl
  exact ⟨glances, glanced, collected.1, collected.2 (by decide), separates, ended,
    rejected (by decide)⟩

/-- The round over the last item succeeds with fewer items left, and is not collected: its
choice leaves through the test for the end, which reads nothing. -/
theorem not_collected_separated :
    separated.Within (.without [.getState, .putState, .setConsumed true, .setConsumed false]) ∧
      (separated.parser .plain).Delivers 2 ⟨⟨['a']⟩, ⟨1, 1⟩, false⟩
        (.ok () ⟨⟨[]⟩, ⟨1, 2⟩, false⟩) ∧
      (⟨⟨[]⟩, ⟨1, 2⟩, false⟩ : State Text LineColumn).remaining <
        (⟨⟨['a']⟩, ⟨1, 1⟩, false⟩ : State Text LineColumn).remaining ∧
      (separated.parser .plain).many.Delivers 2 ⟨⟨['a']⟩, ⟨1, 1⟩, false⟩
        (.errorHere emptyIterationMessage ⟨⟨[]⟩, ⟨1, 2⟩, false⟩) ∧
      ¬(separated.parser .plain).Collects 2 ⟨⟨['a']⟩, ⟨1, 1⟩, false⟩ [()]
        ⟨⟨[]⟩, ⟨1, 2⟩, false⟩ := by
  refine ⟨?_, rfl, by decide, rfl, fun collects => ?_⟩
  · simp [separated, Phrase.seqRight, Phrase.anyItem, Phrase.item, Phrase.Within,
      Primitive.Within]
  · have consumed := collects.consumed_of_ne_nil (List.cons_ne_nil () [])
    cases consumed

end Descent.Parser
