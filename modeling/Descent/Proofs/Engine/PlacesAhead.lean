import Descent.Proofs.Input.Reading
import Descent.Proofs.Parser.EndRelation

/-!
# Runs end ahead of where they began

Whatever a run does to the flag, and wherever it goes back to, it ends at a place that is reached
from its start by passing items of the input.  Only a state that is put in place from outside can
lead anywhere else.

Main definitions:

- `State.Reaches`: a place behind some of the items that are left.
- `Parser.EndsAhead`: all runs of a parser end at such places.

Main results:

- Theorem `closedUnder_endsAhead`: every construct ends ahead, but for the one that puts a state in
  place.
-/

namespace Descent

variable {m : Type → Type} {σ τ π α ε : Type}

/-! ## Places ahead -/

section

variable [Input σ τ π] {s t u : State σ π}

/-- Some items lead from the place of the first state to the place of the second, whatever the
flags. -/
def State.Reaches (s t : State σ π) : Prop :=
  ∃ items : List τ, s.Passes items t

namespace State.Reaches

theorem refl (s : State σ π) : s.Reaches s :=
  ⟨[], .refl s⟩

theorem trans (h : s.Reaches t) (h' : t.Reaches u) : s.Reaches u := by
  rcases h with ⟨xs, first⟩
  rcases h' with ⟨ys, second⟩
  exact ⟨xs ++ ys, first.trans second⟩

theorem withConsumed (h : s.Reaches t) (b : Bool) : s.Reaches (t.withConsumed b) := by
  rcases h with ⟨xs, passes⟩
  exact ⟨xs, passes.withConsumed b⟩

theorem of_withConsumed {b : Bool} (h : (s.withConsumed b).Reaches t) : s.Reaches t := by
  rcases h with ⟨xs, passes⟩
  exact ⟨xs, passes.of_withConsumed⟩

theorem of_next? {x : τ} (h : s.next? = some (x, t)) : s.Reaches t :=
  ⟨[x], (State.reads_of_next? h).passes⟩

end State.Reaches

/-- Places ahead allow all that a construct does to a state, because they do not depend on the
flag. -/
theorem runRelation_reaches : RunRelation (State.Reaches : State σ π → State σ π → Prop) where
  refl := .refl
  trans := .trans
  next := .of_next?
  of_clear := .of_withConsumed
  restore given := given.withConsumed _

end

namespace Parser

variable [Host m] [ImmediateHost m ε] [Input σ τ π]

/-! ## Runs end ahead -/

/-- Every run of a parser ends at a place ahead of the one that it was entered at. -/
def EndsAhead (α : Type) (p : Parser m σ π α) : Prop :=
  ∀ fuel s r, p.Delivers fuel s r → s.Reaches r.state

/-- Every construct ends ahead, but for the one that puts a state in place. -/
theorem closedUnder_endsAhead :
    ClosedUnder (.without [.putState]) (EndsAhead : ParserProperty m σ π) :=
  runRelation_reaches.closedUnder (by simp) fun consumed _ s =>
    (State.Reaches.refl s).withConsumed consumed

end Parser

end Descent
