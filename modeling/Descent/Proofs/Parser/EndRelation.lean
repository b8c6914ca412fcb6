import Descent.Proofs.Parser.Closure
import Descent.Proofs.Parser.Rounds

/-!
# Relations between the two ends of a run

Some invariants relate the state that a run ends in to the one that it began in.  No construct does
much to a state: it reads an item, goes on where another run ended, enters a branch or a round with
the flag cleared, or gives back the flag of its own entry.  So a relation that allows these few
moves holds between the two ends of every run.  Only the constructs that put a state in place or set
the flag by hand have to be looked at for each relation.

Main definitions:

- `RunRelation`: relations between states that allow each of these moves.
- `Parser.Relates`: every run of a parser leads from its start to its end by a relation.

Main results:

- Theorem `RunRelation.closedUnder`: every construct keeps such a relation.
-/

namespace Descent

variable {m : Type → Type} {σ τ π α β ε : Type}

/-- A relation between states that allows all that a construct does to a state. -/
structure RunRelation [Input σ τ π] (R : State σ π → State σ π → Prop) : Prop where
  refl (s : State σ π) : R s s
  trans {s t u : State σ π} (first : R s t) (second : R t u) : R s u
  next {s t : State σ π} {x : τ} (next : s.next? = some (x, t)) : R s t
  of_clear {s t : State σ π} (cleared : R (s.withConsumed false) t) : R s t
  restore {s t : State σ π} (given : R s t) : R s (t.withConsumed s.consumed)

namespace Parser

variable [Host m] [ImmediateHost m ε]

/-- Every run of a parser leads by the relation from its start to its end. -/
def Relates (R : State σ π → State σ π → Prop) (α : Type) (p : Parser m σ π α) : Prop :=
  ∀ fuel s r, p.Delivers fuel s r → R s r.state

/-- A wrapper that only relabels ends where its parser does. -/
theorem Relates.relabel {R : State σ π → State σ π → Prop} {p : Parser m σ π α}
    {change : State σ π → Reply σ π α → Reply σ π β} (relabels : Relabels change)
    (hp : Relates R α p) : Relates R β (p.revise change) := by
  intro fuel s r delivers
  rcases delivers_of_relabels relabels delivers with
    ⟨a, b, t, inner, rfl⟩ | ⟨e, f, t, inner, rfl⟩
  · exact hp fuel s _ inner
  · exact hp fuel s _ inner

end Parser

namespace RunRelation

open Descent.Parser

variable [Host m] [ImmediateHost m ε] [Input σ τ π] {R : State σ π → State σ π → Prop}

/-- The items of a literal are read one after the other. -/
theorem readAll? [BEq τ] (h : RunRelation R) {items : List τ} {s t : State σ π}
    (read : State.readAll? items s = some t) : R s t := by
  induction items generalizing s with
  | nil =>
      obtain rfl := Option.some.inj read
      exact h.refl s
  | cons x xs ih =>
      unfold State.readAll? at read
      split at read
      · rename_i y rest next
        split at read
        · exact h.trans (h.next next) (ih read)
        · cases read
      · cases read

theorem of_stays (h : RunRelation R) {p : Parser m σ π α} (stays : p.Stays) : Relates R α p := by
  intro fuel s r delivers
  rw [stays fuel s r delivers]
  exact h.refl s

theorem satisfy (h : RunRelation R) (accept : τ → Bool) (expected : String) :
    Relates R τ (.satisfy accept expected : Parser m σ π τ) := by
  intro fuel s r delivers
  rcases delivers_satisfy delivers with ⟨x, t, next, -, rfl⟩ | ⟨message, rfl⟩
  · exact h.next next
  · exact h.refl s

theorem literal [BEq τ] (h : RunRelation R) (items : List τ) (expected : String) :
    Relates R Unit (.literal items expected : Parser m σ π Unit) := by
  intro fuel s r delivers
  rcases delivers_literal delivers with ⟨t, read, rfl⟩ | rfl
  · exact h.readAll? read
  · exact h.refl s

theorem andThen (h : RunRelation R) {p : Parser m σ π α} {k : α → Parser m σ π β}
    (hp : Relates R α p) (hk : ∀ a, Relates R β (k a)) : Relates R β (p.andThen k) := by
  intro fuel s r delivers
  rcases delivers_andThen.mp delivers with ⟨a, t, first, second⟩ | ⟨e, t, fails, rfl⟩
  · have middle : R s t := hp fuel s _ first
    exact h.trans middle (hk a fuel t r second)
  · exact hp fuel s _ fails

/-- The first branch is run with the flag cleared, and the second as if the first had never
been run. -/
theorem orElse (h : RunRelation R) {p q : Parser m σ π α} (hp : Relates R α p)
    (hq : Relates R α q) : Relates R α (p.orElse q) := by
  intro fuel s r delivers
  rcases delivers_orElse.mp delivers with
    ⟨a, t, first, rfl⟩ | ⟨e, t, first, -, rfl⟩ | ⟨e, t, -, -, second⟩
  · exact h.of_clear (hp fuel _ _ first)
  · exact h.of_clear (hp fuel _ _ first)
  · exact hq fuel s r second

/-- Collected rounds lead on, one after the other. -/
theorem of_collects (h : RunRelation R) {p : Parser m σ π α} (hp : Relates R α p) {fuel : Nat}
    {s u : State σ π} {values : List α} (collects : p.Collects fuel s values u) : R s u := by
  induction collects with
  | start => exact h.refl s
  | round before delivers consumed ih => exact h.trans ih (h.of_clear (hp fuel _ _ delivers))

/-- A repetition ends where its last round ended or where that round began. -/
theorem many (h : RunRelation R) {p : Parser m σ π α} (hp : Relates R α p) :
    Relates R (List α) p.many := by
  intro fuel s r ends
  rcases delivers_many ends with ⟨values, u, collects, stops⟩
  have earlier : R s u := h.of_collects hp collects
  cases stops with
  | finished delivers clear => exact earlier
  | committed delivers consumed => exact h.trans earlier (h.of_clear (hp fuel _ _ delivers))
  | empty delivers clear => exact h.trans earlier (h.of_clear (hp fuel _ _ delivers))

/-- After a failure an attempt has moved on, but has the flag it was entered with. -/
theorem attempt (h : RunRelation R) {p : Parser m σ π α} (hp : Relates R α p) :
    Relates R α p.attempt := by
  intro fuel s r delivers
  rcases delivers_attempt.mp delivers with ⟨a, t, inner, rfl⟩ | ⟨e, t, inner, rfl⟩
  · exact hp fuel s _ inner
  · exact h.restore (hp fuel s _ inner)

theorem filterMap (h : RunRelation R) {p : Parser m σ π α} (decide : α → Option β)
    (message : String) (hp : Relates R α p) : Relates R β (p.filterMap decide message) := by
  intro fuel s r delivers
  rcases delivers_filterMap.mp delivers with
    ⟨a, b, t, inner, -, rfl⟩ | ⟨a, t, -, -, rfl⟩ | ⟨e, t, inner, rfl⟩
  · exact hp fuel s _ inner
  · exact h.refl s
  · exact hp fuel s _ inner

/-- Every construct keeps the relation, in a fragment that puts no state in place and that sets the
flag by hand only where the relation allows it. -/
theorem closedUnder (h : RunRelation R) {F : Fragment} (putsNoState : ¬F.allows .putState)
    (flags : ∀ consumed, F.allows (.setConsumed consumed) → ∀ s, R s (s.withConsumed consumed)) :
    ClosedUnder F (Relates R : ParserProperty m σ π) := by
  have closed : ClosedOnStates F (Relates R : ParserProperty m σ π) :=
    { stays := h.of_stays
      putState := fun allowed => (putsNoState allowed).elim
      setConsumed := fun consumed allowed fuel s r delivers => by
        obtain rfl := delivers_setConsumed.mp delivers
        exact flags consumed allowed s
      satisfy := h.satisfy
      literal := h.literal
      relabel := Relates.relabel
      andThen := h.andThen
      orElse := fun _ hp hq => h.orElse hp hq
      many := fun _ hp => h.many hp
      attempt := fun _ hp => h.attempt hp
      filterMap := fun decide message hp => h.filterMap decide message hp
      fuelwise := fuelwise_replies fun s r => R s r.state }
  exact closed.closedUnder

end RunRelation

end Descent
