import Descent.Proofs.Engine.Invariant

/-!
# Where the flag is exact

A set flag always has a reason: it was set before, or an item was read.  The converse fails for
choices, whose first branch is entered with the flag cleared and keeps its own flag when it
succeeds.  Without choices, and without parsers that set the state or the flag, a run that
succeeds accounts for everything that it read.  Its parts may fail with any flag, but a success
never takes over the state of a failure.

Main definitions:

- `Parser.Accountable`: every success accounts for what it read.

Main results:

- Theorem `closedUnder_accountable`: every construct but choices keeps this.
- Theorem `consumed_iff_of_ok`: the flag of every success of a composed parser.
-/

namespace Descent

variable {m : Type → Type} {σ τ π α β ε : Type}

namespace Parser

section

variable [Host m] [ImmediateHost m ε] [Input σ τ π]

/-! ## Parsers that account for what they read -/

/-- Every success of a parser accounts for the items that it read. -/
def Accountable (α : Type) (p : Parser m σ π α) : Prop :=
  ∀ fuel s r, p.Delivers fuel s r → r.result.isOk = true →
    ∃ items : List τ, s.Accounts items r.state

namespace Accountable

theorem of_stays {p : Parser m σ π α} (h : p.Stays) : Accountable α p := by
  intro fuel s r hr _
  rw [h fuel s r hr]
  exact ⟨[], .refl s⟩

theorem fuelwise : Fuelwise (Accountable : ParserProperty m σ π) :=
  fuelwise_replies fun s r =>
    r.result.isOk = true → ∃ items : List τ, s.Accounts items r.state

theorem satisfy (accept : τ → Bool) (expected : String) :
    Accountable τ (.satisfy accept expected : Parser m σ π τ) := by
  intro fuel s r h succeeded
  rcases delivers_satisfy h with ⟨x, t, hnext, -, rfl⟩ | ⟨message, rfl⟩
  · exact ⟨[x], State.accounts_of_next? hnext⟩
  · cases succeeded

theorem literal [BEq τ] (items : List τ) (expected : String) :
    Accountable Unit (.literal items expected : Parser m σ π Unit) := by
  intro fuel s r h succeeded
  rcases delivers_literal h with ⟨t, hread, rfl⟩ | rfl
  · rcases State.accounts_of_readAll? hread with ⟨xs, accounts, -⟩
    exact ⟨xs, accounts⟩
  · cases succeeded

theorem relabel {p : Parser m σ π α} {change : State σ π → Reply σ π α → Reply σ π β}
    (h : Relabels change) (hp : Accountable α p) : Accountable β (p.revise change) := by
  intro fuel s r hr succeeded
  rcases delivers_of_relabels h hr with ⟨a, b, t, hpt, rfl⟩ | ⟨e, f, t, hpt, rfl⟩
  · exact hp fuel s _ hpt rfl
  · cases succeeded

/-- A sequence succeeds only if both of its parts do. -/
theorem andThen {p : Parser m σ π α} {k : α → Parser m σ π β} (hp : Accountable α p)
    (hk : ∀ a, Accountable β (k a)) : Accountable β (p.andThen k) := by
  intro fuel s r h succeeded
  rcases delivers_andThen.mp h with ⟨a, t, hpt, hkr⟩ | ⟨e, t, hpt, rfl⟩
  · rcases hp fuel s _ hpt rfl with ⟨xs, first⟩
    rcases hk a fuel t r hkr succeeded with ⟨ys, second⟩
    exact ⟨xs ++ ys, first.trans second⟩
  · cases succeeded

/-- Each collected round has set the flag again, whatever it had been cleared from. -/
theorem of_collects {p : Parser m σ π α} (hp : Accountable α p) {fuel : Nat} {s u : State σ π}
    {values : List α} (h : p.Collects fuel s values u) :
    ∃ items : List τ, s.Accounts items u := by
  induction h with
  | start => exact ⟨[], .refl s⟩
  | round before delivers consumed ih =>
      rcases ih with ⟨xs, earlier⟩
      rcases hp fuel _ _ delivers rfl with ⟨ys, last⟩
      have reads := earlier.toReads.trans last.toReads.of_clear
      exact ⟨xs ++ ys, .of_consumed reads consumed⟩

/-- A repetition succeeds where its last collected round ended, or where it began.  The round
that stops it fails, and its state is forgotten. -/
theorem many {p : Parser m σ π α} (hp : Accountable α p) : Accountable (List α) p.many := by
  intro fuel s r h succeeded
  rcases delivers_many h with ⟨values, u, collects, stops⟩
  cases stops with
  | finished delivers clear => exact hp.of_collects collects
  | committed delivers consumed => cases succeeded
  | empty delivers clear => cases succeeded

theorem attempt {p : Parser m σ π α} (hp : Accountable α p) : Accountable α p.attempt := by
  intro fuel s r h succeeded
  rcases delivers_attempt.mp h with ⟨a, t, hpt, rfl⟩ | ⟨e, t, hpt, rfl⟩
  · exact hp fuel s _ hpt rfl
  · cases succeeded

theorem filterMap {p : Parser m σ π α} (decide : α → Option β) (message : String)
    (hp : Accountable α p) : Accountable β (p.filterMap decide message) := by
  intro fuel s r h succeeded
  rcases delivers_filterMap.mp h with
    ⟨a, b, t, hpt, -, rfl⟩ | ⟨a, t, -, -, rfl⟩ | ⟨e, t, hpt, rfl⟩
  · exact hp fuel s _ hpt rfl
  · cases succeeded
  · cases succeeded

end Accountable

/-! ## All constructs -/

/-- Every construct keeps the account of its parts, but for choices and for the constructs that
put a state in place or set the flag. -/
theorem closedUnder_accountable :
    ClosedUnder (.without [.orElse, .putState, .setConsumed true, .setConsumed false])
      (Accountable : ParserProperty m σ π) := by
  have closed :
      ClosedOnStates (.without [.orElse, .putState, .setConsumed true, .setConsumed false])
        (Accountable : ParserProperty m σ π) :=
    { stays := Accountable.of_stays
      putState := fun allowed => by simp at allowed
      setConsumed := fun consumed allowed => by cases consumed <;> simp at allowed
      satisfy := Accountable.satisfy
      literal := Accountable.literal
      relabel := Accountable.relabel
      andThen := fun hp hk => hp.andThen hk
      orElse := fun allowed => by simp at allowed
      many := fun _ hp => hp.many
      attempt := fun _ hp => hp.attempt
      filterMap := fun decide message hp => hp.filterMap decide message
      fuelwise := Accountable.fuelwise }
  exact closed.closedUnder

/-- Where a composed parser without choices succeeds, the flag is set exactly if it was set
before or an item was read.  On an input that ends, an item was read exactly if fewer are left. -/
theorem consumed_iff_of_ok {p : Parser m σ π α}
    (hp : p.Composed (.without [.orElse, .putState, .setConsumed true, .setConsumed false]))
    {fuel : Nat} {s t : State σ π} {a : α} (h : p.Delivers fuel s (.ok a t)) :
    ∃ items : List τ, Input.Reads s.input items t.input ∧
      (t.consumed = true ↔ s.consumed = true ∨ 1 ≤ items.length) ∧
      ∀ [FiniteInput σ], t.consumed = true ↔ s.consumed = true ∨ t.remaining < s.remaining := by
  rcases hp.induction closedUnder_accountable fuel s _ h rfl with ⟨items, accounts⟩
  have reads : s.Reads items t := accounts.toReads
  refine ⟨items, reads.input, ?_, ?_⟩
  · rw [Nat.succ_le_iff, List.length_pos_iff]
    exact accounts.consumed_iff
  · intro _
    rw [reads.remaining_lt_iff]
    exact accounts.consumed_iff

end

/-- A pair of brackets with such pairs between them. -/
def brackets : Parser (Except String) Text LineColumn Char :=
  recursive fun me => (item '(').seqRight (me.attempt.many.seqRight (item ')'))

/-- The second round reads a bracket and fails at the end of the input.  Its attempt clears the
flag, but the repetition succeeds in the state behind the first round, with the flag set. -/
theorem consumed_iff_of_ok_brackets :
    brackets.attempt.many.Composed
        (.without [.orElse, .putState, .setConsumed true, .setConsumed false]) ∧
      brackets.attempt.Delivers 3 ⟨⟨['(']⟩, ⟨1, 3⟩, false⟩
        (.error ⟨unexpectedEndMessage (Quoted.quoted ')'), ⟨1, 4⟩⟩ ⟨⟨[]⟩, ⟨1, 4⟩, false⟩) ∧
      brackets.attempt.many.Delivers 3 ⟨⟨['(', ')', '(']⟩, ⟨1, 1⟩, false⟩
        (.ok [')'] ⟨⟨['(']⟩, ⟨1, 3⟩, true⟩) ∧
      ∃ items : List Char, Input.Reads (⟨['(', ')', '(']⟩ : Text) items ⟨['(']⟩ ∧
        (true = true ↔ false = true ∨ 1 ≤ items.length) ∧
        (true = true ↔ false = true ∨
          (⟨⟨['(']⟩, ⟨1, 3⟩, true⟩ : State Text LineColumn).remaining <
            (⟨⟨['(', ')', '(']⟩, ⟨1, 1⟩, false⟩ : State Text LineColumn).remaining) := by
  have composed : brackets.attempt.many.Composed
      (.without [.orElse, .putState, .setConsumed true, .setConsumed false]) := by
    refine .many (by simp) (.attempt (by simp) (.recursive (by simp) fun me => ?_))
    refine .seqRight (.item '(') (.seqRight ?_ (.item ')'))
    exact .many (by simp) (.attempt (by simp) (.known (.rule ())))
  have delivers : brackets.attempt.many.Delivers 3 ⟨⟨['(', ')', '(']⟩, ⟨1, 1⟩, false⟩
      (.ok [')'] ⟨⟨['(']⟩, ⟨1, 3⟩, true⟩) := rfl
  rcases consumed_iff_of_ok composed delivers with ⟨items, reads, flag, finite⟩
  exact ⟨composed, rfl, delivers, items, reads, flag, finite⟩

end Parser

end Descent
