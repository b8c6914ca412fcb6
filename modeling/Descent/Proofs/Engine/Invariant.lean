import Descent.Proofs.Input.Reading
import Descent.Proofs.Parser.EndRelation

/-!
# The invariant of the engine

Wherever a run ends, it got there by reading: the input that is left is the input it was
entered with after some items, the position was advanced over exactly these items, and the
flag is set only if it was set before or an item was read.  Every construct keeps this, on
success and on failure, as long as no state is put in place from outside and no flag is set
by hand.

Main results:

- Theorem `closedUnder_advances`: every construct keeps the invariant.
- Theorem `exists_items_read`: the invariant of every run of a composed parser.
-/

namespace Descent.Parser

variable {m : Type → Type} {σ τ π α ε : Type}

section

variable [Host m] [ImmediateHost m ε] [Input σ τ π]

/-- Every reply of a parser is reached by reading. -/
def Advances (α : Type) (p : Parser m σ π α) : Prop :=
  ∀ fuel s r, p.Delivers fuel s r → ∃ items : List τ, s.Reads items r.state

/-- Reading allows all that a construct does to a state. -/
theorem runRelation_reads :
    RunRelation fun s t : State σ π => ∃ items : List τ, s.Reads items t where
  refl s := ⟨[], .refl s⟩
  trans first second := by
    rcases first with ⟨xs, first⟩
    rcases second with ⟨ys, second⟩
    exact ⟨xs ++ ys, first.trans second⟩
  next {_ _ x} next := ⟨[x], State.reads_of_next? next⟩
  of_clear cleared := by
    rcases cleared with ⟨xs, reads⟩
    exact ⟨xs, reads.of_clear⟩
  restore given := by
    rcases given with ⟨xs, reads⟩
    exact ⟨xs, reads.restore⟩

/-- Every construct keeps the invariant, but for those that put a state in place or set the
flag.  Of the two flags only the clear one may be set by hand. -/
theorem closedUnder_advances :
    ClosedUnder (.without [.putState, .setConsumed true])
      (Advances : ParserProperty m σ π) := by
  refine runRelation_reads.closedUnder (by simp) fun consumed allowed s => ?_
  cases consumed with
  | true => simp at allowed
  | false => exact ⟨[], (State.Reads.refl s).clear⟩

/-- Whatever a composed parser delivers, the input that is left is the input it was entered
with after some items, its position was advanced over exactly these, and its flag is set only
if it was set before or at least one item was read. -/
theorem exists_items_read {p : Parser m σ π α}
    (hp : p.Composed (.without [.putState, .setConsumed true])) {fuel : Nat} {s : State σ π}
    {r : Reply σ π α} (h : p.Delivers fuel s r) :
    ∃ items : List τ, Input.Reads s.input items r.state.input ∧
      r.state.position = items.foldl (Input.advance σ) s.position ∧
      (r.state.consumed = true → s.consumed = true ∨ 1 ≤ items.length) := by
  rcases hp.induction closedUnder_advances fuel s r h with ⟨items, reads⟩
  refine ⟨items, reads.input, reads.position, fun flag => ?_⟩
  rcases reads.consumed flag with entry | read
  · exact .inl entry
  · exact .inr (List.length_pos_iff.mpr read)

end

/-- Items that are each followed by a line break. -/
def brokenLines : Parser (Except String) Text LineColumn (List Char) :=
  (anyItem.seqRight ((item '\n').orElse (fail "stuck"))).many

/-- The first round reads an item and a line break; the second reads an item, and its choice
fails where it stands.  The failure is three items on, with the flag set. -/
theorem exists_items_read_brokenLines :
    brokenLines.Composed (.without [.putState, .setConsumed true]) ∧
      brokenLines.Delivers 5 ⟨⟨['a', '\n', 'b', 'c']⟩, ⟨1, 1⟩, false⟩
        (.error ⟨"stuck", ⟨2, 2⟩⟩ ⟨⟨['c']⟩, ⟨2, 2⟩, true⟩) ∧
      ∃ items : List Char, Input.Reads (⟨['a', '\n', 'b', 'c']⟩ : Text) items ⟨['c']⟩ ∧
        (⟨2, 2⟩ : LineColumn) = items.foldl (Input.advance Text) ⟨1, 1⟩ ∧
        (true = true → false = true ∨ 1 ≤ items.length) := by
  have composed : brokenLines.Composed (.without [.putState, .setConsumed true]) := by
    refine .many (by simp) (.seqRight .anyItem ?_)
    exact .orElse (by simp) (.item '\n') (.fail "stuck")
  have delivers : brokenLines.Delivers 5 ⟨⟨['a', '\n', 'b', 'c']⟩, ⟨1, 1⟩, false⟩
      (.error ⟨"stuck", ⟨2, 2⟩⟩ ⟨⟨['c']⟩, ⟨2, 2⟩, true⟩) := rfl
  exact ⟨composed, delivers, exists_items_read composed delivers⟩

end Descent.Parser
