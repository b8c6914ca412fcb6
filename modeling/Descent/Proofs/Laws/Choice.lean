import Descent.Parser.Token
import Descent.Proofs.Parser.Delivery

/-!
# The laws of choices

A choice clears the flag for its first branch and hands the flag that it was entered with to its
second one.  So the two ways to bracket three parsers enter the middle one with different flags,
and ask different states whether a failure has read anything.  They are the same parser all the
same, and so a choice between many parsers can be taken apart anywhere.

Main definitions:

- `Parser.Recovers`: with the flag cleared, a parser fails and leaves the flag clear.

Main results:

- Theorem `orElse_assoc`: choices are associative.
- Theorem `choice_append`: a choice between the parsers of two lists.
- Theorem `orElse_assoc_and_choice_decides`: a choice between many parsers is decided by the first
  one that does not recover.
-/

namespace Descent.Parser

variable {m n : Type → Type} {σ π α ε : Type}

/-! ## Associativity -/

section Lawful

variable [Monad m] [LawfulMonad m]

/-- The last parser is tried under the same condition in both ways: the first two have failed, each
without reading. -/
theorem orElse_assoc (p q r : Parser m σ π α) :
    (p.orElse q).orElse r = p.orElse (q.orElse r) := by
  ext fuel s
  simp only [parse_orElse, State.withConsumed_withConsumed, bind_assoc]
  refine bind_congr fun reply => ?_
  cases recoverable : reply.isRecoverable with
  | true => rfl
  | false => simp [recoverable]

instance : Std.Associative (orElse : Parser m σ π α → Parser m σ π α → Parser m σ π α) where
  assoc := orElse_assoc

/-- The choice between no alternatives leaves everything to the second branch. -/
theorem empty_orElse (p : Parser m σ π α) : empty.orElse p = p := by
  ext fuel s
  exact pure_bind _ _

/-! ## Choices between many parsers -/

/-- A choice between the parsers of two lists tries the first list, and then the second. -/
theorem choice_append (xs : List (Parser m σ π α)) {ys : List (Parser m σ π α)}
    (some : ys ≠ []) : choice (xs ++ ys) = (choice xs).orElse (choice ys) := by
  cases xs with
  | nil => exact (empty_orElse (choice ys)).symm
  | cons x xs =>
      cases ys with
      | nil => exact (some rfl).elim
      | cons y ys =>
          -- Both sides run through `xs` and come to `y`, which is tried last or first.
          rw [List.cons_append, choice_cons, choice_cons, choice_cons, List.foldl_append,
            List.foldl_cons, List.foldl_assoc]

/-- A choice tries its first parser, and then chooses between the others. -/
theorem choice_cons_of_ne_nil (p : Parser m σ π α) {ps : List (Parser m σ π α)}
    (some : ps ≠ []) : choice (p :: ps) = p.orElse (choice ps) :=
  choice_append [p] some

end Lawful

/-! ## The parser that decides -/

section Decision

variable [Host n] [ImmediateHost n ε] {fuel : Nat} {s : State σ π}

/-- With the flag cleared, the parser fails and leaves the flag clear, so that something else may
be tried. -/
def Recovers (p : Parser n σ π α) (fuel : Nat) (s : State σ π) : Prop :=
  ∃ e t, p.Delivers fuel (s.withConsumed false) (.error e t) ∧ t.consumed = false

/-- A choice goes on behind a parser that recovers. -/
theorem Recovers.outcome_orElse {p : Parser n σ π α} (h : p.Recovers fuel s)
    (q : Parser n σ π α) : (p.orElse q).outcome fuel s = q.outcome fuel s := by
  rcases h with ⟨e, t, delivers, clear⟩
  exact outcome_orElse_of_clear delivers clear q

/-- A choice ends as its first parser does, unless that one recovers. -/
theorem outcome_orElse_of_not_recovers {p : Parser n σ π α} (h : ¬p.Recovers fuel s)
    (q : Parser n σ π α) :
    (p.orElse q).outcome fuel s = p.outcome fuel (s.withConsumed false) := by
  rw [Parser.outcome_orElse]
  cases run : p.outcome fuel (s.withConsumed false) with
  | failed failure => rfl
  | unfinished => rfl
  | delivered reply =>
      cases reply with
      | ok a t => rfl
      | error e t =>
          cases flag : t.consumed with
          | true => simp [flag]
          | false => exact (h ⟨e, t, run, flag⟩).elim

variable [LawfulMonad n]

/-- All parsers before the one that decides recover; that one is the last, and is run as if there
had been no others, or it does not recover. -/
theorem exists_deciding {ps : List (Parser n σ π α)} (some : ps ≠ []) (fuel : Nat)
    (s : State σ π) :
    ∃ passed p rest, ps = passed ++ p :: rest ∧ (∀ q ∈ passed, q.Recovers fuel s) ∧
      ((rest = [] ∧ (choice ps).outcome fuel s = p.outcome fuel s) ∨
        rest ≠ [] ∧ ¬p.Recovers fuel s ∧
          (choice ps).outcome fuel s = p.outcome fuel (s.withConsumed false)) := by
  induction ps with
  | nil => exact (some rfl).elim
  | cons p ps ih =>
      by_cases last : ps = []
      · rcases last with rfl
        exact ⟨[], p, [], rfl, by simp, .inl ⟨rfl, rfl⟩⟩
      rw [choice_cons_of_ne_nil p last]
      by_cases recovers : p.Recovers fuel s
      · rcases ih last with ⟨passed, q, rest, rfl, before, decides⟩
        refine ⟨p :: passed, q, rest, rfl, ?_, ?_⟩
        · exact List.forall_mem_cons.mpr ⟨recovers, before⟩
        · rw [recovers.outcome_orElse]
          exact decides
      · refine ⟨[], p, ps, rfl, by simp, .inr ⟨last, recovers, ?_⟩⟩
        exact outcome_orElse_of_not_recovers recovers (choice ps)

end Decision

/-- Choices are associative, and a choice between the parsers of two lists is the choice between
the choices, provided that the second list has parsers.  A choice between parsers ends as the first
one that does not recover, run with the flag cleared; or else as the last one, run in the very
state that the choice was entered with. -/
theorem orElse_assoc_and_choice_decides [Monad m] [LawfulMonad m] [Host n] [LawfulMonad n]
    [ImmediateHost n ε] :
    (∀ p q r : Parser m σ π α, (p.orElse q).orElse r = p.orElse (q.orElse r)) ∧
      (∀ xs ys : List (Parser m σ π α), ys ≠ [] →
        choice (xs ++ ys) = (choice xs).orElse (choice ys)) ∧
      ∀ (ps : List (Parser n σ π α)) (fuel : Nat) (s : State σ π), ps ≠ [] →
        ∃ passed p rest, ps = passed ++ p :: rest ∧ (∀ q ∈ passed, q.Recovers fuel s) ∧
          ((rest = [] ∧ (choice ps).outcome fuel s = p.outcome fuel s) ∨
            rest ≠ [] ∧ ¬p.Recovers fuel s ∧
              (choice ps).outcome fuel s = p.outcome fuel (s.withConsumed false)) :=
  ⟨orElse_assoc, fun xs _ => choice_append xs, fun _ fuel s some => exists_deciding some fuel s⟩

/-- A letter, an item that is not wanted, and nothing at all. -/
def alternatives : List (Parser Id Text LineColumn Char) :=
  [item 'a', anyItem.seqRight (fail "unwanted"), pure '!']

/-- Before another letter the second parser decides: it fails after reading, and the third one is
not tried.  Before the end of the input the third one decides, and hands the flag through. -/
theorem orElse_assoc_and_choice_decides_alternatives :
    ((item 'a').orElse (item 'b')).orElse (item 'c') =
        ((item 'a').orElse ((item 'b').orElse (item 'c')) : Parser Id Text LineColumn Char) ∧
      (choice alternatives).Delivers 0 ⟨⟨['b', 'c']⟩, ⟨1, 1⟩, true⟩
        (.error ⟨"unwanted", ⟨1, 2⟩⟩ ⟨⟨['c']⟩, ⟨1, 2⟩, true⟩) ∧
      (choice alternatives).Delivers 0 ⟨⟨[]⟩, ⟨1, 1⟩, true⟩ (.ok '!' ⟨⟨[]⟩, ⟨1, 1⟩, true⟩) ∧
      ∃ passed p rest, alternatives = passed ++ p :: rest ∧
        (∀ q ∈ passed, q.Recovers 0 ⟨⟨['b', 'c']⟩, ⟨1, 1⟩, true⟩) ∧
        ((rest = [] ∧ (choice alternatives).outcome 0 ⟨⟨['b', 'c']⟩, ⟨1, 1⟩, true⟩ =
            p.outcome 0 ⟨⟨['b', 'c']⟩, ⟨1, 1⟩, true⟩) ∨
          rest ≠ [] ∧ ¬p.Recovers 0 ⟨⟨['b', 'c']⟩, ⟨1, 1⟩, true⟩ ∧
            (choice alternatives).outcome 0 ⟨⟨['b', 'c']⟩, ⟨1, 1⟩, true⟩ =
              p.outcome 0 ⟨⟨['b', 'c']⟩, ⟨1, 1⟩, false⟩) := by
  have laws := orElse_assoc_and_choice_decides (m := Id) (n := Id) (σ := Text)
    (π := LineColumn) (α := Char)
  refine ⟨laws.1 _ _ _, rfl, rfl, ?_⟩
  exact laws.2.2 alternatives 0 ⟨⟨['b', 'c']⟩, ⟨1, 1⟩, true⟩ (List.cons_ne_nil _ _)

end Descent.Parser
