import Descent.Host.Resumption
import Descent.Parser.Token
import Descent.Proofs.Parser.Composition
import Descent.Proofs.Parser.Delivery

/-!
# The laws of sequences

A host that keeps the monad laws gives parsers that keep them.  A failure carries its state past
everything that would have followed, so the laws hold of whole replies, of the states and flags of
failures too.  In particular it does not matter how a sequence of parsers is bracketed.

Main definitions:

- `Nesting`: parsers in sequence, bracketed in some way.
- `SequenceLaws`: what sequences, mapped values, pairs and lifted computations come to.

Main results:

- Theorems `andThen_pure`, `andThen_assoc`: parsers are a lawful monad, as an instance.
- Theorem `Nesting.parser_eq_foldr`: a nesting runs its parsers one after the other.
- Theorem `sequenceLaws_of_lawfulMonad`: the laws in every lawful host.
-/

namespace Descent.Parser

variable {m : Type → Type} {σ τ π α β γ : Type} [Monad m]

/-! ## Parsers are a lawful monad -/

theorem parse_andThen (p : Parser m σ π α) (k : α → Parser m σ π β) (fuel : Nat)
    (s : State σ π) :
    (p.andThen k).parse fuel s = p.parse fuel s >>= fun reply =>
      match reply.result with
      | .ok value => (k value).parse fuel reply.state
      | .error e => Pure.pure (.error e reply.state) :=
  rfl

section Lawful

variable [LawfulMonad m]

/-- A sequence that ends with the value of its first part. -/
theorem andThen_pure (p : Parser m σ π α) : p.andThen pure = p := by
  ext fuel s
  have unchanged (reply : Reply σ π α) :
      (match reply.result with
        | .ok value => (pure value : Parser m σ π α).parse fuel reply.state
        | .error e => Pure.pure (.error e reply.state)) = Pure.pure reply := by
    cases reply with
    | ok value t => rfl
    | error e t => rfl
  rw [parse_andThen, bind_congr unchanged, bind_pure]

/-- A failure skips both of the parsers behind it, however they are bracketed. -/
theorem andThen_assoc (p : Parser m σ π α) (k : α → Parser m σ π β) (l : β → Parser m σ π γ) :
    (p.andThen k).andThen l = p.andThen fun a => (k a).andThen l := by
  ext fuel s
  rw [parse_andThen, parse_andThen, parse_andThen, bind_assoc]
  refine bind_congr fun reply => ?_
  cases reply with
  | ok value t => rfl
  | error e t => exact pure_bind _ _

/-- Changing the value is going on with the changed value. -/
theorem map_eq_andThen (f : α → β) (p : Parser m σ π α) :
    p.map f = p.andThen fun a => pure (f a) := by
  ext fuel s
  rw [parse_map, parse_andThen, map_eq_pure_bind]
  refine bind_congr fun reply => ?_
  cases reply with
  | ok value t => rfl
  | error e t => rfl

instance : LawfulMonad (Parser m σ π) :=
  LawfulMonad.mk' (Parser m σ π)
    (fun p => (map_eq_andThen id p).trans (andThen_pure p))
    (fun a k => pure_andThen a k)
    andThen_assoc
    (fun _ _ => rfl)
    (fun _ _ => rfl)
    (fun _ _ => rfl)
    (fun f p => (map_eq_andThen f p).symm)

/-- A lifted value is a value. -/
theorem lift_pure (value : α) : (lift (Pure.pure value) : Parser m σ π α) = pure value := by
  ext fuel s
  refine OptionT.ext ?_
  simp [lift, perform]

/-- A lifted sequence is a sequence of lifted computations. -/
theorem lift_bind (c : m α) (h : α → m β) :
    (lift (c >>= h) : Parser m σ π β) = (lift c).andThen fun a => lift (h a) := by
  ext fuel s
  refine OptionT.ext ?_
  simp [lift, perform, andThen, Reply.ok]

end Lawful

/-! ## Bracketed sequences -/

/-- Parsers in sequence, bracketed in some way; the value is that of the last one. -/
inductive Nesting (m : Type → Type) (σ π : Type) : Type → Type 1 where
  | one {α : Type} (p : Parser m σ π α) : Nesting m σ π α
  | join {α β : Type} (x : Nesting m σ π α) (y : Nesting m σ π β) : Nesting m σ π β

namespace Nesting

/-- The sequence that a bracketing stands for. -/
def parser {α : Type} : Nesting m σ π α → Parser m σ π α
  | one p => p
  | join x y => x.parser.seqRight y.parser

/-- The parsers from left to right, without the brackets. -/
def parts {α : Type} : Nesting m σ π α → List (Σ β : Type, Parser m σ π β)
  | one p => [⟨_, p⟩]
  | join x y => x.parts ++ y.parts

/-- The parsers before the last one. -/
def front {α : Type} : Nesting m σ π α → List (Σ β : Type, Parser m σ π β)
  | one _ => []
  | join x y => x.parts ++ y.front

/-- The parser that gives the value. -/
def last {α : Type} : Nesting m σ π α → Parser m σ π α
  | one p => p
  | join _ y => y.last

omit [Monad m] in
theorem parts_eq (x : Nesting m σ π α) : x.parts = x.front ++ [⟨α, x.last⟩] := by
  induction x with
  | one p => rfl
  | join x y _ ih => rw [parts, ih, front, last, List.append_assoc]

variable [LawfulMonad m]

/-- What follows a nesting follows its parsers one after the other. -/
theorem seqRight_eq_foldr (x : Nesting m σ π α) (q : Parser m σ π β) :
    x.parser.seqRight q = x.parts.foldr (fun p rest => p.2.seqRight rest) q := by
  induction x generalizing q with
  | one p => rfl
  | join x y ihx ihy =>
      rw [parts, List.foldr_append, ← ihy, ← ihx]
      exact andThen_assoc _ _ _

/-- A nesting runs its parsers one after the other. -/
theorem parser_eq_foldr (x : Nesting m σ π α) :
    x.parser = x.front.foldr (fun p rest => p.2.seqRight rest) x.last := by
  induction x with
  | one p => rfl
  | join x y _ ih => rw [parser, ih, seqRight_eq_foldr, front, last, List.foldr_append]

/-- The brackets of a sequence make no difference. -/
theorem parser_eq_of_parts_eq {x y : Nesting m σ π α} (same : x.parts = y.parts) :
    x.parser = y.parser := by
  rw [parts_eq, parts_eq] at same
  rcases List.append_inj' same rfl with ⟨front, last⟩
  obtain ⟨-, last⟩ := Sigma.mk.inj (List.cons.inj last).1
  rw [parser_eq_foldr, parser_eq_foldr, front, eq_of_heq last]

end Nesting

/-! ## The laws together -/

/-- What sequences, mapped values, pairs and lifted computations come to, as computations of the
host on every state, with whatever fuel. -/
structure SequenceLaws (m : Type → Type) (σ π : Type) [Monad m] : Prop where
  pure_left {α β : Type} (v : α) (k : α → Parser m σ π β) : (pure v).andThen k = k v
  pure_right {α : Type} (p : Parser m σ π α) : p.andThen pure = p
  assoc {α β γ : Type} (p : Parser m σ π α) (k : α → Parser m σ π β) (l : β → Parser m σ π γ) :
    (p.andThen k).andThen l = p.andThen fun a => (k a).andThen l
  map_eq {α β : Type} (p : Parser m σ π α) (f : α → β) :
    p.map f = p.andThen fun a => pure (f a)
  pair_eq {α β : Type} (p : Parser m σ π α) (q : Parser m σ π β) :
    p.pair q = p.andThen fun a => q.map fun b => (a, b)
  lift_value {α : Type} (v : α) : (lift (Pure.pure v) : Parser m σ π α) = pure v
  lift_sequence {α β : Type} (c : m α) (h : α → m β) :
    (lift (c >>= h) : Parser m σ π β) = (lift c).andThen fun a => lift (h a)
  brackets {α : Type} (x y : Nesting m σ π α) : x.parts = y.parts → x.parser = y.parser

/-- In every host that keeps the monad laws, parsers keep the laws of sequences; the hosts without
effects, with failures and with suspensions are such hosts. -/
theorem sequenceLaws_of_lawfulMonad :
    (∀ (m : Type → Type) [Monad m] [LawfulMonad m], SequenceLaws m σ π) ∧
      SequenceLaws Id σ π ∧ (∀ ε, SequenceLaws (Except ε) σ π) ∧ SequenceLaws Resumption σ π := by
  have lawful (m : Type → Type) [Monad m] [LawfulMonad m] : SequenceLaws m σ π :=
    { pure_left := pure_andThen
      pure_right := andThen_pure
      assoc := andThen_assoc
      map_eq := fun p f => map_eq_andThen f p
      pair_eq := pair_eq_andThen
      lift_value := lift_pure
      lift_sequence := lift_bind
      brackets := fun _ _ => Nesting.parser_eq_of_parts_eq }
  exact ⟨lawful, lawful Id, fun ε => lawful (Except ε), lawful Resumption⟩

/-- A letter, two suspensions, and another letter, with the brackets on the left. -/
def pausedLeft : Nesting Resumption Text LineColumn Char :=
  .join (.join (.one (item 'a')) (.one (lift (Resumption.suspend 2)))) (.one (item 'b'))

/-- The same three parsers with the brackets on the right. -/
def pausedRight : Nesting Resumption Text LineColumn Char :=
  .join (.one (item 'a')) (.join (.one (lift (Resumption.suspend 2))) (.one (item 'b')))

/-- Both are the same parser; where the last letter is missing it suspends two times, and fails
behind the first letter with the flag set. -/
theorem sequenceLaws_of_lawfulMonad_paused :
    pausedLeft.parser = pausedRight.parser ∧
      (pausedLeft.parser.parse 0 ⟨⟨['a', 'c']⟩, ⟨1, 1⟩, false⟩).run.complete =
        (2, some (.error ⟨expectedMessage (Quoted.quoted 'b'), ⟨1, 2⟩⟩
          ⟨⟨['c']⟩, ⟨1, 2⟩, true⟩)) := by
  have laws := (sequenceLaws_of_lawfulMonad (σ := Text) (π := LineColumn)).1 Resumption
  exact ⟨laws.brackets pausedLeft pausedRight rfl, rfl⟩

end Descent.Parser
