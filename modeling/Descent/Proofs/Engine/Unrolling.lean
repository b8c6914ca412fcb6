import Descent.Host.Resumption
import Descent.Parser.Access
import Descent.Parser.Recursion
import Descent.Parser.Repetition
import Descent.Parser.Token
import Descent.Proofs.Host.Iteration
import Descent.Proofs.Parser.Delivery

/-!
# Repetitions unrolled

A repetition could be defined without a loop: it is one more item and then the repetition
again, or else nothing.  This definition nests a choice for each item, and every choice looks
at the flag again on the way back; the loop keeps a list of items and a state, and looks at the
flag once in each round.  They are the same parser in every host, provided that a round never
succeeds without reading.

Main definitions:

- `Always`: every value of a computation has a property.
- `Parser.MarksFrom`, `Parser.NeverEmpty`: parsers that succeed only with the flag set.
- `Parser.oneMore`: one more item and then another parser, or else nothing.

Main results:

- Theorem `map_parse_oneMore`: one unrolling decides like one round.
- Theorem `many_eq_recursive`: the repetition is its recursive definition.
-/

namespace Descent

variable {m : Type → Type} {σ τ π α β ε : Type}

/-! ## What holds of every value of a computation -/

section Always

/-- Every value of a computation has the property: the computation may as well be one whose
values carry a proof of it. -/
def Always {f : Type → Type} [Functor f] (P : α → Prop) (x : f α) : Prop :=
  ∃ proved : f {a : α // P a}, Subtype.val <$> proved = x

variable {f : Type → Type} [Monad f] [LawfulMonad f] {P : α → Prop} {Q : β → Prop}

theorem Always.pure {a : α} (h : P a) : Always P (Pure.pure a : f α) :=
  ⟨Pure.pure ⟨a, h⟩, map_pure _ _⟩

/-- What holds of everything holds of every value. -/
theorem Always.of_forall (h : ∀ a, P a) (x : f α) : Always P x := by
  refine ⟨(fun a => ⟨a, h a⟩) <$> x, ?_⟩
  rw [Functor.map_map, id_map']

/-- Continuations that agree where the property holds continue the computation alike. -/
theorem Always.bind_eq {x : f α} (h : Always P x) {k l : α → f β}
    (agree : ∀ a, P a → k a = l a) : x >>= k = x >>= l := by
  rcases h with ⟨proved, rfl⟩
  rw [bind_map_left, bind_map_left]
  exact bind_congr fun a => agree a.1 a.2

/-- What holds of the values of a continuation, for all values of the first part. -/
theorem Always.bind {x : f α} (h : Always P x) {k : α → f β}
    (next : ∀ a, P a → Always Q (k a)) : Always Q (x >>= k) := by
  rcases h with ⟨proved, rfl⟩
  refine ⟨proved >>= fun a => (next a.1 a.2).choose, ?_⟩
  rw [map_bind, bind_map_left]
  exact bind_congr fun a => (next a.1 a.2).choose_spec

theorem Always.map {x : f α} (h : Always P x) {g : α → β} (keep : ∀ a, P a → Q (g a)) :
    Always Q (g <$> x) := by
  rw [map_eq_pure_bind]
  exact h.bind fun a ha => .pure (keep a ha)

/-- Without fuel there is no value. -/
theorem always_failure [Monad m] [LawfulMonad m] : Always P (failure : OptionT m α) :=
  ⟨failure, Host.map_failure _⟩

/-- In a host that may fail, the values of a computation are what it delivers. -/
theorem always_iff_delivered {x : OptionT (Except ε) α} :
    Always P x ↔ ∀ a, Host.outcome x = .delivered a → P a := by
  constructor
  · rintro ⟨proved, rfl⟩ a delivered
    rw [Host.outcome_map, Outcome.map_eq_delivered] at delivered
    rcases delivered with ⟨a, -, rfl⟩
    exact a.2
  · intro h
    rcases run : x.run with failure | _ | a
    · exact ⟨OptionT.mk (.error failure), OptionT.ext run.symm⟩
    · exact ⟨OptionT.mk (.ok none), OptionT.ext run.symm⟩
    · have delivered : Host.outcome x = .delivered a := congrArg Outcome.ofExcept run
      exact ⟨OptionT.mk (.ok (some ⟨a, h a delivered⟩)), OptionT.ext run.symm⟩

end Always

namespace Parser

/-! ## Parsers that succeed only with the flag set -/

section NeverEmpty

variable [Monad m]

/-- Entered with this flag, the parser never succeeds with the flag clear. -/
def MarksFrom (entry : Bool) (p : Parser m σ π α) : Prop :=
  ∀ fuel s, s.consumed = entry →
    Always (fun r => ∀ a t, r = Reply.ok a t → t.consumed = true) (p.parse fuel s)

/-- Entered with the flag clear, the parser never succeeds with the flag still clear. -/
abbrev NeverEmpty (p : Parser m σ π α) : Prop :=
  p.MarksFrom false

variable [LawfulMonad m]

theorem MarksFrom.satisfy [Input σ τ π] (entry : Bool) (accept : τ → Bool)
    (expected : String) : (satisfy accept expected : Parser m σ π τ).MarksFrom entry := by
  intro fuel s _
  refine .pure fun a t reply => ?_
  split at reply
  · rename_i x rest hnext
    split at reply
    · rcases Reply.ok_inj.mp reply with ⟨-, rfl⟩
      exact State.consumed_of_next? hnext
    · cases reply
  · cases reply

theorem MarksFrom.lift (computation : m α) :
    (lift computation : Parser m σ π α).MarksFrom true := by
  intro fuel s flag
  refine Always.map (.of_forall (fun _ => trivial) _) fun a _ b t reply => ?_
  rcases Reply.ok_inj.mp reply with ⟨-, rfl⟩
  exact flag

/-- What follows a parser that sets the flag has to keep it set. -/
theorem MarksFrom.andThen {entry : Bool} {p : Parser m σ π α} {k : α → Parser m σ π β}
    (hp : p.MarksFrom entry) (hk : ∀ a, (k a).MarksFrom true) :
    (p.andThen k).MarksFrom entry := by
  intro fuel s flag
  refine (hp fuel s flag).bind fun r marked => ?_
  cases r with
  | ok a t => exact hk a fuel t (marked a t rfl)
  | error e t =>
      refine .pure fun a u reply => ?_
      cases reply

end NeverEmpty

/-- In a host that may fail, the replies that are delivered decide whether a parser is never
empty. -/
theorem neverEmpty_iff_delivers {p : Parser (Except ε) σ π α} :
    p.NeverEmpty ↔ ∀ fuel s a t, s.consumed = false → p.Delivers fuel s (.ok a t) →
      t.consumed = true := by
  constructor
  · intro hp fuel s a t flag delivers
    exact always_iff_delivered.mp (hp fuel s flag) _ delivers a t rfl
  · intro h fuel s flag
    refine always_iff_delivered.mpr fun r delivers a t reply => ?_
    exact h fuel s a t flag (reply ▸ delivers)

/-! ## One unrolling -/

section Unrolling

variable [Monad m] [LawfulMonad m]

/-- One more item and then another parser for the items after it, or else nothing. -/
def oneMore (p : Parser m σ π α) (me : Parser m σ π (List α)) : Parser m σ π (List α) :=
  (p.andThen fun a => me.map (a :: ·)).orElse (pure [])

/-- A choice that may end in nothing never fails without reading. -/
theorem always_not_recoverable_orElse_pure (p : Parser m σ π α) (value : α) (fuel : Nat)
    (s : State σ π) :
    Always (fun r => r.isRecoverable = false) ((p.orElse (pure value)).parse fuel s) := by
  rw [parse_orElse]
  refine (Always.of_forall (fun _ => trivial) _).bind fun r _ => ?_
  cases recoverable : r.isRecoverable with
  | true => exact .pure rfl
  | false => exact .pure recoverable

/-- So neither do the approximations of a repetition. -/
theorem always_not_recoverable_approx (p : Parser m σ π α) (n fuel : Nat) (s : State σ π) :
    Always (fun r => r.isRecoverable = false) ((approx p.oneMore n).parse fuel s) := by
  cases n with
  | zero => exact always_failure
  | succ n => exact always_not_recoverable_orElse_pure _ [] fuel s

/-- An unrolling binds the choice to one more item and what follows it. -/
theorem parse_oneMore (p : Parser m σ π α) (me : Parser m σ π (List α)) (fuel : Nat)
    (s : State σ π) :
    (p.oneMore me).parse fuel s =
      p.parse fuel (s.withConsumed false) >>= fun r =>
        (match r.result with
          | .ok a => Reply.map (a :: ·) <$> me.parse fuel r.state
          | .error e => Pure.pure (.error e r.state)) >>= fun reply =>
        if reply.isRecoverable then Pure.pure (.ok [] s) else Pure.pure reply :=
  bind_assoc _ _ _

/-- Behind some items, one unrolling decides like one round: the parser is run with the flag
cleared, a reply that ends the repetition ends it, and otherwise the next item joins those
before it. -/
theorem map_parse_oneMore {p : Parser m σ π α} (hp : p.NeverEmpty)
    {me : Parser m σ π (List α)}
    (final : ∀ fuel s, Always (fun r => r.isRecoverable = false) (me.parse fuel s)) (fuel : Nat)
    (items : List α) (s : State σ π) :
    Reply.map (items.reverse ++ ·) <$> (p.oneMore me).parse fuel s =
      p.parse fuel (s.withConsumed false) >>= fun r =>
        match r.nextRound items s with
        | .next (items, t) => Reply.map (items.reverse ++ ·) <$> me.parse fuel t
        | .done reply => Pure.pure reply := by
  rw [parse_oneMore, map_bind]
  -- Only a success with the flag clear would tell the two apart: the loop rejects it, and the
  -- definition would be unfolded once more.
  refine (hp fuel _ rfl).bind_eq fun r marked => ?_
  cases r with
  | ok a t =>
      rw [Reply.nextRound_ok_of_consumed items s a (marked a t rfl)]
      dsimp only [Reply.result_ok, Reply.state_ok]
      rw [bind_map_left, map_bind, map_eq_pure_bind]
      -- On the way back the enclosing choice sees a reply that is final already.
      refine (final fuel t).bind_eq fun rest unrecoverable => ?_
      rw [Reply.isRecoverable_map, unrecoverable, if_neg Bool.false_ne_true, map_pure,
        Reply.map_map]
      refine congrArg (fun join => Pure.pure (rest.map join)) (funext fun later => ?_)
      rw [List.reverse_cons, List.append_assoc]
      rfl
  | error e t =>
      cases flag : t.consumed with
      | true =>
          rw [Reply.nextRound_error_of_consumed items s e flag]
          simp [flag]
      | false =>
          rw [Reply.nextRound_error_of_not_consumed items s e flag]
          simp [flag]

end Unrolling

/-! ## The whole repetition -/

/-- Behind some items, a loop of a number of rounds is as many unrollings. -/
theorem loop_round_eq [Host m] [LawfulHost m] {p : Parser m σ π α} (hp : p.NeverEmpty)
    (fuel rounds : Nat) (items : List α) (s : State σ π) :
    Host.loop rounds (p.round fuel) (items, s) =
      Reply.map (items.reverse ++ ·) <$> (approx p.oneMore rounds).parse fuel s := by
  induction rounds generalizing items s with
  | zero =>
      rw [Host.loop_zero, approx_zero, parse_never, Host.map_failure]
  | succ rounds ih =>
      rw [approx_succ, map_parse_oneMore hp (always_not_recoverable_approx p rounds),
        Host.loop_succ, round, bind_map_left]
      refine bind_congr fun r => ?_
      cases r.nextRound items s with
      | next seed => exact ih seed.1 seed.2
      | done reply => rfl

/-- In every host that loops by binding, the repetition of a parser that never succeeds without
reading is its recursive definition: one more item and then the repetition, or else nothing.
The runs of the two are the same computation, for every fuel and from every state. -/
theorem many_eq_recursive [Host m] [LawfulHost m] {p : Parser m σ π α} (hp : p.NeverEmpty) :
    p.many = recursive fun me => (p.andThen fun a => me.map (a :: ·)).orElse (pure []) := by
  ext fuel s
  have whole : (Reply.map ([].reverse ++ ·) : Reply σ π (List α) → Reply σ π (List α)) = id :=
    funext Reply.map_id
  have unrolled := loop_round_eq hp fuel fuel [] s
  rw [whole, id_map] at unrolled
  exact unrolled

/-- Two letters, with a computation of the host between them. -/
def spacedPair [Monad m] (pause : m Unit) : Parser m Text LineColumn Char :=
  (item 'a').seqRight ((lift pause).seqRight (item 'b'))

theorem neverEmpty_spacedPair [Monad m] [LawfulMonad m] (pause : m Unit) :
    (spacedPair pause).NeverEmpty := by
  refine .andThen (.satisfy false _ _) fun _ => ?_
  exact .andThen (.lift pause) fun _ => .satisfy true _ _

/-- Two pairs, and a third one that fails behind its first letter: its failure is that of the
loop and, through the three choices of the nest, that of the recursive definition, in both after
three suspensions. -/
theorem many_eq_recursive_spacedPair :
    (spacedPair (Resumption.suspend 1)).NeverEmpty ∧
      (spacedPair (Resumption.suspend 1)).many = recursive (fun me =>
        ((spacedPair (Resumption.suspend 1)).andThen fun a => me.map (a :: ·)).orElse (pure [])) ∧
      ((spacedPair (Resumption.suspend 1)).many.parse 5
          ⟨⟨['a', 'b', 'a', 'b', 'a', 'c']⟩, ⟨1, 1⟩, false⟩).run =
        Resumption.suspend 3 >>= fun _ => Pure.pure (some (.error
          ⟨expectedMessage (Quoted.quoted 'b'), ⟨1, 6⟩⟩ ⟨⟨['c']⟩, ⟨1, 6⟩, true⟩)) := by
  have neverEmpty := neverEmpty_spacedPair (Resumption.suspend 1)
  exact ⟨neverEmpty, many_eq_recursive neverEmpty, rfl⟩

end Parser

end Descent
