import Mathlib.Algebra.GroupWithZero.Nat
import Descent.Proofs.Parser.Likeness

/-!
# Grammars do not depend on their host

A grammar does nothing with its host but pass values along and loop.  So a run can be
translated to another host as a whole: it is what the same grammar does there, with its lifted
computations translated.  A grammar without effects does the same in every host.

Main definitions:

- `Parser.Translated`: the same grammar in two hosts.
- `Parser.Yields`: with enough fuel, a run is this computation of the host.

Main results:

- Theorem `Translated.run_eq`: for every fuel, the run in the one host is the translation of
  the run in the other.
- Theorem `yields_translated`: the runs that end, and those of grammars without effects.
-/

namespace Descent.Parser

variable {m n : Type → Type} {σ τ π α β γ : Type} [Host m] [Host n]

/-! ## The same grammar in two hosts -/

/-- The second parser is built as the first one is, in another host, and from the translations
of its host computations. -/
abbrev Translated (h : Translation m n) (p : Parser m σ π α) (q : Parser n σ π α) : Prop :=
  Alike h .same (fun _ _ _ => False) α p q

namespace Alike

variable {h : Translation m n} {known : ParserRelation m n σ π σ π}

/-- A parser that only computes is the same in every host. -/
theorem of_compute (f : State σ π → Reply σ π α) :
    Alike h .same known α ⟨fun _ s => Pure.pure (f s)⟩ ⟨fun _ s => Pure.pure (f s)⟩ :=
  .compute fun _ _ entry => Likeness.replies_same_iff.mpr (congrArg f entry)

/-- A wrapper is the same in every host. -/
theorem of_revise (change : State σ π → Reply σ π α → Reply σ π β) {p : Parser m σ π α}
    {q : Parser n σ π α} (inner : Alike h .same known α p q) :
    Alike h .same known β (p.revise change) (q.revise change) := by
  refine .revise (fun s s' r r' entry replies => ?_) inner
  cases entry
  cases Likeness.replies_same_iff.mp replies
  exact Likeness.replies_same_iff.mpr rfl

/-! ## What depends on the input, on the state or on errors -/

theorem failAt (message : String) (position : π) :
    Alike h .same known α (.failAt message position) (.failAt message position) :=
  of_compute _

theorem getState : Alike h .same known (State σ π) .getState .getState :=
  of_compute _

theorem putState (replacement : State σ π) :
    Alike h .same known Unit (.putState replacement) (.putState replacement) :=
  of_compute _

theorem position : Alike h .same known π .position .position :=
  of_compute _

theorem satisfy [Input σ τ π] (accept : τ → Bool) (expected : String) :
    Alike h .same known τ (.satisfy accept expected) (.satisfy accept expected) :=
  of_compute _

theorem item [Input σ τ π] [BEq τ] [Quoted τ] (wanted : τ) :
    Alike h .same known τ (.item wanted) (.item wanted) :=
  satisfy _ _

theorem eof [Input σ τ π] : Alike h .same known Unit .eof .eof :=
  of_compute _

theorem literal [Input σ τ π] [BEq τ] (items : List τ) (expected : String) :
    Alike h .same known Unit (.literal items expected) (.literal items expected) :=
  of_compute _

theorem string [Input σ Char π] (text : String) :
    Alike h .same known String (.string text) (.string text) :=
  map _ (literal _ _)

variable {p : Parser m σ π α} {q : Parser n σ π α}

theorem mapError (f : ParseError π → ParseError π) (inner : Alike h .same known α p q) :
    Alike h .same known α (p.mapError f) (q.mapError f) :=
  of_revise _ inner

theorem withMessage (message : String) (inner : Alike h .same known α p q) :
    Alike h .same known α (p.withMessage message) (q.withMessage message) :=
  mapError _ inner

theorem atStart (inner : Alike h .same known α p q) :
    Alike h .same known α p.atStart q.atStart :=
  of_revise _ inner

theorem withSpan (inner : Alike h .same known α p q) :
    Alike h .same known (α × Span π) p.withSpan q.withSpan :=
  of_revise _ inner

end Alike

/-! ## Runs in two hosts -/

/-- With enough fuel the run of a parser on a state is this computation of the host, and its
reply is never missing. -/
def Yields (p : Parser m σ π α) (s : State σ π) (x : m (Reply σ π α)) : Prop :=
  ∃ least, ∀ fuel, least ≤ fuel → (p.parse fuel s).run = some <$> x

/-- For every fuel, the run of the same grammar in another host is the translation of its
run. -/
theorem Translated.run_eq [LawfulHost m] [LawfulHost n] {h : Translation m n}
    {p : Parser m σ π α} {q : Parser n σ π α} (alike : p.Translated h q) (fuel : Nat)
    (s : State σ π) : (q.parse fuel s).run = h.apply (p.parse fuel s).run := by
  have simulates : Simulates h .same α p q := alike.simulates fun _ _ _ none => none.elim
  have linked : h.optional.Links Eq (p.parse fuel s) (q.parse fuel s) :=
    (simulates fuel s s rfl).imp fun _ _ => Likeness.replies_same_iff.mp
  exact congrArg OptionT.run linked.eq_apply

/-- A run that ends is translated to a run that ends. -/
theorem Translated.yields [LawfulHost m] [LawfulHost n] {h : Translation m n}
    {p : Parser m σ π α} {q : Parser n σ π α} (alike : p.Translated h q) {s : State σ π}
    {x : m (Reply σ π α)} (run : p.Yields s x) : q.Yields s (h.apply x) := by
  rcases run with ⟨least, enough⟩
  refine ⟨least, fun fuel more => ?_⟩
  rw [alike.run_eq, enough fuel more, Translation.apply_map]

/-- The run of a grammar in one host is, for every fuel, the translation of its run in another
host; so where the one ends the other does, in the translated computation.  A grammar without
effects that gives a reply without any host gives just this reply in every host: at once where
the host may fail, without suspensions where it may suspend, and as a value where all loops
are run by binding. -/
theorem yields_translated [LawfulHost m] [LawfulHost n] :
    (∀ (h : Translation m n) (p : Parser m σ π α) (q : Parser n σ π α), p.Translated h q →
      ∀ s, (∀ fuel, (q.parse fuel s).run = h.apply (p.parse fuel s).run) ∧
        ∀ x, p.Yields s x → q.Yields s (h.apply x)) ∧
    ∀ (p : Parser Id σ π α) (s : State σ π) (r : Reply σ π α), p.Yields s r →
      (∀ q : Parser n σ π α, p.Translated (.ofValues n) q → q.Yields s (Pure.pure r)) ∧
      (∀ (ε : Type) (q : Parser (Except ε) σ π α),
        p.Translated (.ofValues (Except ε)) q → q.Yields s (.ok r)) ∧
      (∀ q : Parser Resumption σ π α,
        p.Translated (.ofValues Resumption) q → q.Yields s (.ready r)) ∧
      ∀ q : Parser Option σ π α, p.Translated (.ofValues Option) q → q.Yields s (some r) := by
  refine ⟨fun h p q alike s => ⟨fun fuel => alike.run_eq fuel s, fun x => alike.yields⟩, ?_⟩
  intro p s r run
  exact ⟨fun q alike => alike.yields run, fun ε q alike => alike.yields run,
    fun q alike => alike.yields run, fun q alike => alike.yields run⟩

/-! ## A grammar in four hosts -/

/-- Takes each entry of a log for a number of suspensions. -/
def waiting : Translation (Logged Nat) Resumption where
  apply x := Resumption.suspend x.log.sum >>= fun _ => Pure.pure x.value
  apply_pure _ := rfl
  apply_bind x f := by
    rw [Logged.log_bind, Logged.value_bind, List.sum_append, Resumption.suspend_add_bind,
      bind_assoc]
    simp only [pure_bind]

/-- Letters, with a computation of the host after each of them. -/
def paced {m : Type → Type} [Host m] (pause : m Unit) : Parser m Text LineColumn (List Unit) :=
  ((item 'a').seqRight (lift pause)).many

theorem translated_paced {m n : Type → Type} [Host m] [Host n] (h : Translation m n)
    (pause : m Unit) : (paced pause).Translated h (paced (h.apply pause)) :=
  .many (.seqRight (.item 'a') (.lift pause))

/-- Two letters: the run that logs a number for each becomes the run that suspends as often,
and the run without a host is a value in the host that may be without one. -/
theorem yields_translated_paced :
    (paced (Logged.tell 2)).Yields ⟨⟨['a', 'a', 'b']⟩, ⟨1, 1⟩, false⟩
        ⟨[2, 2], .ok [(), ()] ⟨⟨['b']⟩, ⟨1, 3⟩, true⟩⟩ ∧
      (paced (waiting.apply (Logged.tell 2))).Yields ⟨⟨['a', 'a', 'b']⟩, ⟨1, 1⟩, false⟩
        (Resumption.suspend 4 >>= fun _ =>
          Pure.pure (.ok [(), ()] ⟨⟨['b']⟩, ⟨1, 3⟩, true⟩)) ∧
      (paced (some ())).Yields ⟨⟨['a', 'a', 'b']⟩, ⟨1, 1⟩, false⟩
        (some (.ok [(), ()] ⟨⟨['b']⟩, ⟨1, 3⟩, true⟩)) := by
  have logs : (paced (Logged.tell 2)).Yields ⟨⟨['a', 'a', 'b']⟩, ⟨1, 1⟩, false⟩
      ⟨[2, 2], .ok [(), ()] ⟨⟨['b']⟩, ⟨1, 3⟩, true⟩⟩ := by
    refine ⟨3, fun fuel more => ?_⟩
    obtain ⟨fuel, rfl⟩ := Nat.exists_eq_add_of_le' more
    rfl
  have plain : (paced (m := Id) ()).Yields ⟨⟨['a', 'a', 'b']⟩, ⟨1, 1⟩, false⟩
      (.ok [(), ()] ⟨⟨['b']⟩, ⟨1, 3⟩, true⟩) := by
    refine ⟨3, fun fuel more => ?_⟩
    obtain ⟨fuel, rfl⟩ := Nat.exists_eq_add_of_le' more
    rfl
  have translated := yields_translated (m := Logged Nat) (n := Resumption) (σ := Text)
    (π := LineColumn) (α := List Unit)
  refine ⟨logs, ?_, ?_⟩
  · exact (translated.1 waiting _ _ (translated_paced waiting (Logged.tell 2)) _).2 _ logs
  · exact (translated.2 _ _ _ plain).2.2.2 _ (translated_paced (.ofValues Option) ())

end Descent.Parser
