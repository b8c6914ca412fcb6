import Descent.Proofs.Parser.Composition
import Descent.Proofs.Parser.Rounds

/-!
# More fuel

A run that ends does not depend on the fuel that is left over, and a parser that ends more often
may take the place of another one.  Both are one comparison: whatever reply the one parser gives
with its fuel, the other one gives with its own.  Each construct keeps this comparison, so it can
be followed through every parser.

Main definitions:

- `Parser.Extends`: the replies of a run with some fuel are those of another with other fuel.
- `Parser.Steady`: more fuel never changes a reply.
- `Parser.Ends`: the reply of every run with enough fuel.
- `Parser.EndAlike`: two parsers end in the same reply.

Main results:

- Theorems `Extends.andThen`, `Extends.many`, `Extends.rules` and others: all constructs.
- Theorem `Steady.ends`: for a steady parser one run that ends is enough.
-/

namespace Descent.Parser

variable {m : Type → Type} {σ τ π α β ι ε : Type} [Host m] [ImmediateHost m ε]

/-! ## Comparing runs -/

/-- Where the first parser with its fuel gives a reply, the second one with its own fuel gives the
same reply. -/
def Extends (p q : Parser m σ π α) (fuel fuel' : Nat) : Prop :=
  ∀ s r, p.Delivers fuel s r → q.Delivers fuel' s r

namespace Extends

variable {p p' q q' : Parser m σ π α} {fuel fuel' : Nat}

/-- The parser without a reply can be replaced by any other. -/
theorem never (q : Parser m σ π α) (fuel fuel' : Nat) : Extends .never q fuel fuel' := by
  intro s r none
  exact (not_delivers_never none).elim

/-- What a parser computes does not take fuel. -/
theorem compute (f : State σ π → Reply σ π α) (fuel fuel' : Nat) :
    Extends (⟨fun _ s => Pure.pure (f s)⟩ : Parser m σ π α) ⟨fun _ s => Pure.pure (f s)⟩
      fuel fuel' := by
  intro s r h
  exact delivers_compute.mpr (delivers_compute.mp h)

theorem lift (computation : m α) (fuel fuel' : Nat) :
    Extends (lift computation : Parser m σ π α) (.lift computation) fuel fuel' := by
  intro s r h
  exact delivers_lift.mpr (delivers_lift.mp h)

theorem revise (h : Extends p q fuel fuel') (change : State σ π → Reply σ π α → Reply σ π β) :
    Extends (p.revise change) (q.revise change) fuel fuel' := by
  intro s r hr
  rcases delivers_revise.mp hr with ⟨r', delivers, changed⟩
  exact delivers_revise.mpr ⟨r', h s r' delivers, changed⟩

theorem andThen {k l : α → Parser m σ π β} (first : Extends p q fuel fuel')
    (second : ∀ a, Extends (k a) (l a) fuel fuel') :
    Extends (p.andThen k) (q.andThen l) fuel fuel' := by
  intro s r h
  rcases delivers_andThen.mp h with ⟨a, t, hp, hk⟩ | ⟨e, t, hp, same⟩
  · exact delivers_andThen.mpr (.inl ⟨a, t, first s _ hp, second a t r hk⟩)
  · exact delivers_andThen.mpr (.inr ⟨e, t, first s _ hp, same⟩)

theorem orElse (first : Extends p q fuel fuel') (second : Extends p' q' fuel fuel') :
    Extends (p.orElse p') (q.orElse q') fuel fuel' := by
  intro s r h
  rcases delivers_orElse.mp h with
    ⟨a, t, hp, same⟩ | ⟨e, t, hp, consumed, same⟩ | ⟨e, t, hp, clear, hp'⟩
  · exact delivers_orElse.mpr (.inl ⟨a, t, first _ _ hp, same⟩)
  · exact delivers_orElse.mpr (.inr (.inl ⟨e, t, first _ _ hp, consumed, same⟩))
  · exact delivers_orElse.mpr (.inr (.inr ⟨e, t, first _ _ hp, clear, second s r hp'⟩))

/-- The fuel also bounds the rounds of a repetition. -/
theorem many (more : fuel ≤ fuel') (h : Extends p q fuel fuel') :
    Extends p.many q.many fuel fuel' := by
  intro s r ends
  rw [Delivers, outcome_many] at ends ⊢
  refine Outcome.loop_mono (fun seed flow round => ?_) more ends
  rw [outcome_round, Outcome.map_eq_delivered] at round ⊢
  rcases round with ⟨reply, delivers, decision⟩
  exact ⟨reply, h _ reply delivers, decision⟩

/-- Deeper approximations of a definition end more often. -/
theorem approx {define define' : Parser m σ π α → Parser m σ π α}
    (body : ∀ me me', Extends me me' fuel fuel' → Extends (define me) (define' me') fuel fuel')
    {depth depth' : Nat} (deeper : depth ≤ depth') :
    Extends (Parser.approx define depth) (Parser.approx define' depth') fuel fuel' := by
  induction depth generalizing depth' with
  | zero => exact never _ fuel fuel'
  | succ depth ih =>
      obtain ⟨depth', rfl⟩ := Nat.exists_eq_add_of_le' (Nat.one_le_of_lt deeper)
      exact body _ _ (ih (Nat.le_of_succ_le_succ deeper))

/-- The fuel also bounds how often a definition is unfolded. -/
theorem rules {define define' : (ι → Parser m σ π α) → ι → Parser m σ π α}
    (more : fuel ≤ fuel')
    (body : ∀ call call', (∀ i, Extends (call i) (call' i) fuel fuel') →
      ∀ i, Extends (define call i) (define' call' i) fuel fuel') (i : ι) :
    Extends (.rules define i) (.rules define' i) fuel fuel' := by
  have approximations : ∀ depth depth', depth ≤ depth' → ∀ i,
      Extends (approxRules define depth i) (approxRules define' depth' i) fuel fuel' := by
    intro depth
    induction depth with
    | zero =>
        intro depth' _ i
        exact never _ fuel fuel'
    | succ depth ih =>
        intro depth' deeper
        obtain ⟨depth', rfl⟩ := Nat.exists_eq_add_of_le' (Nat.one_le_of_lt deeper)
        exact body _ _ (ih depth' (Nat.le_of_succ_le_succ deeper))
  exact approximations fuel fuel' more i

end Extends

/-! ## Parsers that end -/

/-- A parser that gives the same reply with more fuel. -/
def Steady (p : Parser m σ π α) : Prop :=
  ∀ fuel fuel', fuel ≤ fuel' → Extends p p fuel fuel'

/-- With enough fuel every run of the parser on the state ends in this reply. -/
def Ends (p : Parser m σ π α) (s : State σ π) (r : Reply σ π α) : Prop :=
  ∃ least, ∀ fuel, least ≤ fuel → p.Delivers fuel s r

/-- The parser without a reply is steady: there is no reply to lose. -/
theorem steady_never : (never : Parser m σ π α).Steady :=
  fun fuel fuel' _ => .never _ fuel fuel'

/-- A steady parser that has ended once ends so with all the fuel that is more. -/
theorem Steady.ends {p : Parser m σ π α} (h : p.Steady) {fuel : Nat} {s : State σ π}
    {r : Reply σ π α} (delivers : p.Delivers fuel s r) : p.Ends s r :=
  ⟨fuel, fun fuel' more => h fuel fuel' more s r delivers⟩

namespace Ends

variable {p p' : Parser m σ π α} {k : α → Parser m σ π β} {s t : State σ π}

theorem exists_delivers {r : Reply σ π α} (h : p.Ends s r) : ∃ fuel, p.Delivers fuel s r := by
  rcases h with ⟨least, enough⟩
  exact ⟨least, enough least (Nat.le_refl least)⟩

/-- There is enough fuel for two runs. -/
theorem both {q : Parser m σ π β} {r : Reply σ π α} {r' : Reply σ π β} (h : p.Ends s r)
    (h' : q.Ends t r') :
    ∃ least, ∀ fuel, least ≤ fuel → p.Delivers fuel s r ∧ q.Delivers fuel t r' := by
  rcases h with ⟨least, first⟩
  rcases h' with ⟨least', second⟩
  refine ⟨max least least', fun fuel enough => ⟨first fuel ?_, second fuel ?_⟩⟩
  · exact Nat.le_trans (Nat.le_max_left _ _) enough
  · exact Nat.le_trans (Nat.le_max_right _ _) enough

/-- Runs with enough fuel have one reply. -/
theorem unique {r r' : Reply σ π α} (h : p.Ends s r) (h' : p.Ends s r') : r = r' := by
  rcases h.both h' with ⟨least, enough⟩
  rcases enough least (Nat.le_refl least) with ⟨run, run'⟩
  exact run.unique run'

theorem compute (f : State σ π → Reply σ π α) (s : State σ π) :
    (⟨fun _ s => Pure.pure (f s)⟩ : Parser m σ π α).Ends s (f s) :=
  ⟨0, fun _ _ => delivers_compute.mpr rfl⟩

theorem revise {r : Reply σ π α} (h : p.Ends s r)
    (change : State σ π → Reply σ π α → Reply σ π β) : (p.revise change).Ends s (change s r) := by
  rcases h with ⟨least, enough⟩
  exact ⟨least, fun fuel more => delivers_revise.mpr ⟨r, enough fuel more, rfl⟩⟩

theorem andThen {a : α} {r : Reply σ π β} (first : p.Ends s (.ok a t)) (second : (k a).Ends t r) :
    (p.andThen k).Ends s r := by
  rcases first.both second with ⟨least, enough⟩
  refine ⟨least, fun fuel more => ?_⟩
  rcases enough fuel more with ⟨run, run'⟩
  exact delivers_andThen.mpr (.inl ⟨a, t, run, run'⟩)

theorem andThen_of_error {e : ParseError π} (first : p.Ends s (.error e t)) :
    (p.andThen k).Ends s (.error e t) := by
  rcases first with ⟨least, enough⟩
  exact ⟨least, fun fuel more => delivers_andThen.mpr (.inr ⟨e, t, enough fuel more, rfl⟩)⟩

/-- A choice keeps what its first branch has committed to. -/
theorem orElse_of_kept {r : Reply σ π α} (first : p.Ends (s.withConsumed false) r)
    (kept : r.isRecoverable = false) : (p.orElse p').Ends s r := by
  rcases first with ⟨least, enough⟩
  refine ⟨least, fun fuel more => ?_⟩
  have run : p.outcome fuel (s.withConsumed false) = .delivered r := enough fuel more
  rw [Delivers, outcome_orElse, run, Outcome.delivered_bind, kept]
  rfl

theorem orElse_of_recoverable {r r' : Reply σ π α} (first : p.Ends (s.withConsumed false) r)
    (recoverable : r.isRecoverable = true) (second : p'.Ends s r') : (p.orElse p').Ends s r' := by
  rcases first.both second with ⟨least, enough⟩
  refine ⟨least, fun fuel more => ?_⟩
  have run : p.outcome fuel (s.withConsumed false) = .delivered r := (enough fuel more).1
  rw [Delivers, outcome_orElse, run, Outcome.delivered_bind, recoverable]
  exact (enough fuel more).2

end Ends

/-! ## Parsers that end alike -/

/-- Both parsers end on the state, and in the same reply. -/
def EndAlike (p q : Parser m σ π α) (s : State σ π) : Prop :=
  ∃ r, p.Ends s r ∧ q.Ends s r

namespace EndAlike

variable {p p' q q' : Parser m σ π α} {s : State σ π}

/-- A parser that only computes ends on every state. -/
theorem compute (f : State σ π → Reply σ π α) (s : State σ π) :
    EndAlike (⟨fun _ s => Pure.pure (f s)⟩ : Parser m σ π α) ⟨fun _ s => Pure.pure (f s)⟩ s :=
  ⟨f s, .compute f s, .compute f s⟩

theorem revise (h : EndAlike p q s) (change : State σ π → Reply σ π α → Reply σ π β) :
    EndAlike (p.revise change) (q.revise change) s := by
  rcases h with ⟨r, first, second⟩
  exact ⟨change s r, first.revise change, second.revise change⟩

/-- The second parts have to end alike where the first part leads. -/
theorem andThen {k l : α → Parser m σ π β} (first : EndAlike p q s)
    (second : ∀ a t, p.Ends s (.ok a t) → EndAlike (k a) (l a) t) :
    EndAlike (p.andThen k) (q.andThen l) s := by
  rcases first with ⟨r, hp, hq⟩
  cases r with
  | ok a t =>
      rcases second a t hp with ⟨r, hk, hl⟩
      exact ⟨r, hp.andThen hk, hq.andThen hl⟩
  | error e t => exact ⟨.error e t, hp.andThen_of_error, hq.andThen_of_error⟩

theorem orElse (first : EndAlike p q (s.withConsumed false)) (second : EndAlike p' q' s) :
    EndAlike (p.orElse p') (q.orElse q') s := by
  rcases first with ⟨r, hp, hq⟩
  cases recoverable : r.isRecoverable with
  | true =>
      rcases second with ⟨r', hp', hq'⟩
      exact ⟨r', hp.orElse_of_recoverable recoverable hp', hq.orElse_of_recoverable recoverable hq'⟩
  | false => exact ⟨r, hp.orElse_of_kept recoverable, hq.orElse_of_kept recoverable⟩

end EndAlike

end Descent.Parser
