import Descent.Proofs.Host.Translation
import Descent.Proofs.Parser.Composition
import Descent.Proofs.Parser.Delivery

/-!
# Parsers that are built alike

Two parsers may be built in the same way and still differ: in the host that they run in, in the
kind of input that they read, in the positions and the messages that they report.  If their
leaves behave alike, so do they.  This file says once what it means that two parsers are built
alike, whatever it is that they may differ in, and that such parsers run alike: started on
states that are alike they end in replies that are alike, and the effects of the one run are
the translated effects of the other.

Main definitions:

- `Likeness`: what states and errors have in common in two runs.
- `Parser.Alike`: two parsers that are built in the same way from leaves that behave alike.
- `Parser.Simulates`: the runs of one parser follow those of another.

Main results:

- Theorems `Alike.map`, `Alike.choice`, `Alike.attempt` and others: the combinators that keep
  every likeness.
- Theorem `Alike.simulates`: parsers that are built alike run alike.
-/

namespace Descent

variable {m n : Type → Type} {σ σ' τ π π' α β γ ι : Type}

/-! ## Likenesses -/

/-- What two runs have in common: which states and which errors of the two count as alike.
States that are alike have the same flag, and the flag may be set in both; an error that both
make on the spot is alike. -/
structure Likeness (σ π σ' π' : Type) where
  state : State σ π → State σ' π' → Prop
  error : ParseError π → ParseError π' → Prop
  consumed_eq {s : State σ π} {s' : State σ' π'} (like : state s s') : s.consumed = s'.consumed
  withConsumed {s : State σ π} {s' : State σ' π'} (like : state s s') (consumed : Bool) :
    state (s.withConsumed consumed) (s'.withConsumed consumed)
  errorHere {s : State σ π} {s' : State σ' π'} (like : state s s') (message : String) :
    error ⟨message, s.position⟩ ⟨message, s'.position⟩

namespace Likeness

/-- Nothing may differ. -/
def same : Likeness σ π σ π where
  state := Eq
  error := Eq
  consumed_eq like := by rw [like]
  withConsumed like consumed := by rw [like]
  errorHere like message := by rw [like]

variable (L : Likeness σ π σ' π')

/-- Replies are alike when both give the same value or both an error, and end alike. -/
inductive Replies : Reply σ π α → Reply σ' π' α → Prop where
  | ok (value : α) {s : State σ π} {s' : State σ' π'} (like : L.state s s') :
      Replies (.ok value s) (.ok value s')
  | error {e : ParseError π} {e' : ParseError π'} {s : State σ π} {s' : State σ' π'}
      (about : L.error e e') (like : L.state s s') : Replies (.error e s) (.error e' s')

/-- Nothing differs in replies of which nothing may differ. -/
theorem replies_same_iff {r r' : Reply σ π α} :
    (same : Likeness σ π σ π).Replies r r' ↔ r = r' := by
  constructor
  · intro like
    cases like with
    | ok value like =>
        cases like
        rfl
    | error about like =>
        cases about
        cases like
        rfl
  · rintro rfl
    cases r with
    | ok value s => exact .ok value rfl
    | error e s => exact .error rfl rfl

variable {L}

/-- Whether something else may be tried is the same in replies that are alike. -/
theorem Replies.isRecoverable_eq {r : Reply σ π α} {r' : Reply σ' π' α}
    (like : L.Replies r r') : r.isRecoverable = r'.isRecoverable := by
  cases like with
  | ok value like => rfl
  | error about like => exact congrArg (!·) (L.consumed_eq like)

theorem Replies.errorHere {s : State σ π} {s' : State σ' π'} (like : L.state s s')
    (message : String) :
    L.Replies (.errorHere message s : Reply σ π α) (.errorHere message s') :=
  .error (L.errorHere like message) like

/-- The seeds of a repetition are alike: the same items, and states that are alike. -/
def Seeds (L : Likeness σ π σ' π') (seed : List α × State σ π) (seed' : List α × State σ' π') :
    Prop :=
  seed.1 = seed'.1 ∧ L.state seed.2 seed'.2

/-- A repetition makes alike decisions of rounds that are alike. -/
theorem Replies.nextRound {s : State σ π} {s' : State σ' π'} {r : Reply σ π α}
    {r' : Reply σ' π' α} (like : L.Replies r r') (entry : L.state s s') (items : List α) :
    Translation.FlowAlike L.Seeds L.Replies (r.nextRound items s) (r'.nextRound items s') := by
  cases like with
  | ok value like =>
      rename_i t t'
      have flags : t.consumed = t'.consumed := L.consumed_eq like
      cases flag : t'.consumed with
      | true =>
          rw [Reply.nextRound_ok_of_consumed items s value (flags.trans flag),
            Reply.nextRound_ok_of_consumed items s' value flag]
          exact .next ⟨rfl, like⟩
      | false =>
          rw [Reply.nextRound_ok_of_not_consumed items s value (flags.trans flag),
            Reply.nextRound_ok_of_not_consumed items s' value flag]
          exact .done (.errorHere like _)
  | error about like =>
      rename_i e e' t t'
      have flags : t.consumed = t'.consumed := L.consumed_eq like
      cases flag : t'.consumed with
      | true =>
          rw [Reply.nextRound_error_of_consumed items s e (flags.trans flag),
            Reply.nextRound_error_of_consumed items s' e' flag]
          exact .done (.error about like)
      | false =>
          rw [Reply.nextRound_error_of_not_consumed items s e (flags.trans flag),
            Reply.nextRound_error_of_not_consumed items s' e' flag]
          exact .done (.ok items.reverse entry)

end Likeness

namespace Parser

/-! ## Parsers built alike -/

/-- A relation between parsers in two hosts, whatever the type of their values. -/
abbrev ParserRelation (m n : Type → Type) (σ π σ' π' : Type) :=
  ∀ α : Type, Parser m σ π α → Parser n σ' π' α → Prop

/-- The pairs that are known, together with the pairs of rules that are being defined. -/
inductive PairedWith (known : ParserRelation m n σ π σ' π') (rules : ι → Parser m σ π γ)
    (rules' : ι → Parser n σ' π' γ) : ParserRelation m n σ π σ' π' where
  | known {α : Type} {p : Parser m σ π α} {q : Parser n σ' π' α} (h : known α p q) :
      PairedWith known rules rules' α p q
  | rule (i : ι) : PairedWith known rules rules' γ (rules i) (rules' i)

/-- What is related branch by branch is related as a choice. -/
theorem choice_related [Monad m] [Monad n] {R : Parser m σ π α → Parser n σ' π' α → Prop}
    (empty : R .empty .empty)
    (orElse : ∀ p₁ q₁ p₂ q₂, R p₁ q₁ → R p₂ q₂ → R (p₁.orElse p₂) (q₁.orElse q₂))
    {branches : List (Parser m σ π α × Parser n σ' π' α)} (each : ∀ b ∈ branches, R b.1 b.2) :
    R (.choice (branches.map Prod.fst)) (.choice (branches.map Prod.snd)) := by
  have fold : ∀ (rest : List (Parser m σ π α × Parser n σ' π' α)), (∀ b ∈ rest, R b.1 b.2) →
      ∀ p q, R p q → R ((rest.map Prod.fst).foldl Parser.orElse p)
        ((rest.map Prod.snd).foldl Parser.orElse q) := by
    intro rest
    induction rest with
    | nil =>
        intro _ p q first
        exact first
    | cons next rest ih =>
        intro each p q first
        have second : R next.1 next.2 := each next List.mem_cons_self
        have later : ∀ b ∈ rest, R b.1 b.2 := fun b hb => each b (List.mem_cons_of_mem next hb)
        exact ih later _ _ (orElse p q next.1 next.2 first second)
  cases branches with
  | nil => exact empty
  | cons first rest =>
      have later : ∀ b ∈ rest, R b.1 b.2 := fun b hb => each b (List.mem_cons_of_mem first hb)
      exact fold rest later first.1 first.2 (each first List.mem_cons_self)

section

variable [Host m] [Host n]

/-- Two parsers are built in the same way from known pairs, from leaves that only compute and
behave alike, and from host computations of which the second is the translation of the first.
Inside definitions the parsers that are being defined are a known pair. -/
inductive Alike (h : Translation m n) (L : Likeness σ π σ' π') :
    ParserRelation m n σ π σ' π' → ParserRelation m n σ π σ' π' where
  | known {known : ParserRelation m n σ π σ' π'} {α : Type} {p : Parser m σ π α}
      {q : Parser n σ' π' α} (given : known α p q) : Alike h L known α p q
  | compute {known : ParserRelation m n σ π σ' π'} {α : Type} {f : State σ π → Reply σ π α}
      {g : State σ' π' → Reply σ' π' α}
      (like : ∀ s s', L.state s s' → L.Replies (f s) (g s')) :
      Alike h L known α ⟨fun _ s => Pure.pure (f s)⟩ ⟨fun _ s => Pure.pure (g s)⟩
  | perform {known : ParserRelation m n σ π σ' π'} {α : Type} {c : Nat → OptionT m α}
      {d : Nat → OptionT n α} (image : ∀ fuel, d fuel = h.optional.apply (c fuel)) :
      Alike h L known α (.perform c) (.perform d)
  | revise {known : ParserRelation m n σ π σ' π'} {α β : Type} {p : Parser m σ π α}
      {q : Parser n σ' π' α} {change : State σ π → Reply σ π α → Reply σ π β}
      {change' : State σ' π' → Reply σ' π' α → Reply σ' π' β}
      (like : ∀ s s' r r', L.state s s' → L.Replies r r' → L.Replies (change s r) (change' s' r'))
      (inner : Alike h L known α p q) : Alike h L known β (p.revise change) (q.revise change')
  | andThen {known : ParserRelation m n σ π σ' π'} {α β : Type} {p : Parser m σ π α}
      {q : Parser n σ' π' α} {k : α → Parser m σ π β} {l : α → Parser n σ' π' β}
      (first : Alike h L known α p q) (second : ∀ a, Alike h L known β (k a) (l a)) :
      Alike h L known β (p.andThen k) (q.andThen l)
  | orElse {known : ParserRelation m n σ π σ' π'} {α : Type} {p₁ p₂ : Parser m σ π α}
      {q₁ q₂ : Parser n σ' π' α} (first : Alike h L known α p₁ q₁)
      (second : Alike h L known α p₂ q₂) :
      Alike h L known α (p₁.orElse p₂) (q₁.orElse q₂)
  | many {known : ParserRelation m n σ π σ' π'} {α : Type} {p : Parser m σ π α}
      {q : Parser n σ' π' α} (inner : Alike h L known α p q) :
      Alike h L known (List α) p.many q.many
  | recursive {known : ParserRelation m n σ π σ' π'} {α : Type}
      {define : Parser m σ π α → Parser m σ π α}
      {define' : Parser n σ' π' α → Parser n σ' π' α}
      (body : ∀ me me', Alike h L (PairedWith known (fun _ : Unit => me) fun _ => me') α
        (define me) (define' me')) :
      Alike h L known α (.recursive define) (.recursive define')
  | rules {known : ParserRelation m n σ π σ' π'} {ι α : Type}
      {define : (ι → Parser m σ π α) → ι → Parser m σ π α}
      {define' : (ι → Parser n σ' π' α) → ι → Parser n σ' π' α}
      (body : ∀ call call' i, Alike h L (PairedWith known call call') α (define call i)
        (define' call' i)) (i : ι) :
      Alike h L known α (.rules define i) (.rules define' i)

/-! ## Combinators that are the same in both -/

namespace Alike

variable {h : Translation m n} {L : Likeness σ π σ' π'} {known : ParserRelation m n σ π σ' π'}

theorem pure (value : α) : Alike h L known α (.pure value) (.pure value) :=
  .compute fun _ _ like => .ok value like

theorem fail (message : String) : Alike h L known α (.fail message) (.fail message) :=
  .compute fun _ _ like => .errorHere like message

theorem empty : Alike h L known α .empty .empty :=
  fail _

/-- A lifted computation is translated. -/
theorem lift (computation : m α) :
    Alike h L known α (.lift computation) (.lift (h.apply computation)) := by
  refine .perform fun _ => OptionT.ext ?_
  exact (h.apply_bind computation fun a => Pure.pure (some a)).trans
    (bind_congr fun a => h.apply_pure (some a)) |>.symm

theorem setConsumed (consumed : Bool) :
    Alike h L known Unit (.setConsumed consumed) (.setConsumed consumed) :=
  .compute fun _ _ like => .ok () (L.withConsumed like consumed)

variable {p : Parser m σ π α} {q : Parser n σ' π' α}

theorem map (f : α → β) (inner : Alike h L known α p q) :
    Alike h L known β (p.map f) (q.map f) := by
  refine .revise (fun s s' r r' _ like => ?_) inner
  cases like with
  | ok value like => exact .ok (f value) like
  | error about like => exact .error about like

theorem seqRight {p' : Parser m σ π β} {q' : Parser n σ' π' β} (first : Alike h L known α p q)
    (second : Alike h L known β p' q') : Alike h L known β (p.seqRight p') (q.seqRight q') :=
  .andThen first fun _ => second

theorem pair {p' : Parser m σ π β} {q' : Parser n σ' π' β} (first : Alike h L known α p q)
    (second : Alike h L known β p' q') : Alike h L known (α × β) (p.pair p') (q.pair q') := by
  rw [pair_eq_andThen, pair_eq_andThen]
  exact .andThen first fun a => map (a, ·) second

/-- Choices between parsers that are alike, one by one. -/
theorem choice {branches : List (Parser m σ π α × Parser n σ' π' α)}
    (each : ∀ b ∈ branches, Alike h L known α b.1 b.2) :
    Alike h L known α (.choice (branches.map Prod.fst)) (.choice (branches.map Prod.snd)) :=
  choice_related empty (fun _ _ _ _ first second => .orElse first second) each

theorem notFollowedBy (inner : Alike h L known α p q) :
    Alike h L known Unit p.notFollowedBy q.notFollowedBy := by
  refine .revise (fun s s' r r' entry like => ?_) inner
  cases like with
  | ok value like => exact .errorHere entry unexpectedMatchMessage
  | error about like => exact .ok () entry

/-- Both attempts put back the flag that they were entered with, which is the same. -/
theorem attempt (inner : Alike h L known α p q) : Alike h L known α p.attempt q.attempt := by
  refine .revise (fun s s' r r' entry like => ?_) inner
  cases like with
  | ok value like => exact .ok value like
  | error about like =>
      have back := L.withConsumed like s.consumed
      refine .error about ?_
      rwa [L.consumed_eq entry] at back ⊢

theorem lookAhead (inner : Alike h L known α p q) :
    Alike h L known α p.lookAhead q.lookAhead := by
  refine .revise (fun s s' r r' entry like => ?_) inner
  cases like with
  | ok value like => exact .ok value entry
  | error about like => exact .error about entry

/-- Filters, and the halves of partitions and separations, are selections. -/
theorem filterMap (decide : α → Option β) (message : String) (inner : Alike h L known α p q) :
    Alike h L known β (p.filterMap decide message) (q.filterMap decide message) := by
  refine .revise (fun s s' r r' entry like => ?_) inner
  cases like with
  | ok value like =>
      cases kept : decide value with
      | some b =>
          rw [Reply.select_ok_of_some _ _ _ kept, Reply.select_ok_of_some _ _ _ kept]
          exact .ok b like
      | none =>
          rw [Reply.select_ok_of_none _ _ _ kept, Reply.select_ok_of_none _ _ _ kept]
          exact .errorHere entry message
  | error about like => exact .error about like

theorem delay {build : Unit → Parser m σ π α} {build' : Unit → Parser n σ' π' α}
    (inner : Alike h L known α (build ()) (build' ())) :
    Alike h L known α (.delay build) (.delay build') :=
  inner

end Alike

/-! ## Parsers that run alike -/

/-- From states that are alike, the run of the second parser has the translated effects of the
run of the first, and a reply that is alike. -/
def Simulates (h : Translation m n) (L : Likeness σ π σ' π') : ParserRelation m n σ π σ' π' :=
  fun _ p q => ∀ (fuel : Nat) (s : State σ π) (s' : State σ' π'), L.state s s' →
    h.optional.Links L.Replies (p.parse fuel s) (q.parse fuel s')

variable [LawfulHost m] [LawfulHost n] {h : Translation m n} {L : Likeness σ π σ' π'}

namespace Simulates

theorem never : Simulates h L α .never .never :=
  fun _ _ _ _ => Translation.links_failure

omit [LawfulHost n] in
theorem compute {f : State σ π → Reply σ π α} {g : State σ' π' → Reply σ' π' α}
    (like : ∀ s s', L.state s s' → L.Replies (f s) (g s')) :
    Simulates h L α ⟨fun _ s => Pure.pure (f s)⟩ ⟨fun _ s => Pure.pure (g s)⟩ :=
  fun _ s s' entry => .pure (like s s' entry)

theorem perform {c : Nat → OptionT m α} {d : Nat → OptionT n α}
    (image : ∀ fuel, d fuel = h.optional.apply (c fuel)) :
    Simulates h L α (.perform c) (.perform d) := by
  intro fuel s s' entry
  have values : h.optional.Links Eq (c fuel) (d fuel) := by
    rw [image]
    exact Translation.links_apply (c fuel)
  refine values.map fun a b same => ?_
  rw [same]
  exact .ok b entry

theorem revise {p : Parser m σ π α} {q : Parser n σ' π' α}
    {change : State σ π → Reply σ π α → Reply σ π β}
    {change' : State σ' π' → Reply σ' π' α → Reply σ' π' β}
    (like : ∀ s s' r r', L.state s s' → L.Replies r r' → L.Replies (change s r) (change' s' r'))
    (inner : Simulates h L α p q) : Simulates h L β (p.revise change) (q.revise change') :=
  fun fuel s s' entry => (inner fuel s s' entry).map fun r r' => like s s' r r' entry

/-- A wrapper around the first parser alone, if it leaves replies alike. -/
theorem reviseLeft {p : Parser m σ π α} {q : Parser n σ' π' α}
    {change : State σ π → Reply σ π α → Reply σ π α}
    (like : ∀ s s' r r', L.state s s' → L.Replies r r' → L.Replies (change s r) r')
    (inner : Simulates h L α p q) : Simulates h L α (p.revise change) q := by
  intro fuel s s' entry
  have changed := (inner fuel s s' entry).map (g := id) fun r r' => like s s' r r' entry
  rwa [id_map] at changed

/-- A wrapper around the second parser alone, if it leaves replies alike. -/
theorem reviseRight {p : Parser m σ π α} {q : Parser n σ' π' α}
    {change : State σ' π' → Reply σ' π' α → Reply σ' π' α}
    (like : ∀ s s' r r', L.state s s' → L.Replies r r' → L.Replies r (change s' r'))
    (inner : Simulates h L α p q) : Simulates h L α p (q.revise change) := by
  intro fuel s s' entry
  have changed := (inner fuel s s' entry).map (f := id) fun r r' => like s s' r r' entry
  rwa [id_map] at changed

/-- The second parts of two sequences are chosen by the same value, and start alike. -/
theorem andThen {p : Parser m σ π α} {q : Parser n σ' π' α} {k : α → Parser m σ π β}
    {l : α → Parser n σ' π' β} (first : Simulates h L α p q)
    (second : ∀ a, Simulates h L β (k a) (l a)) : Simulates h L β (p.andThen k) (q.andThen l) := by
  intro fuel s s' entry
  refine (first fuel s s' entry).bind fun r r' like => ?_
  cases like with
  | ok value like => exact second value fuel _ _ like
  | error about like => exact .pure (.error about like)

/-- Two choices commit to their first branches together. -/
theorem orElse {p₁ p₂ : Parser m σ π α} {q₁ q₂ : Parser n σ' π' α}
    (first : Simulates h L α p₁ q₁) (second : Simulates h L α p₂ q₂) :
    Simulates h L α (p₁.orElse p₂) (q₁.orElse q₂) := by
  intro fuel s s' entry
  refine (first fuel _ _ (L.withConsumed entry false)).bind fun r r' like => ?_
  rw [like.isRecoverable_eq]
  split
  · exact second fuel s s' entry
  · exact .pure like

/-- Two repetitions go on, stop and fail together. -/
theorem many {p : Parser m σ π α} {q : Parser n σ' π' α} (inner : Simulates h L α p q) :
    Simulates h L (List α) p.many q.many := by
  intro fuel s s' entry
  refine Translation.Links.loop (R := L.Seeds) ?_ fuel ⟨rfl, entry⟩
  rintro ⟨items, t⟩ ⟨items', t'⟩ ⟨rfl, like⟩
  refine (inner fuel _ _ (L.withConsumed like false)).map fun r r' replies => ?_
  exact replies.nextRound like items

theorem recursive {define : Parser m σ π α → Parser m σ π α}
    {define' : Parser n σ' π' α → Parser n σ' π' α}
    (body : ∀ me me', Simulates h L α me me' → Simulates h L α (define me) (define' me')) :
    Simulates h L α (.recursive define) (.recursive define') := by
  have approximations : ∀ k, Simulates h L α (approx define k) (approx define' k) := by
    intro k
    induction k with
    | zero => exact never
    | succ k ih => exact body _ _ ih
  exact fun fuel => approximations fuel fuel

theorem rules {define : (ι → Parser m σ π α) → ι → Parser m σ π α}
    {define' : (ι → Parser n σ' π' α) → ι → Parser n σ' π' α}
    (body : ∀ call call', (∀ i, Simulates h L α (call i) (call' i)) →
      ∀ i, Simulates h L α (define call i) (define' call' i)) (i : ι) :
    Simulates h L α (.rules define i) (.rules define' i) := by
  have approximations :
      ∀ k i, Simulates h L α (approxRules define k i) (approxRules define' k i) := by
    intro k
    induction k with
    | zero => exact fun _ => never
    | succ k ih => exact body _ _ ih
  exact fun fuel => approximations fuel i fuel

end Simulates

omit [LawfulHost m] in
/-- In a host that settles at once, parsers that run alike end alike: both in the same failure of
the host, both without a reply, or with replies that are alike. -/
theorem Simulates.agree {ε : Type} [ImmediateHost m ε] {p : Parser m σ π α}
    {q : Parser m σ' π' α} (simulates : Simulates (.refl m) L α p q) (fuel : Nat)
    {s : State σ π} {s' : State σ' π'} (entry : L.state s s') :
    Outcome.Agree L.Replies (p.outcome fuel s) (q.outcome fuel s') := by
  rcases simulates fuel s s' entry with ⟨both, first, second⟩
  have same : (Translation.refl m).optional.apply ((fun r => r.1.2) <$> both) =
      (fun r => r.1.2) <$> both := rfl
  rw [same] at second
  rw [outcome, outcome, ← first, ← second, Host.outcome_map, Host.outcome_map]
  exact .map _ fun r => r.2

omit [LawfulHost m] [LawfulHost n] in
/-- Inside a definition the pairs that run alike are those that are known to and, when it has been
shown of them, the pairs of rules that are being defined. -/
theorem PairedWith.simulates {known : ParserRelation m n σ π σ' π'}
    {rules : ι → Parser m σ π γ} {rules' : ι → Parser n σ' π' γ}
    (given : ∀ β p q, known β p q → Simulates h L β p q)
    (pairs : ∀ i, Simulates h L γ (rules i) (rules' i)) (β : Type) (p : Parser m σ π β)
    (q : Parser n σ' π' β) (paired : PairedWith known rules rules' β p q) :
    Simulates h L β p q := by
  cases paired with
  | known paired => exact given β p q paired
  | rule i => exact pairs i

/-- Parsers that are built alike run alike. -/
theorem Alike.simulates {known : ParserRelation m n σ π σ' π'} {p : Parser m σ π α}
    {q : Parser n σ' π' α} (alike : Alike h L known α p q)
    (given : ∀ β p q, known β p q → Simulates h L β p q) : Simulates h L α p q := by
  induction alike with
  | known pair => exact given _ _ _ pair
  | compute like => exact .compute like
  | perform image => exact .perform image
  | revise like _ ih => exact (ih given).revise like
  | andThen _ _ ihp ihk => exact (ihp given).andThen fun a => ihk a given
  | orElse _ _ ihp ihq => exact (ihp given).orElse (ihq given)
  | many _ ih => exact (ih given).many
  | recursive _ ih =>
      refine .recursive fun me me' pair => ih me me' ?_
      exact PairedWith.simulates given fun _ => pair
  | rules _ i ih =>
      refine .rules (fun call call' pairs i => ih call call' i ?_) i
      exact PairedWith.simulates given pairs

end

end Parser

end Descent
