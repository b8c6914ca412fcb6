import Descent.Host.Logged
import Descent.Proofs.Parser.Likeness

/-!
# What errors say decides nothing

An error is a message and a position, for whoever reads it in the end.  Parsing never looks at
either: whether another branch is tried, whether a repetition goes on and what a look-ahead makes
of its parser is decided by success and failure and by the flag.  So the errors of a grammar can be
reworded anywhere, also deep inside branches whose failures are caught, and apart from the errors
it does the same.

Main definitions:

- `Reply.verdict`: what a reply says apart from its error.
- `Likeness.unworded`: two runs that may differ in their errors, and in nothing else.
- `Parser.Reworded`: the same grammar with other messages, other error positions, and error mappers
  put in or left out anywhere.
- `Parser.Concludes`: with enough fuel, a run ends with this verdict.

Main results:

- Theorem `RewordedIn.simulates`: reworded grammars run alike.
- Theorem `verdict_eq_of_reworded`: their runs are the same computation but for the errors.
-/

namespace Descent

variable {m : Type → Type} {σ τ π α β ι : Type}

/-! ## Replies without their errors -/

/-- What a reply says apart from its error: the value, if there is one, and the state. -/
def Reply.verdict (reply : Reply σ π α) : Option α × State σ π :=
  (reply.result.toOption, reply.state)

@[simp]
theorem Reply.verdict_ok (a : α) (s : State σ π) : (ok a s).verdict = (some a, s) :=
  rfl

@[simp]
theorem Reply.verdict_error (e : ParseError π) (s : State σ π) :
    (error e s : Reply σ π α).verdict = (none, s) :=
  rfl

@[simp]
theorem Reply.verdict_errorHere (message : String) (s : State σ π) :
    (errorHere message s : Reply σ π α).verdict = (none, s) :=
  rfl

/-- Another error does not change the verdict. -/
@[simp]
theorem Reply.verdict_mapError (f : ParseError π → ParseError π) (reply : Reply σ π α) :
    (reply.mapError f).verdict = reply.verdict := by
  cases reply with
  | ok a s => rfl
  | error e s => rfl

namespace Likeness

/-- The two runs are in the same state, and may fail with any errors. -/
def unworded : Likeness σ π σ π :=
  { same with
    error := fun _ _ => True
    errorHere := fun _ _ => trivial }

theorem unworded_state_iff {s t : State σ π} :
    (unworded : Likeness σ π σ π).state s t ↔ s = t :=
  Iff.rfl

/-- Replies that differ in their errors at most have the same verdict, and only those do. -/
theorem replies_unworded_iff {r r' : Reply σ π α} :
    (unworded : Likeness σ π σ π).Replies r r' ↔ r.verdict = r'.verdict := by
  constructor
  · intro like
    cases like with
    | ok value like => simp [unworded_state_iff.mp like]
    | error about like => simp [unworded_state_iff.mp like]
  · intro same
    cases r with
    | ok a s =>
        cases r' with
        | ok b t =>
            simp only [Reply.verdict_ok, Prod.mk.injEq, Option.some.injEq] at same
            rcases same with ⟨rfl, rfl⟩
            exact .ok a rfl
        | error e t => simp at same
    | error e s =>
        cases r' with
        | ok b t => simp at same
        | error f t =>
            simp only [Reply.verdict_error, Prod.mk.injEq, true_and] at same
            rcases same with rfl
            exact .error trivial rfl

end Likeness

namespace Parser

/-! ## Reworded grammars -/

section

variable [Host m] [Input σ τ π]

/-- The second parser is built as the first one is, from the same predicates, mappers and
continuations and with the same computations of the host; but what its leaves and selections say
when they fail may be something else, and so may the positions that are given to `failAt`, and
either parser may have mappers of errors where the other has none. -/
inductive RewordedIn : ParserRelation m m σ π σ π → ParserRelation m m σ π σ π where
  | known {known : ParserRelation m m σ π σ π} {α : Type} {p q : Parser m σ π α}
      (given : known α p q) : RewordedIn known α p q
  | pure {known : ParserRelation m m σ π σ π} {α : Type} (value : α) :
      RewordedIn known α (.pure value) (.pure value)
  | fail {known : ParserRelation m m σ π σ π} {α : Type} (message message' : String) :
      RewordedIn known α (.fail message) (.fail message')
  | failAt {known : ParserRelation m m σ π σ π} {α : Type} (message message' : String)
      (position position' : π) :
      RewordedIn known α (.failAt message position) (.failAt message' position')
  | perform {known : ParserRelation m m σ π σ π} {α : Type}
      (computation : Nat → OptionT m α) :
      RewordedIn known α (.perform computation) (.perform computation)
  | getState {known : ParserRelation m m σ π σ π} :
      RewordedIn known (State σ π) .getState .getState
  | putState {known : ParserRelation m m σ π σ π} (replacement : State σ π) :
      RewordedIn known Unit (.putState replacement) (.putState replacement)
  | position {known : ParserRelation m m σ π σ π} : RewordedIn known π .position .position
  | setConsumed {known : ParserRelation m m σ π σ π} (consumed : Bool) :
      RewordedIn known Unit (.setConsumed consumed) (.setConsumed consumed)
  | satisfy {known : ParserRelation m m σ π σ π} (accept : τ → Bool)
      (expected expected' : String) :
      RewordedIn known τ (.satisfy accept expected) (.satisfy accept expected')
  | literal {known : ParserRelation m m σ π σ π} [BEq τ] (items : List τ)
      (expected expected' : String) :
      RewordedIn known Unit (.literal items expected) (.literal items expected')
  | eof {known : ParserRelation m m σ π σ π} : RewordedIn known Unit .eof .eof
  | map {known : ParserRelation m m σ π σ π} {α β : Type} {p q : Parser m σ π α} (f : α → β)
      (inner : RewordedIn known α p q) : RewordedIn known β (p.map f) (q.map f)
  | andThen {known : ParserRelation m m σ π σ π} {α β : Type} {p q : Parser m σ π α}
      {k l : α → Parser m σ π β} (first : RewordedIn known α p q)
      (second : ∀ a, RewordedIn known β (k a) (l a)) :
      RewordedIn known β (p.andThen k) (q.andThen l)
  | orElse {known : ParserRelation m m σ π σ π} {α : Type} {p₁ p₂ q₁ q₂ : Parser m σ π α}
      (first : RewordedIn known α p₁ q₁) (second : RewordedIn known α p₂ q₂) :
      RewordedIn known α (p₁.orElse p₂) (q₁.orElse q₂)
  | many {known : ParserRelation m m σ π σ π} {α : Type} {p q : Parser m σ π α}
      (inner : RewordedIn known α p q) : RewordedIn known (List α) p.many q.many
  | notFollowedBy {known : ParserRelation m m σ π σ π} {α : Type} {p q : Parser m σ π α}
      (inner : RewordedIn known α p q) : RewordedIn known Unit p.notFollowedBy q.notFollowedBy
  | attempt {known : ParserRelation m m σ π σ π} {α : Type} {p q : Parser m σ π α}
      (inner : RewordedIn known α p q) : RewordedIn known α p.attempt q.attempt
  | lookAhead {known : ParserRelation m m σ π σ π} {α : Type} {p q : Parser m σ π α}
      (inner : RewordedIn known α p q) : RewordedIn known α p.lookAhead q.lookAhead
  | filterMap {known : ParserRelation m m σ π σ π} {α β : Type} {p q : Parser m σ π α}
      (decide : α → Option β) (message message' : String) (inner : RewordedIn known α p q) :
      RewordedIn known β (p.filterMap decide message) (q.filterMap decide message')
  | withSpan {known : ParserRelation m m σ π σ π} {α : Type} {p q : Parser m σ π α}
      (inner : RewordedIn known α p q) : RewordedIn known (α × Span π) p.withSpan q.withSpan
  | mapErrorLeft {known : ParserRelation m m σ π σ π} {α : Type} {p q : Parser m σ π α}
      (f : ParseError π → ParseError π) (inner : RewordedIn known α p q) :
      RewordedIn known α (p.mapError f) q
  | mapErrorRight {known : ParserRelation m m σ π σ π} {α : Type} {p q : Parser m σ π α}
      (f : ParseError π → ParseError π) (inner : RewordedIn known α p q) :
      RewordedIn known α p (q.mapError f)
  | atStartLeft {known : ParserRelation m m σ π σ π} {α : Type} {p q : Parser m σ π α}
      (inner : RewordedIn known α p q) : RewordedIn known α p.atStart q
  | atStartRight {known : ParserRelation m m σ π σ π} {α : Type} {p q : Parser m σ π α}
      (inner : RewordedIn known α p q) : RewordedIn known α p q.atStart
  | recursive {known : ParserRelation m m σ π σ π} {α : Type}
      {define define' : Parser m σ π α → Parser m σ π α}
      (body : ∀ me me', RewordedIn (PairedWith known (fun _ : Unit => me) fun _ => me') α
        (define me) (define' me')) :
      RewordedIn known α (.recursive define) (.recursive define')
  | rules {known : ParserRelation m m σ π σ π} {ι α : Type}
      {define define' : (ι → Parser m σ π α) → ι → Parser m σ π α}
      (body : ∀ call call' i, RewordedIn (PairedWith known call call') α (define call i)
        (define' call' i)) (i : ι) :
      RewordedIn known α (.rules define i) (.rules define' i)

namespace RewordedIn

variable {known : ParserRelation m m σ π σ π} {p q : Parser m σ π α}

/-! ## The remaining combinators -/

theorem empty : RewordedIn known α .empty .empty :=
  fail _ _

theorem lift (computation : m α) : RewordedIn known α (.lift computation) (.lift computation) :=
  perform _

theorem item [BEq τ] [Quoted τ] (wanted : τ) : RewordedIn known τ (.item wanted) (.item wanted) :=
  satisfy _ _ _

theorem seqRight {p' q' : Parser m σ π β} (first : RewordedIn known α p q)
    (second : RewordedIn known β p' q') : RewordedIn known β (p.seqRight p') (q.seqRight q') :=
  andThen first fun _ => second

theorem pair {p' q' : Parser m σ π β} (first : RewordedIn known α p q)
    (second : RewordedIn known β p' q') : RewordedIn known (α × β) (p.pair p') (q.pair q') := by
  rw [pair_eq_andThen, pair_eq_andThen]
  exact andThen first fun a => map (a, ·) second

theorem choice {branches : List (Parser m σ π α × Parser m σ π α)}
    (each : ∀ b ∈ branches, RewordedIn known α b.1 b.2) :
    RewordedIn known α (.choice (branches.map Prod.fst)) (.choice (branches.map Prod.snd)) :=
  choice_related empty (fun _ _ _ _ first second => orElse first second) each

/-- Filters, and the halves of partitions and separations, are selections. -/
theorem filter (accept : α → Bool) (message message' : String) (inner : RewordedIn known α p q) :
    RewordedIn known α (p.filter accept message) (q.filter accept message') :=
  filterMap _ _ _ inner

/-- A message of its own is an error mapper. -/
theorem withMessageRight (message : String) (inner : RewordedIn known α p q) :
    RewordedIn known α p (q.withMessage message) :=
  mapErrorRight _ inner

end RewordedIn

end

theorem RewordedIn.string [Host m] [Input σ Char π] {known : ParserRelation m m σ π σ π}
    (text : String) : RewordedIn known String (.string text) (.string text) :=
  map _ (literal _ _ _)

/-- A parser is reworded as another one, with nothing known of other parsers. -/
abbrev Reworded [Host m] [Input σ τ π] (p q : Parser m σ π α) : Prop :=
  RewordedIn (fun _ _ _ => False) α p q

/-! ## Reworded grammars run alike -/

section

variable [Host m] [LawfulHost m]

/-- Parsers that only compute, with the same verdict from every state. -/
theorem Simulates.of_same_verdict {f g : State σ π → Reply σ π α}
    (same : ∀ s, (f s).verdict = (g s).verdict) :
    Simulates (.refl m) .unworded α ⟨fun _ s => Pure.pure (f s)⟩
      ⟨fun _ s => Pure.pure (g s)⟩ := by
  refine .compute fun s s' entry => ?_
  have place : s = s' := entry
  rw [Likeness.replies_unworded_iff, place]
  exact same s'

/-- Wrappers that make replies with the same verdict of replies with the same verdict. -/
theorem Simulates.revise_of_verdict {p q : Parser m σ π α}
    {change change' : State σ π → Reply σ π α → Reply σ π β}
    (ok : ∀ s a t, (change s (.ok a t)).verdict = (change' s (.ok a t)).verdict)
    (error : ∀ s e f t, (change s (.error e t)).verdict = (change' s (.error f t)).verdict)
    (inner : Simulates (.refl m) .unworded α p q) :
    Simulates (.refl m) .unworded β (p.revise change) (q.revise change') := by
  refine inner.revise fun s s' r r' entry like => ?_
  have place : s = s' := entry
  rw [Likeness.replies_unworded_iff, place]
  cases like with
  | ok value like =>
      have ends := Likeness.unworded_state_iff.mp like
      rw [ends]
      exact ok s' value _
  | error about like =>
      have ends := Likeness.unworded_state_iff.mp like
      rw [ends]
      exact error s' _ _ _

/-- Mappers of errors around the first parser. -/
theorem Simulates.rewordLeft {p q : Parser m σ π α} (f : State σ π → ParseError π → ParseError π)
    (inner : Simulates (.refl m) .unworded α p q) :
    Simulates (.refl m) .unworded α (p.revise fun s reply => reply.mapError (f s)) q := by
  refine inner.reviseLeft fun s s' r r' _ like => ?_
  rw [Likeness.replies_unworded_iff] at like ⊢
  rw [Reply.verdict_mapError]
  exact like

/-- Mappers of errors around the second parser. -/
theorem Simulates.rewordRight {p q : Parser m σ π α}
    (f : State σ π → ParseError π → ParseError π)
    (inner : Simulates (.refl m) .unworded α p q) :
    Simulates (.refl m) .unworded α p (q.revise fun s reply => reply.mapError (f s)) := by
  refine inner.reviseRight fun s s' r r' _ like => ?_
  rw [Likeness.replies_unworded_iff] at like ⊢
  rw [Reply.verdict_mapError]
  exact like

variable [Input σ τ π]

/-- Reworded grammars run alike, provided that the known parsers do. -/
theorem RewordedIn.simulates {known : ParserRelation m m σ π σ π} {p q : Parser m σ π α}
    (h : RewordedIn known α p q)
    (given : ∀ β p q, known β p q → Simulates (.refl m) .unworded β p q) :
    Simulates (.refl m) .unworded α p q := by
  induction h with
  | known pair => exact given _ _ _ pair
  | pure value => exact .of_same_verdict fun _ => rfl
  | fail message message' => exact .of_same_verdict fun _ => rfl
  | failAt message message' position position' => exact .of_same_verdict fun _ => rfl
  | perform computation => exact .perform fun _ => rfl
  | getState => exact .of_same_verdict fun _ => rfl
  | putState replacement => exact .of_same_verdict fun _ => rfl
  | position => exact .of_same_verdict fun _ => rfl
  | setConsumed consumed => exact .of_same_verdict fun _ => rfl
  | satisfy accept expected expected' =>
      refine .of_same_verdict fun s => ?_
      cases s.next? with
      | none => rfl
      | some next =>
          rcases next with ⟨x, t⟩
          by_cases haccept : accept x = true
          · simp [haccept]
          · simp [haccept]
  | literal items expected expected' =>
      refine .of_same_verdict fun s => ?_
      cases s.readAll? items with
      | none => rfl
      | some t => rfl
  | eof => exact .of_same_verdict fun _ => rfl
  | map f _ ih => exact (ih given).revise_of_verdict (fun _ _ _ => rfl) fun _ _ _ _ => rfl
  | andThen _ _ ihp ihk => exact (ihp given).andThen fun a => ihk a given
  | orElse _ _ ihp ihq => exact (ihp given).orElse (ihq given)
  | many _ ih => exact (ih given).many
  | notFollowedBy _ ih =>
      exact (ih given).revise_of_verdict (fun _ _ _ => rfl) fun _ _ _ _ => rfl
  | attempt _ ih => exact (ih given).revise_of_verdict (fun _ _ _ => rfl) fun _ _ _ _ => rfl
  | lookAhead _ ih => exact (ih given).revise_of_verdict (fun _ _ _ => rfl) fun _ _ _ _ => rfl
  | filterMap decide message message' _ ih =>
      refine (ih given).revise_of_verdict (fun s a t => ?_) fun _ _ _ _ => rfl
      cases kept : decide a with
      | some b => rw [Reply.select_ok_of_some _ _ _ kept, Reply.select_ok_of_some _ _ _ kept]
      | none =>
          rw [Reply.select_ok_of_none _ _ _ kept, Reply.select_ok_of_none _ _ _ kept]
          rfl
  | withSpan _ ih => exact (ih given).revise_of_verdict (fun _ _ _ => rfl) fun _ _ _ _ => rfl
  | mapErrorLeft f _ ih => exact (ih given).rewordLeft fun _ => f
  | mapErrorRight f _ ih => exact (ih given).rewordRight fun _ => f
  | atStartLeft _ ih => exact (ih given).rewordLeft fun s e => e.relocate s.position
  | atStartRight _ ih => exact (ih given).rewordRight fun s e => e.relocate s.position
  | recursive _ ih =>
      refine .recursive fun me me' pair => ih me me' ?_
      exact PairedWith.simulates given fun _ => pair
  | rules _ i ih =>
      refine .rules (fun call call' pairs i => ih call call' i ?_) i
      exact PairedWith.simulates given pairs

/-- For every fuel the runs of reworded grammars are the same computation but for the errors. -/
theorem Reworded.map_verdict_eq {p q : Parser m σ π α} (h : p.Reworded q) (fuel : Nat)
    (s : State σ π) :
    Reply.verdict <$> p.parse fuel s = Reply.verdict <$> q.parse fuel s := by
  have simulates : Simulates (.refl m) .unworded α p q :=
    h.simulates fun _ _ _ none => none.elim
  exact (simulates fuel s s rfl).map_eq fun _ _ => Likeness.replies_unworded_iff.mp

/-- With enough fuel the run of a parser on a state ends, and but for the error it is this
computation of the host. -/
def Concludes (p : Parser m σ π α) (s : State σ π) (x : m (Option α × State σ π)) : Prop :=
  ∃ least, ∀ fuel, least ≤ fuel → (Reply.verdict <$> p.parse fuel s).run = some <$> x

/-- Take two grammars that are built alike, but with any other messages, with any other positions
of errors, and with mappers of errors anywhere in the one and not in the other.  From every state
and with whatever fuel their runs are, but for the errors, the same computation of the host: they
have the same effects, both lack a reply or neither does, both give the same value or both fail, and
they end in the same state.  So where the one run ends the other does, with the same verdict. -/
theorem verdict_eq_of_reworded {p q : Parser m σ π α} (h : p.Reworded q) (s : State σ π) :
    (∀ fuel, Reply.verdict <$> p.parse fuel s = Reply.verdict <$> q.parse fuel s) ∧
      ∀ x : m (Option α × State σ π), p.Concludes s x ↔ q.Concludes s x := by
  have same (fuel : Nat) := h.map_verdict_eq fuel s
  refine ⟨same, fun x => ?_⟩
  unfold Concludes
  simp only [same]

end

/-! ## A grammar that says more -/

/-- Letters that are not `b`, each announced in the host, up to the end of the input. -/
def terse [Host m] (mark : m Unit) : Parser m Text LineColumn (List Char) :=
  ((lift mark).seqRight ((item 'b').notFollowedBy.seqRight
    ((item 'a').orElse (fail "no letter")))).many.andThen fun letters => eof.map fun _ => letters

/-- The same letters, with errors of their own inside the negative look-ahead, in the branch that
is tried first, and around the whole. -/
def wordy [Host m] (mark : m Unit) : Parser m Text LineColumn (List Char) :=
  (((lift mark).seqRight (((item 'b').withMessage "stop").notFollowedBy.seqRight
    ((item 'a').atStart.orElse (fail "a or b, please")))).many.andThen fun letters =>
      eof.map fun _ => letters).atStart.withMessage "not a word"

theorem reworded_terse_wordy [Host m] (mark : m Unit) : (terse mark).Reworded (wordy mark) := by
  refine .withMessageRight _ (.atStartRight (.andThen (.many ?_) fun letters => .map _ .eof))
  refine .seqRight (.lift mark) (.seqRight (.notFollowedBy (.withMessageRight _ (.item 'b'))) ?_)
  exact .orElse (.atStartRight (.item 'a')) (.fail _ _)

/-- On two letters and a `b` both grammars log three marks and fail behind the letters, with
different messages about different places. -/
theorem verdict_eq_of_reworded_word :
    (terse (Logged.tell 7)).Reworded (wordy (Logged.tell 7)) ∧
      ((terse (Logged.tell 7)).parse 3 ⟨⟨['a', 'a', 'b']⟩, ⟨1, 1⟩, false⟩).run =
        ⟨[7, 7, 7], some (.error ⟨expectedEndMessage, ⟨1, 3⟩⟩ ⟨⟨['b']⟩, ⟨1, 3⟩, true⟩)⟩ ∧
      ((wordy (Logged.tell 7)).parse 3 ⟨⟨['a', 'a', 'b']⟩, ⟨1, 1⟩, false⟩).run =
        ⟨[7, 7, 7], some (.error ⟨"not a word", ⟨1, 1⟩⟩ ⟨⟨['b']⟩, ⟨1, 3⟩, true⟩)⟩ ∧
      (wordy (Logged.tell 7)).Concludes ⟨⟨['a', 'a', 'b']⟩, ⟨1, 1⟩, false⟩
        ⟨[7, 7, 7], (none, ⟨⟨['b']⟩, ⟨1, 3⟩, true⟩)⟩ := by
  have alike := reworded_terse_wordy (Logged.tell 7)
  have ends : (terse (Logged.tell 7)).Concludes ⟨⟨['a', 'a', 'b']⟩, ⟨1, 1⟩, false⟩
      ⟨[7, 7, 7], (none, ⟨⟨['b']⟩, ⟨1, 3⟩, true⟩)⟩ := by
    refine ⟨3, fun fuel more => ?_⟩
    obtain ⟨fuel, rfl⟩ := Nat.exists_eq_add_of_le' more
    rfl
  refine ⟨alike, rfl, rfl, ?_⟩
  exact ((verdict_eq_of_reworded alike _).2 _).mp ends

end Parser

end Descent
