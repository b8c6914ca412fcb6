import Descent.Proofs.Engine.PlacesAhead
import Descent.Proofs.Input.Ascending

/-!
# Errors are about places in the input

The place of an error and the place where the run ends are kept apart: a state is put back by
look-aheads, rejections and repetitions, and the error still tells how far the run had come.  Both
places are reached by passing items of the input.  Every construct keeps this, as long as no
position is given by hand: not with an error, not by a mapper of errors, and not in a state that is
put in place.

Main definitions:

- `Reply.Within`: a reply that ends at a place ahead, with its error about such a place.

Main results:

- Theorem `closedUnder_locates`: every construct keeps to places in the input.
- Theorem `exists_error_place`: where the error of a composed parser can be.
-/

namespace Descent

variable {m : Type → Type} {σ τ π α β ε : Type}

/-! ## Replies about places ahead -/

section

variable [Input σ τ π] {s t u : State σ π}

/-- The reply of a run that was entered in the given state ends at a place that the state reaches,
and its error, if it has one, is about such a place: not always the same one. -/
structure Reply.Within (s : State σ π) (r : Reply σ π α) : Prop where
  ends : s.Reaches r.state
  place : ∀ e, r.result = .error e → ∃ t : State σ π, s.Reaches t ∧ e.position = t.position

namespace Reply.Within

theorem ok (a : α) (h : s.Reaches t) : Within s (.ok a t) where
  ends := h
  place _ isError := by cases isError

theorem error {e : ParseError π} (h : s.Reaches t) (place : s.Reaches u)
    (about : e.position = u.position) : Within s (.error e t : Reply σ π α) where
  ends := h
  place f isError := by
    rcases Except.error.inj isError with rfl
    exact ⟨u, place, about⟩

/-- An error that is made on the spot is about the place where the run ends. -/
theorem errorHere (message : String) (h : s.Reaches t) :
    Within s (.errorHere message t : Reply σ π α) :=
  error h h rfl

/-- The place of an error stays one when the state is put back or moved on. -/
theorem error_elsewhere {e : ParseError π} (h : Within s (.error e t : Reply σ π α))
    (elsewhere : s.Reaches u) : Within s (.error e u : Reply σ π β) := by
  rcases h.place e rfl with ⟨v, place, about⟩
  exact error elsewhere place about

/-- What is ahead of a place that is reached is ahead. -/
theorem of_reaches {r : Reply σ π α} (h : s.Reaches t) (within : Within t r) : Within s r where
  ends := h.trans within.ends
  place e isError := by
    rcases within.place e isError with ⟨u, place, about⟩
    exact ⟨u, h.trans place, about⟩

/-- The flag of the state that a run is entered in says nothing about places. -/
theorem of_withConsumed {b : Bool} {r : Reply σ π α} (within : Within (s.withConsumed b) r) :
    Within s r :=
  within.of_reaches ((State.Reaches.refl s).withConsumed b)

end Reply.Within

end

namespace Parser

section

variable [Host m] [ImmediateHost m ε] [Input σ τ π]

/-- All replies of a parser end at places ahead and have errors about places ahead. -/
def Locates (α : Type) (p : Parser m σ π α) : Prop :=
  ∀ fuel s r, p.Delivers fuel s r → r.Within s

namespace Locates

/-- Leaves only compute. -/
theorem compute {f : State σ π → Reply σ π α} (within : ∀ s, (f s).Within s) :
    Locates α (⟨fun _ s => Pure.pure (f s)⟩ : Parser m σ π α) := by
  intro fuel s r h
  rcases delivers_compute.mp h with rfl
  exact within s

/-- Wrappers see the state that their parser was entered with. -/
theorem revise {p : Parser m σ π α} {change : State σ π → Reply σ π α → Reply σ π β}
    (hp : Locates α p) (within : ∀ s r, Reply.Within s r → Reply.Within s (change s r)) :
    Locates β (p.revise change) := by
  intro fuel s r h
  rcases delivers_revise.mp h with ⟨r', delivers, rfl⟩
  exact within s r' (hp fuel s r' delivers)

/-! ## Each construct -/

theorem satisfy (accept : τ → Bool) (expected : String) :
    Locates τ (.satisfy accept expected : Parser m σ π τ) := by
  intro fuel s r h
  rcases delivers_satisfy h with ⟨x, t, hnext, -, rfl⟩ | ⟨message, rfl⟩
  · exact .ok x (.of_next? hnext)
  · exact .errorHere message (.refl s)

/-- Where a literal is missing the run goes back to its first item, and so does the error. -/
theorem literal [BEq τ] (items : List τ) (expected : String) :
    Locates Unit (.literal items expected : Parser m σ π Unit) := by
  intro fuel s r h
  rcases delivers_literal h with ⟨t, hread, rfl⟩ | rfl
  · exact .ok () (runRelation_reaches.readAll? hread)
  · exact .errorHere _ (.refl s)

theorem eof : Locates Unit (.eof : Parser m σ π Unit) := by
  intro fuel s r h
  rcases delivers_eof h with rfl | rfl
  · exact .ok () (.refl s)
  · exact .errorHere _ (.refl s)

theorem lift (computation : m α) : Locates α (.lift computation : Parser m σ π α) := by
  intro fuel s r h
  rcases delivers_lift.mp h with ⟨a, -, rfl⟩
  exact .ok a (.refl s)

theorem map {p : Parser m σ π α} (f : α → β) (hp : Locates α p) : Locates β (p.map f) := by
  refine hp.revise fun s r within => ?_
  cases r with
  | ok a t => exact .ok (f a) within.ends
  | error e t => exact within.error_elsewhere within.ends

theorem andThen {p : Parser m σ π α} {k : α → Parser m σ π β} (hp : Locates α p)
    (hk : ∀ a, Locates β (k a)) : Locates β (p.andThen k) := by
  intro fuel s r h
  rcases delivers_andThen.mp h with ⟨a, t, hpt, hkr⟩ | ⟨e, t, hpt, rfl⟩
  · have first : s.Reaches t := (hp fuel s _ hpt).ends
    exact .of_reaches first (hk a fuel t r hkr)
  · have first := hp fuel s _ hpt
    exact first.error_elsewhere first.ends

/-- The first branch is run with the flag cleared, and the second from where the choice was
entered. -/
theorem orElse {p q : Parser m σ π α} (hp : Locates α p) (hq : Locates α q) :
    Locates α (p.orElse q) := by
  intro fuel s r h
  rcases delivers_orElse.mp h with ⟨a, t, hpt, rfl⟩ | ⟨e, t, hpt, -, rfl⟩ | ⟨e, t, -, -, hqr⟩
  · exact (hp fuel _ _ hpt).of_withConsumed
  · exact (hp fuel _ _ hpt).of_withConsumed
  · exact hq fuel s r hqr

/-- A parser that locates its errors ends ahead. -/
theorem endsAhead {p : Parser m σ π α} (hp : Locates α p) : EndsAhead α p :=
  fun fuel s r delivers => (hp fuel s r delivers).ends

/-- The last round of a repetition starts behind those that are collected. -/
theorem many {p : Parser m σ π α} (hp : Locates α p) : Locates (List α) p.many := by
  intro fuel s r h
  rcases delivers_many h with ⟨values, u, collects, stops⟩
  have earlier : s.Reaches u := runRelation_reaches.of_collects hp.endsAhead collects
  cases stops with
  | finished delivers clear => exact .ok values earlier
  | committed delivers consumed =>
      have last := (hp fuel _ _ delivers).of_withConsumed
      exact .of_reaches earlier (last.error_elsewhere last.ends)
  | empty delivers clear =>
      have last := (hp fuel _ _ delivers).of_withConsumed
      exact .of_reaches earlier (.errorHere emptyIterationMessage last.ends)

theorem notFollowedBy {p : Parser m σ π α} (hp : Locates α p) :
    Locates Unit p.notFollowedBy := by
  refine hp.revise fun s r _ => ?_
  cases r with
  | ok a t => exact .errorHere unexpectedMatchMessage (.refl s)
  | error e t => exact .ok () (.refl s)

theorem attempt {p : Parser m σ π α} (hp : Locates α p) : Locates α p.attempt := by
  refine hp.revise fun s r within => ?_
  cases r with
  | ok a t => exact within
  | error e t => exact within.error_elsewhere (within.ends.withConsumed s.consumed)

/-- The state is put back, and the error stays about the place that was looked at. -/
theorem lookAhead {p : Parser m σ π α} (hp : Locates α p) : Locates α p.lookAhead := by
  refine hp.revise fun s r within => ?_
  cases r with
  | ok a t => exact .ok a (.refl s)
  | error e t => exact within.error_elsewhere (.refl s)

theorem filterMap {p : Parser m σ π α} (decide : α → Option β) (message : String)
    (hp : Locates α p) : Locates β (p.filterMap decide message) := by
  refine hp.revise fun s r within => ?_
  cases r with
  | ok a t =>
      cases kept : decide a with
      | some b =>
          rw [Reply.select_ok_of_some message s t kept]
          exact .ok b within.ends
      | none =>
          rw [Reply.select_ok_of_none message s t kept]
          exact .errorHere message (.refl s)
  | error e t => exact within.error_elsewhere within.ends

/-- Another message is about the same place. -/
theorem withMessage {p : Parser m σ π α} (message : String) (hp : Locates α p) :
    Locates α (p.withMessage message) := by
  refine hp.revise fun s r within => ?_
  cases r with
  | ok a t => exact within
  | error e t =>
      rcases within.place e rfl with ⟨u, place, about⟩
      exact .error within.ends place about

/-- The place where a run started is a place in the input. -/
theorem atStart {p : Parser m σ π α} (hp : Locates α p) : Locates α p.atStart := by
  refine hp.revise fun s r within => ?_
  cases r with
  | ok a t => exact within
  | error e t => exact .error within.ends (.refl s) rfl

theorem withSpan {p : Parser m σ π α} (hp : Locates α p) : Locates (α × Span π) p.withSpan := by
  refine hp.revise fun s r within => ?_
  cases r with
  | ok a t => exact .ok _ within.ends
  | error e t => exact within.error_elsewhere within.ends

theorem fuelwise : Fuelwise (Locates : ParserProperty m σ π) :=
  fuelwise_replies Reply.Within

end Locates

/-! ## All constructs -/

/-- Every construct keeps to places in the input, but for those that are given a position. -/
theorem closedUnder_locates :
    ClosedUnder (.without [.failAt, .mapError, .putState])
      (Locates : ParserProperty m σ π) where
  pure value := .compute fun s => .ok value (.refl s)
  fail message := .compute fun s => .errorHere message (.refl s)
  failAt allowed := by simp at allowed
  lift := Locates.lift
  getState _ := .compute fun s => .ok s (.refl s)
  putState allowed := by simp at allowed
  position _ := .compute fun s => .ok s.position (.refl s)
  setConsumed consumed _ := .compute fun s => .ok () ((State.Reaches.refl s).withConsumed consumed)
  satisfy := Locates.satisfy
  literal := Locates.literal
  eof := Locates.eof
  map f hp := hp.map f
  andThen hp hk := hp.andThen hk
  orElse _ hp hq := hp.orElse hq
  many _ hp := hp.many
  notFollowedBy hp := hp.notFollowedBy
  attempt _ hp := hp.attempt
  lookAhead hp := hp.lookAhead
  filterMap decide message hp := hp.filterMap decide message
  mapError allowed := by simp at allowed
  withMessage message hp := hp.withMessage message
  atStart hp := hp.atStart
  withSpan hp := hp.withSpan
  recursive _ body := Locates.fuelwise.recursive body
  rules _ body i := Locates.fuelwise.rules body i

/-- The place that a state reaches is behind the first so many of the items that are left. -/
theorem exists_position_eq_of_reaches [FiniteInput σ] {s t : State σ π} (h : s.Reaches t) :
    ∃ j, j ≤ s.remaining ∧
      t.position = ((FiniteInput.items s.input).take j).foldl (Input.advance σ) s.position := by
  rcases h with ⟨xs, passes⟩
  have items : FiniteInput.items s.input = xs ++ FiniteInput.items t.input :=
    passes.input.items_eq
  refine ⟨xs.length, ?_, ?_⟩
  · rw [State.remaining, items, List.length_append]
    exact Nat.le_add_right _ _
  · rw [items, List.take_left, passes.position]

/-- If the run of a parser fails that is given no position by hand, then the position of the error
is the one it started from, advanced over the first so many of the items that were left; whatever
has become of the state.  So the error is about no place before the start, and about none behind
the end of the input. -/
theorem exists_error_place [FiniteInput σ] [Ord π] [AscendingInput σ] {p : Parser m σ π α}
    (hp : p.Composed (.without [.failAt, .mapError, .putState])) {fuel : Nat} {s t : State σ π}
    {e : ParseError π} (h : p.Delivers fuel s (.error e t)) :
    (∃ j, j ≤ s.remaining ∧
        e.position = ((FiniteInput.items s.input).take j).foldl (Input.advance σ) s.position) ∧
      (compare s.position e.position).isLE = true ∧
      (compare e.position
        ((FiniteInput.items s.input).foldl (Input.advance σ) s.position)).isLE = true := by
  have within : Reply.Within s (.error e t) := hp.induction closedUnder_locates fuel s _ h
  rcases within.place e rfl with ⟨u, place, about⟩
  rcases exists_position_eq_of_reaches place with ⟨j, bound, position⟩
  have there := about.trans position
  refine ⟨⟨j, bound, there⟩, ?_, ?_⟩
  · rw [there]
    exact isLE_foldl_advance _ _
  · -- The end of the input is behind the items from the place of the error on.
    have rest := isLE_foldl_advance (σ := σ) ((FiniteInput.items s.input).drop j) e.position
    rw [there, ← List.foldl_append, List.take_append_drop] at rest
    rw [there]
    exact rest

end

/-- A letter, if the next line starts with another one. -/
def letterBeforeLine : Parser (Except String) Text LineColumn Char :=
  (item 'a').seqRight (((item '\n').seqRight (item 'b')).lookAhead.withMessage "no letter")

/-- In the third line the next line is looked at, and starts with the wrong letter.  The run ends
behind the first letter, and its error is about the place two items on. -/
theorem exists_error_place_letterBeforeLine :
    letterBeforeLine.Composed (.without [.failAt, .mapError, .putState]) ∧
      letterBeforeLine.Delivers 0 ⟨⟨['a', '\n', 'c', 'd']⟩, ⟨3, 5⟩, false⟩
        (.error ⟨"no letter", ⟨4, 1⟩⟩ ⟨⟨['\n', 'c', 'd']⟩, ⟨3, 6⟩, true⟩) ∧
      (∃ j, j ≤ 4 ∧ (⟨4, 1⟩ : LineColumn) =
        (['a', '\n', 'c', 'd'].take j).foldl (Input.advance Text) ⟨3, 5⟩) ∧
      (compare (⟨3, 5⟩ : LineColumn) ⟨4, 1⟩).isLE = true ∧
      (compare (⟨4, 1⟩ : LineColumn)
        (['a', '\n', 'c', 'd'].foldl (Input.advance Text) ⟨3, 5⟩)).isLE = true := by
  have composed : letterBeforeLine.Composed (.without [.failAt, .mapError, .putState]) :=
    .seqRight (.item 'a') (.withMessage _ (.lookAhead (.seqRight (.item '\n') (.item 'b'))))
  have delivers : letterBeforeLine.Delivers 0 ⟨⟨['a', '\n', 'c', 'd']⟩, ⟨3, 5⟩, false⟩
      (.error ⟨"no letter", ⟨4, 1⟩⟩ ⟨⟨['\n', 'c', 'd']⟩, ⟨3, 6⟩, true⟩) := rfl
  exact ⟨composed, delivers, exists_error_place composed delivers⟩

end Parser

end Descent
