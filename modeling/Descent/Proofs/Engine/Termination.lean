import Descent.Proofs.Engine.Invariant
import Descent.Proofs.Host.Counting

/-!
# Repetitions end

A repetition has no bound of its own: it goes on as long as its rounds succeed with the flag
set.  By the invariant of the engine such a round has read an item, so over a finite input there
can be at most one round for each item left, and one more that ends the repetition.  This holds
for repetitions inside repetitions too, whatever is looked ahead, attempted or rejected on the
way, as long as no state is put in place and no flag is set by hand.

Main definitions:

- `Parser.bodyRuns`: how often a repetition runs its parser.
- `Parser.Settles`: runs with more fuel than items left end, and in the same way.

Main results:

- Theorem `decreases_round`: the rounds that go on leave fewer items.
- Theorem `Advances.bodyRuns_le`: a repetition runs its parser at most once more than there are
  items left.
- Theorem `closedUnder_terminating`: every construct keeps runs that end.
- Theorem `exists_outcome_and_bodyRuns_le`: the runs and the repetitions of every composed parser.
-/

namespace Descent.Parser

variable {m : Type → Type} {σ τ π α β ε : Type}

section

variable [Host m] [ImmediateHost m ε]

/-! ## Counting the rounds of a repetition -/

/-- A repetition together with the number of times that it runs its parser. -/
def countedMany (p : Parser m σ π α) (fuel : Nat) (s : State σ π) :
    Outcome ε (Reply σ π (List α)) × Nat :=
  Outcome.countedLoop fuel (fun seed => Host.outcome (p.round fuel seed)) ([], s)

/-- Counting the rounds changes nothing. -/
@[simp]
theorem countedMany_fst (p : Parser m σ π α) (fuel : Nat) (s : State σ π) :
    (p.countedMany fuel s).1 = p.many.outcome fuel s := by
  rw [countedMany, Outcome.countedLoop_fst, outcome_many]
  rfl

/-- How often a repetition of the parser that is entered in this state runs the parser. -/
def bodyRuns (p : Parser m σ π α) (fuel : Nat) (s : State σ π) : Nat :=
  (p.countedMany fuel s).2

variable [Input σ τ π] [FiniteInput σ]

/-- No run leaves more items than there were. -/
theorem Advances.remaining_le {p : Parser m σ π α} (hp : Advances α p) {fuel : Nat}
    {s : State σ π} {r : Reply σ π α} (h : p.Delivers fuel s r) :
    r.state.remaining ≤ s.remaining := by
  rcases hp fuel s r h with ⟨items, reads⟩
  have total := reads.remaining_eq
  omega

/-- A round that goes on has set the flag, which was clear, and so it has read an item. -/
theorem Advances.decreases_round {p : Parser m σ π α} (hp : Advances α p) (fuel : Nat) :
    Outcome.Decreases (fun seed : List α × State σ π => seed.2.remaining)
      fun seed => Host.outcome (p.round fuel seed) := by
  intro ⟨items, u⟩ next run
  rcases Outcome.map_eq_delivered.mp ((p.outcome_round fuel items u).symm.trans run) with
    ⟨r, delivers, goesOn⟩
  rcases nextRound_eq_next goesOn with ⟨a, t, rfl, flag, rfl⟩
  rcases hp fuel _ _ delivers with ⟨read, reads⟩
  have some : read ≠ [] := by
    rcases reads.consumed flag with clear | some
    · cases clear
    · exact some
  exact reads.remaining_lt_iff.mpr some

/-- A repetition runs its parser at most once for each item left, and once more. -/
theorem Advances.bodyRuns_le {p : Parser m σ π α} (hp : Advances α p) (fuel : Nat)
    (s : State σ π) : p.bodyRuns fuel s ≤ s.remaining + 1 :=
  (hp.decreases_round fuel).countedLoop_snd_le fuel ([], s)

/-! ## Runs that end -/

/-- Runs with more fuel than there are items left end, and all of them in the same way. -/
def Settles (p : Parser m σ π α) : Prop :=
  ∀ s fuel fuel', s.remaining < fuel → s.remaining < fuel' →
    p.outcome fuel s ≠ .unfinished ∧ p.outcome fuel s = p.outcome fuel' s

namespace Settles

theorem compute (f : State σ π → Reply σ π α) :
    (⟨fun _ s => Pure.pure (f s)⟩ : Parser m σ π α).Settles := by
  intro s fuel fuel' _ _
  rw [outcome_compute, outcome_compute]
  exact ⟨nofun, rfl⟩

theorem lift (computation : m α) : (lift computation : Parser m σ π α).Settles := by
  intro s fuel fuel' _ _
  rw [outcome_lift, outcome_lift]
  refine ⟨?_, rfl⟩
  cases ImmediateHost.settle computation with
  | error failure => exact nofun
  | ok a => exact nofun

theorem revise {p : Parser m σ π α} (hp : p.Settles)
    (change : State σ π → Reply σ π α → Reply σ π β) : (p.revise change).Settles := by
  intro s fuel fuel' enough enough'
  rcases hp s fuel fuel' enough enough' with ⟨ends, same⟩
  rw [outcome_revise, outcome_revise, ← same, ne_eq, Outcome.map_eq_unfinished]
  exact ⟨ends, rfl⟩

/-- The second part is run with at most as many items left as the first. -/
theorem andThen {p : Parser m σ π α} {k : α → Parser m σ π β} (hp : p.Settles)
    (reads : Advances α p) (hk : ∀ a, (k a).Settles) : (p.andThen k).Settles := by
  intro s fuel fuel' enough enough'
  rcases hp s fuel fuel' enough enough' with ⟨ends, same⟩
  rw [outcome_andThen, outcome_andThen, ← same]
  cases run : p.outcome fuel s with
  | failed failure => exact ⟨nofun, rfl⟩
  | unfinished => exact (ends run).elim
  | delivered r =>
      cases r with
      | ok a t =>
          have fewer : t.remaining ≤ s.remaining := reads.remaining_le run
          exact hk a t fuel fuel' (by omega) (by omega)
      | error e t => exact ⟨nofun, rfl⟩

theorem orElse {p q : Parser m σ π α} (hp : p.Settles) (hq : q.Settles) :
    (p.orElse q).Settles := by
  intro s fuel fuel' enough enough'
  rcases hp (s.withConsumed false) fuel fuel' enough enough' with ⟨ends, same⟩
  rw [outcome_orElse, outcome_orElse, ← same]
  cases run : p.outcome fuel (s.withConsumed false) with
  | failed failure => exact ⟨nofun, rfl⟩
  | unfinished => exact (ends run).elim
  | delivered r =>
      rw [Outcome.delivered_bind, Outcome.delivered_bind]
      cases r.isRecoverable with
      | true => exact hq s fuel fuel' enough enough'
      | false => exact ⟨nofun, rfl⟩

/-- The rounds are run with fewer and fewer items left, and so each of them settles. -/
theorem many {p : Parser m σ π α} (hp : p.Settles) (reads : Advances α p) :
    p.many.Settles := by
  intro s fuel fuel' enough enough'
  rw [outcome_many, outcome_many]
  -- The fuel is both the number of rounds and the fuel of each round, and enough as either.
  refine (reads.decreases_round fuel).loop_settles ?_ enough enough'
  intro ⟨items, u⟩ below
  have fewer : (u.withConsumed false).remaining ≤ s.remaining := below
  rcases hp (u.withConsumed false) fuel fuel' (by omega) (by omega) with ⟨ends, same⟩
  rw [outcome_round, outcome_round, ← same, ne_eq, Outcome.map_eq_unfinished]
  exact ⟨ends, rfl⟩

end Settles

/-! ## All constructs -/

/-- What is shown together of every construct: runs read, and they settle. -/
structure Terminating (α : Type) (p : Parser m σ π α) : Prop where
  advances : Advances α p
  settles : p.Settles

namespace Terminating

theorem of_compute {f : State σ π → Reply σ π α}
    (advances : Advances α (⟨fun _ s => Pure.pure (f s)⟩ : Parser m σ π α)) :
    Terminating α (⟨fun _ s => Pure.pure (f s)⟩ : Parser m σ π α) where
  advances := advances
  settles := .compute f

theorem of_revise {p : Parser m σ π α} {change : State σ π → Reply σ π α → Reply σ π β}
    (hp : Terminating α p) (advances : Advances β (p.revise change)) :
    Terminating β (p.revise change) where
  advances := advances
  settles := hp.settles.revise change

theorem lift (computation : m α) : Terminating α (lift computation : Parser m σ π α) where
  advances := closedUnder_advances.lift computation
  settles := .lift computation

theorem andThen {p : Parser m σ π α} {k : α → Parser m σ π β} (hp : Terminating α p)
    (hk : ∀ a, Terminating β (k a)) : Terminating β (p.andThen k) where
  advances := runRelation_reads.andThen hp.advances fun a => (hk a).advances
  settles := hp.settles.andThen hp.advances fun a => (hk a).settles

theorem orElse {p q : Parser m σ π α} (hp : Terminating α p) (hq : Terminating α q) :
    Terminating α (p.orElse q) where
  advances := runRelation_reads.orElse hp.advances hq.advances
  settles := hp.settles.orElse hq.settles

theorem many {p : Parser m σ π α} (hp : Terminating α p) : Terminating (List α) p.many where
  advances := runRelation_reads.many hp.advances
  settles := hp.settles.many hp.advances

end Terminating

/-- Every construct keeps runs that end, but for those that put a state in place, set the flag or
define a parser in terms of itself. -/
theorem closedUnder_terminating :
    ClosedUnder (.without [.putState, .setConsumed true, .recursion])
      (Terminating : ParserProperty m σ π) where
  pure value := .of_compute (closedUnder_advances.pure value)
  fail message := .of_compute (closedUnder_advances.fail message)
  failAt _ message position :=
    .of_compute (closedUnder_advances.failAt (by simp) message position)
  lift := Terminating.lift
  getState _ := .of_compute (closedUnder_advances.getState (by simp))
  putState allowed := by simp at allowed
  position _ := .of_compute (closedUnder_advances.position (by simp))
  setConsumed consumed allowed :=
    .of_compute (closedUnder_advances.setConsumed consumed (by simpa using allowed))
  satisfy accept expected := .of_compute (closedUnder_advances.satisfy accept expected)
  literal items expected := .of_compute (closedUnder_advances.literal items expected)
  eof := .of_compute closedUnder_advances.eof
  map f hp := hp.of_revise (closedUnder_advances.map f hp.advances)
  andThen hp hk := hp.andThen hk
  orElse _ hp hq := hp.orElse hq
  many _ hp := hp.many
  notFollowedBy hp := hp.of_revise (closedUnder_advances.notFollowedBy hp.advances)
  attempt _ hp := hp.of_revise (runRelation_reads.attempt hp.advances)
  lookAhead hp := hp.of_revise (closedUnder_advances.lookAhead hp.advances)
  filterMap decide message hp :=
    hp.of_revise (closedUnder_advances.filterMap decide message hp.advances)
  mapError _ f hp := hp.of_revise (closedUnder_advances.mapError (by simp) f hp.advances)
  withMessage message hp := hp.of_revise (closedUnder_advances.withMessage message hp.advances)
  atStart hp := hp.of_revise (closedUnder_advances.atStart hp.advances)
  withSpan hp := hp.of_revise (closedUnder_advances.withSpan hp.advances)
  recursive allowed := by simp at allowed
  rules allowed := by simp at allowed

/-- Over a finite input every run of a composed parser ends, with a reply or with a failure of
the host, and does not depend on its fuel once that is more than the items left.  And a repetition
of the parser, entered in whatever state, runs it at most once more than there are items left
there.  Each repetition inside of a composed parser is a repetition of a composed parser too, so
that none of them, on whatever level, takes more rounds than that. -/
theorem exists_outcome_and_bodyRuns_le {p : Parser m σ π α}
    (hp : p.Composed (.without [.putState, .setConsumed true, .recursion])) (s : State σ π) :
    (∃ o, o ≠ .unfinished ∧ ∀ fuel, s.remaining < fuel → p.outcome fuel s = o) ∧
      ∀ fuel, p.bodyRuns fuel s ≤ s.remaining + 1 := by
  have short : Terminating α p := hp.induction closedUnder_terminating
  have least : s.remaining < s.remaining + 1 := Nat.lt_succ_self _
  refine ⟨⟨p.outcome (s.remaining + 1) s, ?_, ?_⟩, ?_⟩
  · exact (short.settles s _ _ least least).1
  · exact fun fuel enough => (short.settles s fuel _ enough least).2
  · exact fun fuel => short.advances.bodyRuns_le fuel s

end

/-- Letters and a comma behind them. -/
def row : Parser (Except String) Text LineColumn (List Char × Char) :=
  (item 'a').many.pair (item ',')

/-- A repetition inside a repetition: two rows are read, and the third round of the outer loop
ends it; in its first round the inner loop takes three rounds.  Neither of them ever takes more
rounds than its bound. -/
theorem exists_outcome_and_bodyRuns_le_rows :
    row.many.Composed (.without [.putState, .setConsumed true, .recursion]) ∧
      (∀ fuel, 4 < fuel → row.many.outcome fuel ⟨⟨['a', 'a', ',', ',']⟩, ⟨1, 1⟩, false⟩ =
        .delivered (.ok [(['a', 'a'], ','), ([], ',')] ⟨⟨[]⟩, ⟨1, 5⟩, true⟩)) ∧
      row.bodyRuns 5 ⟨⟨['a', 'a', ',', ',']⟩, ⟨1, 1⟩, false⟩ = 3 ∧
      (item 'a' : Parser (Except String) Text LineColumn Char).bodyRuns 5
        ⟨⟨['a', 'a', ',', ',']⟩, ⟨1, 1⟩, false⟩ = 3 ∧
      ∀ fuel s, row.bodyRuns fuel s ≤ s.remaining + 1 ∧
        (item 'a' : Parser (Except String) Text LineColumn Char).bodyRuns fuel s ≤
          s.remaining + 1 := by
  have letter : (item 'a' : Parser (Except String) Text LineColumn Char).Composed
      (.without [.putState, .setConsumed true, .recursion]) := .item 'a'
  have inner : row.Composed (.without [.putState, .setConsumed true, .recursion]) :=
    .pair (.many (by simp) letter) (.item ',')
  have composed : row.many.Composed (.without [.putState, .setConsumed true, .recursion]) :=
    .many (by simp) inner
  rcases exists_outcome_and_bodyRuns_le composed ⟨⟨['a', 'a', ',', ',']⟩, ⟨1, 1⟩, false⟩ with
    ⟨⟨o, -, same⟩, -⟩
  have ends := same 5 (by decide)
  refine ⟨composed, fun fuel enough => ?_, rfl, rfl, fun fuel s => ⟨?_, ?_⟩⟩
  · rw [same fuel enough, ← ends]
    rfl
  · exact (exists_outcome_and_bodyRuns_le inner s).2 fuel
  · exact (exists_outcome_and_bodyRuns_le letter s).2 fuel

end Descent.Parser
