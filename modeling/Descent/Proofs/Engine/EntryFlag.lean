import Descent.Proofs.Parser.Composition
import Descent.Proofs.Parser.Rounds

/-!
# The flag a run is entered with

Choices, repetitions and attempts look at the flag of the state, but they look at what their
own parts did to it.  The flag that a run is entered with decides nothing: whatever it is,
the run ends in the same way, and its own flag at the end is either the same in every case or
the flag it was entered with, handed through.

Main definitions:

- `OpenReply`: a reply whose flag may be the one of the entry, whatever that is.
- `IgnoresFlag`: the runs of a parser from one place are the instances of one open reply.
- `Reply.AgreeBut`: two replies that agree but for flags handed through.

Main results:

- Theorem `closedUnder_ignoresFlag`: every construct but `getState` ignores the flag.
- Theorem `agree_of_same_place`: two runs from one place end in the same way.
-/

namespace Descent

variable {m : Type → Type} {σ τ π α β ε : Type}

/-! ## Open replies -/

/-- A reply whose flag is either fixed or left to the entry of the run. -/
structure OpenReply (σ π α : Type) where
  reply : Reply σ π α
  flag : Option Bool

/-- The reply of a run that was entered with the given flag. -/
def OpenReply.close (o : OpenReply σ π α) (entry : Bool) : Reply σ π α :=
  ⟨o.reply.result, o.reply.state.withConsumed (o.flag.getD entry)⟩

/-- A reply of which nothing is left to the entry. -/
def OpenReply.fixed (reply : Reply σ π α) : OpenReply σ π α :=
  ⟨reply, some reply.state.consumed⟩

@[simp]
theorem OpenReply.close_ok (a : α) (t : State σ π) (flag : Option Bool) (entry : Bool) :
    (⟨.ok a t, flag⟩ : OpenReply σ π α).close entry =
      .ok a (t.withConsumed (flag.getD entry)) :=
  rfl

@[simp]
theorem OpenReply.close_error (e : ParseError π) (t : State σ π) (flag : Option Bool)
    (entry : Bool) :
    (⟨.error e t, flag⟩ : OpenReply σ π α).close entry =
      .error e (t.withConsumed (flag.getD entry)) :=
  rfl

@[simp]
theorem OpenReply.close_fixed (reply : Reply σ π α) (entry : Bool) :
    (OpenReply.fixed reply).close entry = reply :=
  rfl

/-- Two replies, of runs entered with the flags `b` and `c`, agree but for their flags, and
where the flags differ each is the flag of its entry. -/
structure Reply.AgreeBut (b c : Bool) (r r' : Reply σ π α) : Prop where
  result : r.result = r'.result
  input : r.state.input = r'.state.input
  position : r.state.position = r'.state.position
  consumed : r.state.consumed = r'.state.consumed ∨
    r.state.consumed = b ∧ r'.state.consumed = c

/-- The instances of an open reply agree but for flags handed through. -/
theorem OpenReply.agreeBut (o : OpenReply σ π α) (b c : Bool) :
    Reply.AgreeBut b c (o.close b) (o.close c) := by
  rcases o with ⟨reply, flag⟩
  refine ⟨rfl, rfl, rfl, ?_⟩
  cases flag with
  | none => exact .inr ⟨rfl, rfl⟩
  | some flag => exact .inl rfl

/-- What a repetition makes of a round: it goes on in the same way for every flag that the
round started from, or it stops with the instances of one reply. -/
theorem OpenReply.nextRound_cases (items : List α) (s : State σ π) (reply : Reply σ π α) :
    (∃ seed, ∀ entry, reply.nextRound items (s.withConsumed entry) = .next seed) ∨
      ∃ o : OpenReply σ π (List α), ∀ entry,
        reply.nextRound items (s.withConsumed entry) = .done (o.close entry) := by
  cases reply with
  | ok a t =>
      cases flag : t.consumed with
      | true => exact .inl ⟨_, fun _ => Reply.nextRound_ok_of_consumed _ _ a flag⟩
      | false =>
          refine .inr ⟨.fixed (.errorHere Parser.emptyIterationMessage t), fun _ => ?_⟩
          exact Reply.nextRound_ok_of_not_consumed _ _ a flag
  | error e t =>
      cases flag : t.consumed with
      | true =>
          refine .inr ⟨.fixed (.error e t), fun _ => ?_⟩
          exact Reply.nextRound_error_of_consumed _ _ e flag
      | false =>
          refine .inr ⟨⟨.ok items.reverse s, none⟩, fun _ => ?_⟩
          exact Reply.nextRound_error_of_not_consumed _ _ e flag

namespace Parser

section

variable [Host m] [ImmediateHost m ε] [Input σ τ π]

/-! ## Parsers that ignore the flag -/

/-- From any place, whatever the flag, the runs of a parser are instances of one open
outcome. -/
def IgnoresFlag (α : Type) (p : Parser m σ π α) : Prop :=
  ∀ (fuel : Nat) (s : State σ π), ∃ scheme : Outcome ε (OpenReply σ π α), ∀ entry,
    p.outcome fuel (s.withConsumed entry) = scheme.map (·.close entry)

namespace IgnoresFlag

/-- A parser that only computes, from every flag an instance of one reply. -/
theorem of_compute {f : State σ π → Reply σ π α}
    (h : ∀ s : State σ π, ∃ o : OpenReply σ π α, ∀ entry,
      f (s.withConsumed entry) = o.close entry) :
    IgnoresFlag α (⟨fun _ s => Pure.pure (f s)⟩ : Parser m σ π α) := by
  intro fuel s
  rcases h s with ⟨o, ho⟩
  refine ⟨.delivered o, fun entry => ?_⟩
  rw [outcome_compute, ho]
  rfl

/-- A wrapper that takes instances of one reply to instances of one reply. -/
theorem of_revise {p : Parser m σ π α} {change : State σ π → Reply σ π α → Reply σ π β}
    (h : ∀ (s : State σ π) (o : OpenReply σ π α), ∃ o' : OpenReply σ π β, ∀ entry,
      change (s.withConsumed entry) (o.close entry) = o'.close entry)
    (hp : IgnoresFlag α p) : IgnoresFlag β (p.revise change) := by
  intro fuel s
  rcases hp fuel s with ⟨scheme, hscheme⟩
  simp only [outcome_revise, hscheme]
  cases scheme with
  | failed failure => exact ⟨.failed failure, fun _ => rfl⟩
  | unfinished => exact ⟨.unfinished, fun _ => rfl⟩
  | delivered o =>
      rcases h s o with ⟨o', ho'⟩
      refine ⟨.delivered o', fun entry => ?_⟩
      rw [Outcome.delivered_map, Outcome.delivered_map, Outcome.delivered_map, ho']

theorem fuelwise : Fuelwise (IgnoresFlag : ParserProperty m σ π) where
  never := by
    intro α fuel s
    exact ⟨.unfinished, fun _ => outcome_never⟩
  fuelwise h fuel s := by
    rcases h fuel with ⟨q, hq, same⟩
    rcases hq fuel s with ⟨scheme, hscheme⟩
    refine ⟨scheme, fun entry => ?_⟩
    rw [← hscheme, outcome, outcome, same]

theorem lift (computation : m α) : IgnoresFlag α (.lift computation : Parser m σ π α) := by
  intro fuel s
  simp only [outcome_lift]
  cases Outcome.ofExcept (some <$> ImmediateHost.settle computation) with
  | failed failure => exact ⟨.failed failure, fun _ => rfl⟩
  | unfinished => exact ⟨.unfinished, fun _ => rfl⟩
  | delivered a => exact ⟨.delivered ⟨.ok a s, none⟩, fun _ => rfl⟩

theorem satisfy (accept : τ → Bool) (expected : String) :
    IgnoresFlag τ (.satisfy accept expected : Parser m σ π τ) := by
  refine .of_compute fun s => ?_
  simp only [State.next?_withConsumed]
  cases hnext : s.next? with
  | none => exact ⟨⟨.errorHere _ s, none⟩, fun _ => rfl⟩
  | some next =>
      rcases next with ⟨x, t⟩
      by_cases haccept : accept x = true
      · refine ⟨.fixed (.ok x t), fun _ => ?_⟩
        simp [haccept]
      · refine ⟨⟨.errorHere (expectedMessage expected) s, none⟩, fun _ => ?_⟩
        simp only [haccept]
        rfl

/-- The empty literal hands the flag through, and every other one sets it. -/
theorem literal [BEq τ] (items : List τ) (expected : String) :
    IgnoresFlag Unit (.literal items expected : Parser m σ π Unit) := by
  refine .of_compute fun s => ?_
  cases items with
  | nil => exact ⟨⟨.ok () s, none⟩, fun _ => rfl⟩
  | cons x xs =>
      have same (entry : Bool) :
          State.readAll? (x :: xs) (s.withConsumed entry) = State.readAll? (x :: xs) s := rfl
      simp only [same]
      cases hread : State.readAll? (x :: xs) s with
      | none => exact ⟨⟨.errorHere _ s, none⟩, fun _ => rfl⟩
      | some t => exact ⟨.fixed (.ok () t), fun _ => rfl⟩

theorem eof : IgnoresFlag Unit (.eof : Parser m σ π Unit) := by
  refine .of_compute fun s => ?_
  simp only [State.input_withConsumed]
  by_cases hend : Input.isExhausted s.input = true
  · refine ⟨⟨.ok () s, none⟩, fun _ => ?_⟩
    simp [hend]
  · refine ⟨⟨.errorHere expectedEndMessage s, none⟩, fun _ => ?_⟩
    simp only [hend]
    rfl

/-- If the first part hands the flag through, the second part is entered with what the
sequence was entered with, and otherwise with a fixed flag. -/
theorem andThen {p : Parser m σ π α} {k : α → Parser m σ π β} (hp : IgnoresFlag α p)
    (hk : ∀ a, IgnoresFlag β (k a)) : IgnoresFlag β (p.andThen k) := by
  intro fuel s
  rcases hp fuel s with ⟨scheme, hscheme⟩
  simp only [outcome_andThen, hscheme]
  cases scheme with
  | failed failure => exact ⟨.failed failure, fun _ => rfl⟩
  | unfinished => exact ⟨.unfinished, fun _ => rfl⟩
  | delivered o =>
      rcases o with ⟨reply, flag⟩
      cases reply with
      | error e t => exact ⟨.delivered ⟨.error e t, flag⟩, fun _ => rfl⟩
      | ok a t =>
          rcases hk a fuel t with ⟨next, hnext⟩
          refine ⟨next.map fun o => ⟨o.reply, o.flag.or flag⟩, fun entry => ?_⟩
          simp only [Outcome.delivered_map, Outcome.delivered_bind, OpenReply.close_ok,
            Reply.result_ok, Reply.state_ok, hnext]
          cases next with
          | failed failure => rfl
          | unfinished => rfl
          | delivered o => simp [OpenReply.close, Option.getD_or]

/-- The first branch is entered with the flag cleared in every case. -/
theorem orElse (p : Parser m σ π α) {q : Parser m σ π α} (hq : IgnoresFlag α q) :
    IgnoresFlag α (p.orElse q) := by
  intro fuel s
  simp only [outcome_orElse, State.withConsumed_withConsumed]
  cases p.outcome fuel (s.withConsumed false) with
  | failed failure => exact ⟨.failed failure, fun _ => rfl⟩
  | unfinished => exact ⟨.unfinished, fun _ => rfl⟩
  | delivered reply =>
      by_cases recoverable : reply.isRecoverable = true
      · rcases hq fuel s with ⟨scheme, hscheme⟩
        refine ⟨scheme, fun entry => ?_⟩
        rw [Outcome.delivered_bind, if_pos recoverable, hscheme]
      · refine ⟨.delivered (.fixed reply), fun entry => ?_⟩
        rw [Outcome.delivered_bind, if_neg recoverable, Outcome.delivered_map,
          OpenReply.close_fixed]

/-- Only a repetition without any round hands the flag through: its first round is entered
with the flag cleared, and every later one starts where the one before ended. -/
theorem many (p : Parser m σ π α) : IgnoresFlag (List α) p.many := by
  intro fuel s
  simp only [outcome_many]
  cases fuel with
  | zero => exact ⟨.unfinished, fun _ => rfl⟩
  | succ rounds =>
      simp only [manyFrom_succ, State.withConsumed_withConsumed]
      cases p.outcome (rounds + 1) (s.withConsumed false) with
      | failed failure => exact ⟨.failed failure, fun _ => rfl⟩
      | unfinished => exact ⟨.unfinished, fun _ => rfl⟩
      | delivered reply =>
          rcases OpenReply.nextRound_cases [] s reply with ⟨⟨items, t⟩, next⟩ | ⟨o, done⟩
          · simp only [Outcome.delivered_bind, next]
            refine ⟨(p.manyFrom (rounds + 1) rounds items t).map .fixed, fun entry => ?_⟩
            cases p.manyFrom (rounds + 1) rounds items t with
            | failed failure => rfl
            | unfinished => rfl
            | delivered reply => rfl
          · simp only [Outcome.delivered_bind, done]
            exact ⟨.delivered o, fun _ => rfl⟩

theorem attempt {p : Parser m σ π α} (hp : IgnoresFlag α p) : IgnoresFlag α p.attempt := by
  refine hp.of_revise fun s o => ?_
  rcases o with ⟨reply, flag⟩
  cases reply with
  | ok a t => exact ⟨⟨.ok a t, flag⟩, fun _ => rfl⟩
  | error e t => exact ⟨⟨.error e t, none⟩, fun _ => rfl⟩

theorem lookAhead {p : Parser m σ π α} (hp : IgnoresFlag α p) : IgnoresFlag α p.lookAhead :=
  hp.of_revise fun s o => ⟨⟨⟨o.reply.result, s⟩, none⟩, fun _ => rfl⟩

theorem notFollowedBy {p : Parser m σ π α} (hp : IgnoresFlag α p) :
    IgnoresFlag Unit p.notFollowedBy := by
  refine hp.of_revise fun s o => ?_
  rcases o with ⟨reply, flag⟩
  cases reply with
  | ok a t => exact ⟨⟨.errorHere unexpectedMatchMessage s, none⟩, fun _ => rfl⟩
  | error e t => exact ⟨⟨.ok () s, none⟩, fun _ => rfl⟩

/-- A rejection hands the flag through, whatever was read before it. -/
theorem filterMap {p : Parser m σ π α} (decide : α → Option β) (message : String)
    (hp : IgnoresFlag α p) : IgnoresFlag β (p.filterMap decide message) := by
  refine hp.of_revise fun s o => ?_
  rcases o with ⟨reply, flag⟩
  cases reply with
  | ok a t =>
      cases kept : decide a with
      | some b =>
          exact ⟨⟨.ok b t, flag⟩, fun _ => Reply.select_ok_of_some message _ _ kept⟩
      | none =>
          exact ⟨⟨.errorHere message s, none⟩, fun _ => Reply.select_ok_of_none message _ _ kept⟩
  | error e t => exact ⟨⟨.error e t, flag⟩, fun _ => rfl⟩

theorem mapError {p : Parser m σ π α} (f : State σ π → ParseError π → ParseError π)
    (same : ∀ s entry, f (s.withConsumed entry) = f s) (hp : IgnoresFlag α p) :
    IgnoresFlag α (p.revise fun s reply => reply.mapError (f s)) := by
  refine hp.of_revise fun s o => ⟨⟨o.reply.mapError (f s), o.flag⟩, fun entry => ?_⟩
  rw [same]
  rfl

end IgnoresFlag

/-! ## All constructs -/

/-- Every construct ignores the flag, but for the one that hands the whole state out. -/
theorem closedUnder_ignoresFlag :
    ClosedUnder (.without [.getState]) (IgnoresFlag : ParserProperty m σ π) where
  pure value := .of_compute fun s => ⟨⟨.ok value s, none⟩, fun _ => rfl⟩
  fail message := .of_compute fun s => ⟨⟨.errorHere message s, none⟩, fun _ => rfl⟩
  failAt _ message position :=
    .of_compute fun s => ⟨⟨.error ⟨message, position⟩ s, none⟩, fun _ => rfl⟩
  lift := IgnoresFlag.lift
  getState allowed := by simp at allowed
  putState _ replacement := .of_compute fun _ => ⟨.fixed (.ok () replacement), fun _ => rfl⟩
  position _ := .of_compute fun s => ⟨⟨.ok s.position s, none⟩, fun _ => rfl⟩
  setConsumed consumed _ := .of_compute fun s => ⟨⟨.ok () s, some consumed⟩, fun _ => rfl⟩
  satisfy := IgnoresFlag.satisfy
  literal := IgnoresFlag.literal
  eof := IgnoresFlag.eof
  map f hp := hp.of_revise fun _ o => ⟨⟨o.reply.map f, o.flag⟩, fun _ => rfl⟩
  andThen hp hk := hp.andThen hk
  orElse _ _ hq := .orElse _ hq
  many _ _ := .many _
  notFollowedBy hp := hp.notFollowedBy
  attempt _ hp := hp.attempt
  lookAhead hp := hp.lookAhead
  filterMap decide message hp := hp.filterMap decide message
  mapError _ f hp := hp.mapError (fun _ => f) fun _ _ => rfl
  withMessage message hp := hp.mapError (fun _ e => e.reword message) fun _ _ => rfl
  atStart hp := hp.mapError (fun s e => e.relocate s.position) fun _ _ => rfl
  withSpan hp := hp.of_revise fun s o =>
    ⟨⟨o.reply.map (·, ⟨s.position, o.reply.state.position⟩), o.flag⟩, fun _ => rfl⟩
  recursive _ body := IgnoresFlag.fuelwise.recursive body
  rules _ body i := IgnoresFlag.fuelwise.rules body i

/-- Two runs of a composed parser from states that differ at most in their flags end in the
same way: both in the same failure of the host, both without a reply, or both with replies
that have the same result, the same input and the same position, and whose flags are equal or
each the flag of its own entry. -/
theorem agree_of_same_place {p : Parser m σ π α} (hp : p.Composed (.without [.getState]))
    {s t : State σ π} (input : s.input = t.input) (position : s.position = t.position)
    (fuel : Nat) :
    Outcome.Agree (Reply.AgreeBut s.consumed t.consumed) (p.outcome fuel s)
      (p.outcome fuel t) := by
  rcases hp.induction closedUnder_ignoresFlag fuel s with ⟨scheme, hscheme⟩
  have place : s.withConsumed t.consumed = t := by
    cases s
    cases t
    cases input
    cases position
    rfl
  have left := hscheme s.consumed
  have right := hscheme t.consumed
  rw [State.withConsumed_self] at left
  rw [place] at right
  rw [left, right]
  exact .map scheme fun o => o.agreeBut s.consumed t.consumed

end

/-- A sign, or a plus where there is none. -/
def optionalSign : Parser (Except String) Text LineColumn Char :=
  (item '-').orElse (pure '+')

/-- Without a sign the flag is handed through: both runs succeed in the same place, and each
has the flag it was entered with. -/
theorem agree_of_same_place_optionalSign :
    optionalSign.Composed (.without [.getState]) ∧
      optionalSign.Delivers 1 ⟨⟨['7']⟩, ⟨1, 1⟩, true⟩ (.ok '+' ⟨⟨['7']⟩, ⟨1, 1⟩, true⟩) ∧
      Outcome.Agree (Reply.AgreeBut true false)
        (optionalSign.outcome 1 ⟨⟨['7']⟩, ⟨1, 1⟩, true⟩)
        (optionalSign.outcome 1 ⟨⟨['7']⟩, ⟨1, 1⟩, false⟩) := by
  have composed : optionalSign.Composed (.without [.getState]) :=
    .orElse (by simp) (.item '-') (.pure '+')
  refine ⟨composed, rfl, ?_⟩
  exact agree_of_same_place (s := ⟨⟨['7']⟩, ⟨1, 1⟩, true⟩) (t := ⟨⟨['7']⟩, ⟨1, 1⟩, false⟩)
    composed rfl rfl 1

end Parser

end Descent
