import Descent.Parser.Repetition
import Descent.Proofs.Parser.Delivery

/-!
# The rounds of a repetition

A repetition runs its parser again and again, each time with the flag cleared.  This file
takes such a run apart: rounds that succeeded after reading, whose values are collected, and
one last round that stops the repetition in one of three ways.

Main definitions:

- `Parser.Collects`: rounds that succeeded one after the other, with their values in order.
- `Parser.Stops`: what the last round makes of the repetition.
- `Parser.manyFrom`: the repetition with some values collected already.

Main results:

- Theorem `delivers_many`: a reply of a repetition is the stop of some collected rounds.
- Theorem `Collects.outcome_many`: after collected rounds the repetition goes on behind them.
- Theorem `delivers_many_iff`: collected rounds and a stop are all that there is to a reply.
-/

namespace Descent.Parser

variable {m : Type → Type} {σ π α ε : Type} [Host m] [ImmediateHost m ε]

/-! ## Rounds that are collected -/

/-- From the state `s`, rounds that each succeeded after reading gave these values, and the
next round starts from the last state. -/
inductive Collects (p : Parser m σ π α) (fuel : Nat) (s : State σ π) :
    List α → State σ π → Prop where
  | start : Collects p fuel s [] s
  | round {values : List α} {u t : State σ π} {a : α} (before : Collects p fuel s values u)
      (delivers : p.Delivers fuel (u.withConsumed false) (.ok a t))
      (consumed : t.consumed = true) : Collects p fuel s (values ++ [a]) t

/-- The round that starts from `u` stops the repetition, with the given values collected. -/
inductive Stops (p : Parser m σ π α) (fuel : Nat) (values : List α) (u : State σ π) :
    Reply σ π (List α) → Prop where
  | finished {e : ParseError π} {t : State σ π}
      (delivers : p.Delivers fuel (u.withConsumed false) (.error e t))
      (clear : t.consumed = false) : Stops p fuel values u (.ok values u)
  | committed {e : ParseError π} {t : State σ π}
      (delivers : p.Delivers fuel (u.withConsumed false) (.error e t))
      (consumed : t.consumed = true) : Stops p fuel values u (.error e t)
  | empty {a : α} {t : State σ π}
      (delivers : p.Delivers fuel (u.withConsumed false) (.ok a t))
      (clear : t.consumed = false) :
      Stops p fuel values u (.errorHere emptyIterationMessage t)

/-- A repetition succeeds with what was collected, where a round began that failed without
reading. -/
theorem Stops.ok_cases {p : Parser m σ π α} {fuel : Nat} {values items : List α}
    {u t : State σ π} (stops : p.Stops fuel values u (.ok items t)) :
    items = values ∧ t = u ∧
      ∃ e t', p.Delivers fuel (u.withConsumed false) (.error e t') ∧ t'.consumed = false := by
  generalize reply : Reply.ok items t = r at stops
  cases stops with
  | finished delivers clear =>
      obtain ⟨rfl, rfl⟩ := Reply.ok_inj.mp reply
      exact ⟨rfl, rfl, _, _, delivers, clear⟩
  | committed delivers consumed => simp at reply
  | empty delivers clear => simp [Reply.errorHere] at reply

/-- A repetition fails with the error and the state of a round that failed after reading, or with
its own error in the state of a round that succeeded without reading. -/
theorem Stops.error_cases {p : Parser m σ π α} {fuel : Nat} {values : List α}
    {u t : State σ π} {e : ParseError π} (stops : p.Stops fuel values u (.error e t)) :
    (p.Delivers fuel (u.withConsumed false) (.error e t) ∧ t.consumed = true) ∨
      ∃ a, p.Delivers fuel (u.withConsumed false) (.ok a t) ∧ t.consumed = false ∧
        e = ⟨emptyIterationMessage, t.position⟩ := by
  generalize reply : Reply.error e t = r at stops
  cases stops with
  | finished delivers clear => cases reply
  | committed delivers consumed =>
      obtain ⟨rfl, rfl⟩ := Reply.error_inj.mp reply
      exact .inl ⟨delivers, consumed⟩
  | empty delivers clear =>
      obtain ⟨rfl, rfl⟩ := Reply.error_inj.mp reply
      exact .inr ⟨_, delivers, clear, rfl⟩

/-- Behind collected rounds the flag is set. -/
theorem Collects.consumed_of_ne_nil {p : Parser m σ π α} {fuel : Nat} {s u : State σ π}
    {values : List α} (h : p.Collects fuel s values u) (some : values ≠ []) :
    u.consumed = true := by
  cases h with
  | start => exact (some rfl).elim
  | round _ _ consumed => exact consumed

/-! ## The loop -/

/-- A repetition goes on only from a round that succeeded after reading. -/
theorem nextRound_eq_next {items : List α} {u : State σ π} {r : Reply σ π α}
    {seed : List α × State σ π} (h : r.nextRound items u = .next seed) :
    ∃ a t, r = .ok a t ∧ t.consumed = true ∧ (a :: items, t) = seed := by
  cases r with
  | ok a t =>
      cases flag : t.consumed with
      | true =>
          rw [Reply.nextRound_ok_of_consumed items u a flag] at h
          exact ⟨a, t, rfl, flag, Flow.next.inj h⟩
      | false =>
          rw [Reply.nextRound_ok_of_not_consumed items u a flag] at h
          cases h
  | error e t =>
      cases flag : t.consumed with
      | true =>
          rw [Reply.nextRound_error_of_consumed items u e flag] at h
          cases h
      | false =>
          rw [Reply.nextRound_error_of_not_consumed items u e flag] at h
          cases h

/-- A repetition succeeds only at a round that failed without reading, with what was collected
before. -/
theorem nextRound_eq_done_ok {items values : List α} {u v : State σ π} {r : Reply σ π α}
    (h : r.nextRound items u = .done (.ok values v)) :
    (∃ e t, r = .error e t ∧ t.consumed = false) ∧ values = items.reverse ∧ v = u := by
  cases r with
  | ok a t =>
      cases flag : t.consumed with
      | true =>
          rw [Reply.nextRound_ok_of_consumed items u a flag] at h
          cases h
      | false =>
          rw [Reply.nextRound_ok_of_not_consumed items u a flag] at h
          cases h
  | error e t =>
      cases flag : t.consumed with
      | true =>
          rw [Reply.nextRound_error_of_consumed items u e flag] at h
          cases h
      | false =>
          rw [Reply.nextRound_error_of_not_consumed items u e flag] at h
          cases h
          exact ⟨⟨e, t, rfl, flag⟩, rfl, rfl⟩

/-- A round is a run of the parser with the flag cleared. -/
theorem outcome_round (p : Parser m σ π α) (fuel : Nat) (items : List α) (u : State σ π) :
    Host.outcome (p.round fuel (items, u)) =
      (p.outcome fuel (u.withConsumed false)).map (Reply.nextRound items u) :=
  Host.outcome_map _ _

/-- A repetition for at most the given number of rounds, with the given items collected,
newest first. -/
def manyFrom (p : Parser m σ π α) (fuel rounds : Nat) (items : List α) (u : State σ π) :
    Outcome ε (Reply σ π (List α)) :=
  Outcome.loop rounds (fun seed => Host.outcome (p.round fuel seed)) (items, u)

theorem outcome_many (p : Parser m σ π α) (fuel : Nat) (s : State σ π) :
    p.many.outcome fuel s = p.manyFrom fuel fuel [] s :=
  Host.outcome_loop fuel (p.round fuel) ([], s)

@[simp]
theorem manyFrom_zero (p : Parser m σ π α) (fuel : Nat) (items : List α) (u : State σ π) :
    p.manyFrom fuel 0 items u = .unfinished :=
  rfl

/-- One round decides how a repetition goes on. -/
theorem manyFrom_succ (p : Parser m σ π α) (fuel rounds : Nat) (items : List α)
    (u : State σ π) :
    p.manyFrom fuel (rounds + 1) items u =
      (p.outcome fuel (u.withConsumed false)).bind fun reply =>
        match reply.nextRound items u with
        | .next (items, t) => p.manyFrom fuel rounds items t
        | .done reply => .delivered reply := by
  rw [manyFrom, Outcome.loop_succ, outcome_round]
  cases p.outcome fuel (u.withConsumed false) with
  | failed failure => rfl
  | unfinished => rfl
  | delivered reply =>
      simp only [Outcome.map, Outcome.delivered_bind]
      cases reply.nextRound items u with
      | next seed => rfl
      | done reply => rfl

/-- A round that succeeded after reading is collected. -/
theorem manyFrom_succ_of_consumed {p : Parser m σ π α} {fuel rounds : Nat} {items : List α}
    {u t : State σ π} {a : α} (h : p.Delivers fuel (u.withConsumed false) (.ok a t))
    (consumed : t.consumed = true) :
    p.manyFrom fuel (rounds + 1) items u = p.manyFrom fuel rounds (a :: items) t := by
  rw [manyFrom_succ, h, Outcome.delivered_bind, Reply.nextRound_ok_of_consumed items u a consumed]

/-- After collected rounds the repetition goes on behind them. -/
theorem Collects.outcome_many {p : Parser m σ π α} {fuel : Nat} {s u : State σ π}
    {values : List α} (h : p.Collects fuel s values u) (enough : values.length ≤ fuel) :
    p.many.outcome fuel s = p.manyFrom fuel (fuel - values.length) values.reverse u := by
  induction h with
  | start => exact Parser.outcome_many p fuel s
  | round before delivers consumed ih =>
      rename_i values u t a
      rw [List.length_append, List.length_singleton] at enough ⊢
      have rounds : fuel - values.length = fuel - (values.length + 1) + 1 := by omega
      rw [ih (by omega), rounds, manyFrom_succ_of_consumed delivers consumed]
      simp

/-! ## Replies -/

/-- A round either is collected or stops the repetition. -/
theorem round_cases {p : Parser m σ π α} {fuel rounds : Nat} {items : List α} {u : State σ π}
    {r : Reply σ π (List α)} (h : p.manyFrom fuel (rounds + 1) items u = .delivered r) :
    (∃ a t, p.Delivers fuel (u.withConsumed false) (.ok a t) ∧ t.consumed = true ∧
      p.manyFrom fuel rounds (a :: items) t = .delivered r) ∨
      p.Stops fuel items.reverse u r := by
  rw [manyFrom_succ, Outcome.bind_eq_delivered] at h
  rcases h with ⟨reply, delivers, next⟩
  cases reply with
  | ok a t =>
      cases flag : t.consumed with
      | true =>
          rw [Reply.nextRound_ok_of_consumed items u a flag] at next
          exact .inl ⟨a, t, delivers, flag, next⟩
      | false =>
          rw [Reply.nextRound_ok_of_not_consumed items u a flag] at next
          rcases Outcome.delivered.inj next with rfl
          exact .inr (.empty delivers flag)
  | error e t =>
      cases flag : t.consumed with
      | true =>
          rw [Reply.nextRound_error_of_consumed items u e flag] at next
          rcases Outcome.delivered.inj next with rfl
          exact .inr (.committed delivers flag)
      | false =>
          rw [Reply.nextRound_error_of_not_consumed items u e flag] at next
          rcases Outcome.delivered.inj next with rfl
          exact .inr (.finished delivers flag)

/-- The reply of a repetition is what its last round makes of the values collected before. -/
theorem delivers_many {p : Parser m σ π α} {fuel : Nat} {s : State σ π}
    {r : Reply σ π (List α)} (h : p.many.Delivers fuel s r) :
    ∃ values u, p.Collects fuel s values u ∧ p.Stops fuel values u r := by
  have tail : ∀ rounds items u, p.Collects fuel s items.reverse u →
      p.manyFrom fuel rounds items u = .delivered r →
      ∃ values u, p.Collects fuel s values u ∧ p.Stops fuel values u r := by
    intro rounds
    induction rounds with
    | zero =>
        intro items u _ h
        cases h
    | succ rounds ih =>
        intro items u before h
        rcases round_cases h with ⟨a, t, delivers, consumed, rest⟩ | stops
        · refine ih (a :: items) t ?_ rest
          rw [List.reverse_cons]
          exact before.round delivers consumed
        · exact ⟨items.reverse, u, before, stops⟩
  exact tail fuel [] s .start (p.outcome_many fuel s ▸ h)

/-- The round that stops a repetition decides its reply. -/
theorem Stops.manyFrom_succ {p : Parser m σ π α} {fuel : Nat} {values : List α}
    {u : State σ π} {r : Reply σ π (List α)} (stops : p.Stops fuel values u r) (rounds : Nat) :
    p.manyFrom fuel (rounds + 1) values.reverse u = .delivered r := by
  rw [Parser.manyFrom_succ]
  cases stops with
  | finished delivers clear =>
      rw [delivers, Outcome.delivered_bind, Reply.nextRound_error_of_not_consumed _ u _ clear]
      simp
  | committed delivers consumed =>
      rw [delivers, Outcome.delivered_bind, Reply.nextRound_error_of_consumed _ u _ consumed]
  | empty delivers clear =>
      rw [delivers, Outcome.delivered_bind, Reply.nextRound_ok_of_not_consumed _ u _ clear]

/-- A repetition that ends has fuel for its collected rounds, and for one more. -/
theorem Collects.length_lt {p : Parser m σ π α} {fuel : Nat} {s u : State σ π}
    {values : List α} {r : Reply σ π (List α)} (h : p.Collects fuel s values u)
    (ends : p.many.Delivers fuel s r) : values.length < fuel := by
  -- With fuel for the collected rounds only, the repetition would be unfinished behind them.
  have more {values : List α} {u : State σ π} (h : p.Collects fuel s values u)
      (enough : values.length ≤ fuel) : values.length < fuel := by
    refine Nat.lt_of_le_of_ne enough fun last => ?_
    have behind := h.outcome_many enough
    rw [last, Nat.sub_self, manyFrom_zero, ends] at behind
    cases behind
  induction h with
  | start => exact more .start (Nat.zero_le fuel)
  | round before delivers consumed ih =>
      refine more (before.round delivers consumed) ?_
      rw [List.length_append, List.length_singleton]
      omega

/-- A repetition replies exactly what its last round makes of the values collected before, and it
has fuel for all of these rounds. -/
theorem delivers_many_iff {p : Parser m σ π α} {fuel : Nat} {s : State σ π}
    {r : Reply σ π (List α)} :
    p.many.Delivers fuel s r ↔
      ∃ values u, values.length < fuel ∧ p.Collects fuel s values u ∧
        p.Stops fuel values u r := by
  constructor
  · intro ends
    rcases delivers_many ends with ⟨values, u, collects, stops⟩
    exact ⟨values, u, collects.length_lt ends, collects, stops⟩
  · rintro ⟨values, u, enough, collects, stops⟩
    have rounds : fuel - values.length = fuel - (values.length + 1) + 1 := by omega
    rw [Delivers, collects.outcome_many (Nat.le_of_lt enough), rounds]
    exact stops.manyFrom_succ _

end Descent.Parser
