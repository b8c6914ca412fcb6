import Descent.Proofs.Engine.FailedRepetition

/-!
# Repetitions that backtrack

An attempt changes nothing but the flag of a failure, which becomes the flag that the attempt was
entered with.  In a round of a repetition that flag is clear.  So a repetition of attempts collects
the same rounds as the repetition of the parser itself, and the two part only at a round that fails
after reading: the one repetition fails with that round, and the other one stops in the state that
the round began in.

Main results:

- Theorem `collects_attempt_iff`: the two repetitions collect the same rounds.
- Theorem `stops_attempt_iff`: which rounds stop a repetition of attempts.
- Theorem `many_attempt_backtracks`: the replies of the two repetitions, side by side.
-/

namespace Descent.Parser

variable {m : Type → Type} {σ π α ε : Type}

section

variable [Host m] [ImmediateHost m ε] {p : Parser m σ π α} {fuel : Nat} {s u : State σ π}
  {values : List α}

/-! ## Rounds of attempts -/

/-- An attempt succeeds where its parser does, and as it does. -/
theorem delivers_attempt_ok {a : α} {t : State σ π} :
    p.attempt.Delivers fuel s (.ok a t) ↔ p.Delivers fuel s (.ok a t) := by
  simp [delivers_attempt]

/-- An attempt fails where its parser does, with the flag that it was entered with. -/
theorem delivers_attempt_error {e : ParseError π} {t : State σ π} :
    p.attempt.Delivers fuel s (.error e t) ↔
      ∃ t', p.Delivers fuel s (.error e t') ∧ t'.withConsumed s.consumed = t := by
  rw [delivers_attempt]
  constructor
  · rintro (⟨a, t', -, reply⟩ | ⟨f, t', fails, reply⟩)
    · simp at reply
    · obtain ⟨rfl, rfl⟩ := Reply.error_inj.mp reply
      exact ⟨t', fails, rfl⟩
  · rintro ⟨t', fails, rfl⟩
    exact .inr ⟨e, t', fails, rfl⟩

/-- Attempts are collected in the rounds in which their parser is. -/
theorem collects_attempt_iff :
    p.attempt.Collects fuel s values u ↔ p.Collects fuel s values u := by
  constructor
  · intro h
    induction h with
    | start => exact .start
    | round before delivers consumed ih =>
        have succeeds := delivers_attempt_ok.mp delivers
        exact ih.round succeeds consumed
  · intro h
    induction h with
    | start => exact .start
    | round before delivers consumed ih =>
        have succeeds := delivers_attempt_ok.mpr delivers
        exact ih.round succeeds consumed

/-- A repetition of attempts ends where its parser fails, in whatever way, and it fails where its
parser succeeds without reading. -/
theorem stops_attempt_iff {r : Reply σ π (List α)} :
    p.attempt.Stops fuel values u r ↔
      (∃ e t, p.Delivers fuel (u.withConsumed false) (.error e t) ∧ .ok values u = r) ∨
        ∃ a t, p.Delivers fuel (u.withConsumed false) (.ok a t) ∧ t.consumed = false ∧
          .errorHere emptyIterationMessage t = r := by
  constructor
  · intro stops
    cases stops with
    | finished delivers clear =>
        rcases delivers_attempt_error.mp delivers with ⟨t', fails, -⟩
        exact .inl ⟨_, t', fails, rfl⟩
    | committed delivers consumed =>
        -- A failed attempt has the flag of its entry, and a round is entered with a clear one.
        rcases delivers_attempt_error.mp delivers with ⟨t', -, rfl⟩
        simp at consumed
    | empty delivers clear =>
        have succeeds := delivers_attempt_ok.mp delivers
        exact .inr ⟨_, _, succeeds, clear, rfl⟩
  · rintro (⟨e, t, fails, rfl⟩ | ⟨a, t, succeeds, clear, rfl⟩)
    · have attempted : p.attempt.Delivers fuel (u.withConsumed false)
          (.error e (t.withConsumed false)) := delivers_attempt_error.mpr ⟨t, fails, rfl⟩
      exact .finished attempted (by simp)
    · have attempted := delivers_attempt_ok.mpr succeeds
      exact .empty attempted clear

/-- A round stops the repetition of attempts exactly if it stops the repetition of the parser. -/
theorem exists_stops_attempt_iff :
    (∃ r, p.attempt.Stops fuel values u r) ↔ ∃ r, p.Stops fuel values u r := by
  constructor
  · rintro ⟨r, stops⟩
    rcases stops_attempt_iff.mp stops with ⟨e, t, fails, -⟩ | ⟨a, t, succeeds, clear, -⟩
    · by_cases flag : t.consumed = true
      · exact ⟨_, .committed fails flag⟩
      · have clear : t.consumed = false := by simpa using flag
        exact ⟨_, .finished fails clear⟩
    · exact ⟨_, .empty succeeds clear⟩
  · rintro ⟨r, stops⟩
    cases stops with
    | finished fails clear => exact ⟨_, stops_attempt_iff.mpr (.inl ⟨_, _, fails, rfl⟩)⟩
    | committed fails consumed => exact ⟨_, stops_attempt_iff.mpr (.inl ⟨_, _, fails, rfl⟩)⟩
    | empty succeeds clear =>
        exact ⟨_, stops_attempt_iff.mpr (.inr ⟨_, _, succeeds, clear, rfl⟩)⟩

/-! ## The two repetitions -/

/-- Without a collected round the repetition is where it began. -/
theorem Collects.eq_of_nil (h : p.Collects fuel s [] u) : u = s := by
  generalize nothing : ([] : List α) = collected at h
  cases h with
  | start => rfl
  | round before delivers consumed => simp at nothing

/-- The replies of a repetition of attempts, in terms of the rounds of the parser. -/
theorem delivers_many_attempt_iff {r : Reply σ π (List α)} :
    p.attempt.many.Delivers fuel s r ↔
      ∃ values u, values.length < fuel ∧ p.Collects fuel s values u ∧
        p.attempt.Stops fuel values u r := by
  rw [delivers_many_iff]
  simp only [collects_attempt_iff]

/-- The repetition of attempts ends exactly if the repetition of the parser does. -/
theorem exists_delivers_many_attempt_iff :
    (∃ r, p.attempt.many.Delivers fuel s r) ↔ ∃ r, p.many.Delivers fuel s r := by
  constructor
  · rintro ⟨r, ends⟩
    rcases delivers_many_attempt_iff.mp ends with ⟨values, u, enough, collects, stops⟩
    rcases exists_stops_attempt_iff.mp ⟨r, stops⟩ with ⟨r', stops'⟩
    exact ⟨r', delivers_many_iff.mpr ⟨values, u, enough, collects, stops'⟩⟩
  · rintro ⟨r, ends⟩
    rcases delivers_many_iff.mp ends with ⟨values, u, enough, collects, stops⟩
    rcases exists_stops_attempt_iff.mpr ⟨r, stops⟩ with ⟨r', stops'⟩
    exact ⟨r', delivers_many_attempt_iff.mpr ⟨values, u, enough, collects, stops'⟩⟩

/-- The repetition of attempts fails only with the error of an empty round. -/
theorem error_eq_of_many_attempt {e : ParseError π} {t : State σ π}
    (h : p.attempt.many.Delivers fuel s (.error e t)) :
    e = ⟨emptyIterationMessage, t.position⟩ := by
  rcases delivers_many_attempt_iff.mp h with ⟨values, u, -, -, stops⟩
  rcases stops_attempt_iff.mp stops with ⟨f, t', -, reply⟩ | ⟨a, t', -, -, reply⟩
  · simp at reply
  · obtain ⟨rfl, rfl⟩ := Reply.error_inj.mp reply
    rfl

/-- Where collected rounds are followed by one that fails, the repetition of attempts gives what
was collected, in the state that this round began in. -/
theorem Collects.delivers_many_attempt (h : p.Collects fuel s values u)
    (enough : values.length < fuel) {e : ParseError π} {t : State σ π}
    (fails : p.Delivers fuel (u.withConsumed false) (.error e t)) :
    p.attempt.many.Delivers fuel s (.ok values u) := by
  have stops : p.attempt.Stops fuel values u (.ok values u) :=
    stops_attempt_iff.mpr (.inl ⟨e, t, fails, rfl⟩)
  exact delivers_many_attempt_iff.mpr ⟨values, u, enough, h, stops⟩

/-- A success of the repetition of the parser is one of the repetition of attempts. -/
theorem many_attempt_of_ok {t : State σ π} (h : p.many.Delivers fuel s (.ok values t)) :
    p.attempt.many.Delivers fuel s (.ok values t) := by
  rcases delivers_many_iff.mp h with ⟨collected, u, enough, collects, stops⟩
  obtain ⟨rfl, rfl, e, t', fails, -⟩ := stops.ok_cases
  exact collects.delivers_many_attempt enough fails

/-- A repetition of the parser fails at a round that failed after reading, or else the repetition
of attempts fails with it. -/
theorem many_attempt_of_error {e : ParseError π} {t : State σ π}
    (h : p.many.Delivers fuel s (.error e t)) :
    (∃ values u, p.Collects fuel s values u ∧
        p.Delivers fuel (u.withConsumed false) (.error e t) ∧ t.consumed = true) ∨
      p.attempt.many.Delivers fuel s (.error e t) := by
  rcases delivers_many_iff.mp h with ⟨values, u, enough, collects, stops⟩
  rcases stops.error_cases with ⟨fails, consumed⟩ | ⟨a, succeeds, clear, rfl⟩
  · exact .inl ⟨values, u, collects, fails, consumed⟩
  · have stops' : p.attempt.Stops fuel values u (.errorHere emptyIterationMessage t) :=
      stops_attempt_iff.mpr (.inr ⟨a, t, succeeds, clear, rfl⟩)
    exact .inr (delivers_many_attempt_iff.mpr ⟨values, u, enough, collects, stops'⟩)

/-- A round that fails after reading fails the repetition of the parser. -/
theorem Collects.delivers_many_of_committed (h : p.Collects fuel s values u)
    (enough : values.length < fuel) {e : ParseError π} {t : State σ π}
    (fails : p.Delivers fuel (u.withConsumed false) (.error e t)) (consumed : t.consumed = true) :
    p.many.Delivers fuel s (.error e t) :=
  delivers_many_iff.mpr ⟨values, u, enough, h, .committed fails consumed⟩

/-- A repetition of attempts ends whenever the repetition of the parser does, and it fails only
with the error of an empty round.  Where the repetition of the parser succeeds, the two replies are
the same.  Where it ends with a round that fails after reading, it fails with that round, and the
repetition of attempts succeeds with the values that were collected before that round, in the state
that the round began in; if there are none, this is the very state that it was entered with.  Every
other failure of the repetition of the parser is the reply of the repetition of attempts too. -/
theorem many_attempt_backtracks (p : Parser m σ π α) (fuel : Nat) (s : State σ π) :
    ((∃ r, p.attempt.many.Delivers fuel s r) ↔ ∃ r, p.many.Delivers fuel s r) ∧
      (∀ e t, p.attempt.many.Delivers fuel s (.error e t) →
        e = ⟨"many: parser accepted empty input", t.position⟩) ∧
      (∀ values t, p.many.Delivers fuel s (.ok values t) →
        p.attempt.many.Delivers fuel s (.ok values t)) ∧
      (∀ values u e t, (∃ r, p.many.Delivers fuel s r) → p.Collects fuel s values u →
        p.Delivers fuel (u.withConsumed false) (.error e t) → t.consumed = true →
        p.many.Delivers fuel s (.error e t) ∧ p.attempt.many.Delivers fuel s (.ok values u) ∧
          (values = [] → u = s)) ∧
      ∀ e t, p.many.Delivers fuel s (.error e t) →
        (∃ values u, p.Collects fuel s values u ∧
          p.Delivers fuel (u.withConsumed false) (.error e t) ∧ t.consumed = true) ∨
        p.attempt.many.Delivers fuel s (.error e t) := by
  refine ⟨exists_delivers_many_attempt_iff, fun e t => error_eq_of_many_attempt,
    fun values t => many_attempt_of_ok, ?_, fun e t => many_attempt_of_error⟩
  rintro values u e t ⟨r, ends⟩ collects fails consumed
  have enough : values.length < fuel := collects.length_lt ends
  refine ⟨collects.delivers_many_of_committed enough fails consumed,
    collects.delivers_many_attempt enough fails, ?_⟩
  rintro rfl
  exact collects.eq_of_nil

end

/-- Two pairs are collected, and the third one fails behind its first letter: the repetition of
attempts goes back to that letter.  Where the first round fails behind a letter, it gives nothing,
and the state is untouched, with its flag set.  Before another letter both repetitions succeed. -/
theorem many_attempt_backtracks_letterPair :
    (letterPair.many.Delivers 3 ⟨⟨['a', 'b', 'a', 'b', 'a']⟩, ⟨1, 1⟩, false⟩
        (.error ⟨unexpectedEndMessage (Quoted.quoted 'b'), ⟨1, 6⟩⟩ ⟨⟨[]⟩, ⟨1, 6⟩, true⟩) ∧
      letterPair.attempt.many.Delivers 3 ⟨⟨['a', 'b', 'a', 'b', 'a']⟩, ⟨1, 1⟩, false⟩
        (.ok ['b', 'b'] ⟨⟨['a']⟩, ⟨1, 5⟩, true⟩)) ∧
    letterPair.attempt.many.Delivers 1 ⟨⟨['a', 'c']⟩, ⟨1, 1⟩, true⟩
      (.ok [] ⟨⟨['a', 'c']⟩, ⟨1, 1⟩, true⟩) ∧
    letterPair.many.Delivers 2 ⟨⟨['a', 'b', 'c']⟩, ⟨1, 1⟩, false⟩
      (.ok ['b'] ⟨⟨['c']⟩, ⟨1, 3⟩, true⟩) ∧
    letterPair.attempt.many.Delivers 2 ⟨⟨['a', 'b', 'c']⟩, ⟨1, 1⟩, false⟩
      (.ok ['b'] ⟨⟨['c']⟩, ⟨1, 3⟩, true⟩) := by
  have collects : letterPair.Collects 3 ⟨⟨['a', 'b', 'a', 'b', 'a']⟩, ⟨1, 1⟩, false⟩
      (([] ++ ['b']) ++ ['b']) ⟨⟨['a']⟩, ⟨1, 5⟩, true⟩ :=
    .round (.round .start rfl rfl) rfl rfl
  have backtracks := (many_attempt_backtracks letterPair 3
    ⟨⟨['a', 'b', 'a', 'b', 'a']⟩, ⟨1, 1⟩, false⟩).2.2.2.1
  have third := backtracks _ _ _ _ ⟨_, rfl⟩ collects rfl rfl
  have untouched := (many_attempt_backtracks letterPair 1
    ⟨⟨['a', 'c']⟩, ⟨1, 1⟩, true⟩).2.2.2.1
  have first := untouched _ _ _ _ ⟨_, rfl⟩ .start rfl rfl
  have succeeds : letterPair.many.Delivers 2 ⟨⟨['a', 'b', 'c']⟩, ⟨1, 1⟩, false⟩
      (.ok ['b'] ⟨⟨['c']⟩, ⟨1, 3⟩, true⟩) := rfl
  have same := (many_attempt_backtracks letterPair 2
    ⟨⟨['a', 'b', 'c']⟩, ⟨1, 1⟩, false⟩).2.2.1
  exact ⟨⟨third.1, third.2.1⟩, first.2.1, succeeds, same _ _ succeeds⟩

end Descent.Parser
