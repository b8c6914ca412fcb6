import Descent.Host.Logged
import Descent.Parser.Repetition
import Descent.Proofs.Host.Iteration
import Descent.Proofs.Parser.Delivery

/-!
# What the runs of a parser log

In the host that keeps a log, a run that does not run out of fuel ends with a reply and with the
entries that were written on the way to it, in order.  For each way to build a parser this file
says exactly what its runs log, in terms of the logs of its parts: what has been written stays
written, whatever becomes of the reply.

Main definitions:

- `Logged.Ends`: a computation ends with these entries and this value.
- `Parser.Logs`: a run ends with these entries and this reply.
- `Round`, `Gathers`: the rounds that a repetition goes through.

Main results:

- Theorem `Logged.ends_bind`: the log of a sequence.
- Theorems `logs_andThen`, `logs_orElse` and `logs_many`: the logs of sequences, choices and
  repetitions.
-/

namespace Descent

variable {σ π ω α β : Type}

/-! ## Computations that keep a log -/

namespace Logged

/-- The computation does not run out of fuel, and ends with these entries and this value. -/
def Ends (x : OptionT (Logged ω) α) (log : List ω) (a : α) : Prop :=
  x.run = ⟨log, some a⟩

theorem ends_pure {a b : α} {log : List ω} :
    Ends (pure a) log b ↔ a = b ∧ log = [] := by
  constructor
  · intro h
    cases h
    exact ⟨rfl, rfl⟩
  · rintro ⟨rfl, rfl⟩
    rfl

theorem not_ends_failure {log : List ω} {a : α} : ¬Ends failure log a :=
  nofun

/-- The log of a sequence is the log of its first part and then that of its second part. -/
theorem ends_bind {x : OptionT (Logged ω) α} {f : α → OptionT (Logged ω) β} {log : List ω}
    {b : β} : Ends (x >>= f) log b ↔
      ∃ a before after, Ends x before a ∧ Ends (f a) after b ∧ log = before ++ after := by
  constructor
  · intro h
    rcases run : x.run with ⟨before, _ | a⟩
    · have ends : (x >>= f).run = ⟨before ++ [], none⟩ := by
        rw [OptionT.run_bind, Option.elimM, run]
        rfl
      cases ends.symm.trans h
    · have ends : (x >>= f).run = ⟨before ++ (f a).run.log, (f a).run.value⟩ := by
        rw [OptionT.run_bind, Option.elimM, run]
        rfl
      rw [Ends, ends] at h
      obtain ⟨rfl, value⟩ := Logged.mk.inj h
      exact ⟨a, before, (f a).run.log, run, congrArg (Logged.mk _) value, rfl⟩
  · rintro ⟨a, before, after, first, second, rfl⟩
    rw [Ends, OptionT.run_bind, Option.elimM, first]
    have joined := congrArg
      (fun y : Logged ω (Option β) => (⟨before ++ y.log, y.value⟩ : Logged ω (Option β))) second
    exact joined

theorem ends_map {f : α → β} {x : OptionT (Logged ω) α} {log : List ω} {b : β} :
    Ends (f <$> x) log b ↔ ∃ a, Ends x log a ∧ f a = b := by
  rw [map_eq_pure_bind, ends_bind]
  constructor
  · rintro ⟨a, before, after, first, second, rfl⟩
    rcases ends_pure.mp second with ⟨rfl, rfl⟩
    rw [List.append_nil]
    exact ⟨a, first, rfl⟩
  · rintro ⟨a, first, rfl⟩
    exact ⟨a, log, [], first, ends_pure.mpr ⟨rfl, rfl⟩, (List.append_nil log).symm⟩

theorem ends_lift {x : Logged ω α} {log : List ω} {a : α} :
    Ends (OptionT.lift x) log a ↔ x = ⟨log, a⟩ := by
  have run : (OptionT.lift x).run = ⟨x.log ++ [], some x.value⟩ := rfl
  rw [Ends, run, List.append_nil]
  constructor
  · intro h
    cases h
    rfl
  · rintro rfl
    rfl

end Logged

/-! ## The logs of parsers -/

namespace Parser

/-- The run of a parser that keeps a log ends with these entries and this reply. -/
def Logs (p : Parser (Logged ω) σ π α) (fuel : Nat) (s : State σ π) (log : List ω)
    (r : Reply σ π α) : Prop :=
  Logged.Ends (p.parse fuel s) log r

variable {fuel : Nat} {s : State σ π} {log : List ω}

theorem logs_compute {f : State σ π → Reply σ π α} {r : Reply σ π α} :
    (⟨fun _ s => Pure.pure (f s)⟩ : Parser (Logged ω) σ π α).Logs fuel s log r ↔
      f s = r ∧ log = [] :=
  Logged.ends_pure

theorem logs_lift {computation : Logged ω α} {r : Reply σ π α} :
    (lift computation : Parser (Logged ω) σ π α).Logs fuel s log r ↔
      log = computation.log ∧ .ok computation.value s = r := by
  refine Logged.ends_map.trans ?_
  constructor
  · rintro ⟨a, ends, rfl⟩
    rcases Logged.ends_lift.mp ends with rfl
    exact ⟨rfl, rfl⟩
  · rintro ⟨rfl, rfl⟩
    exact ⟨computation.value, Logged.ends_lift.mpr rfl, rfl⟩

theorem logs_revise {p : Parser (Logged ω) σ π α}
    {change : State σ π → Reply σ π α → Reply σ π β} {r : Reply σ π β} :
    (p.revise change).Logs fuel s log r ↔ ∃ r', p.Logs fuel s log r' ∧ change s r' = r :=
  Logged.ends_map

/-- A sequence logs what its first part logs, and after a success what its second part logs. -/
theorem logs_andThen {p : Parser (Logged ω) σ π α} {k : α → Parser (Logged ω) σ π β}
    {r : Reply σ π β} :
    (p.andThen k).Logs fuel s log r ↔
      (∃ a t before after, p.Logs fuel s before (.ok a t) ∧ (k a).Logs fuel t after r ∧
        log = before ++ after) ∨
      ∃ e t, p.Logs fuel s log (.error e t) ∧ .error e t = r := by
  refine Logged.ends_bind.trans ?_
  constructor
  · rintro ⟨reply, before, after, first, second, rfl⟩
    cases reply with
    | ok a t => exact .inl ⟨a, t, before, after, first, second, rfl⟩
    | error e t =>
        rcases Logged.ends_pure.mp second with ⟨rfl, rfl⟩
        rw [List.append_nil]
        exact .inr ⟨e, t, first, rfl⟩
  · rintro (⟨a, t, before, after, first, second, rfl⟩ | ⟨e, t, first, rfl⟩)
    · exact ⟨_, before, after, first, second, rfl⟩
    · exact ⟨_, log, [], first, Logged.ends_pure.mpr ⟨rfl, rfl⟩, (List.append_nil log).symm⟩

/-- A choice logs what its first branch logs, and after a recoverable failure also what its second
branch logs. -/
theorem logs_orElse {p q : Parser (Logged ω) σ π α} {r : Reply σ π α} :
    (p.orElse q).Logs fuel s log r ↔
      (p.Logs fuel (s.withConsumed false) log r ∧ r.isRecoverable = false) ∨
      ∃ r' before after, p.Logs fuel (s.withConsumed false) before r' ∧
        r'.isRecoverable = true ∧ q.Logs fuel s after r ∧ log = before ++ after := by
  refine Logged.ends_bind.trans ?_
  constructor
  · rintro ⟨reply, before, after, first, second, rfl⟩
    cases recoverable : reply.isRecoverable with
    | true =>
        rw [recoverable] at second
        exact .inr ⟨reply, before, after, first, recoverable, second, rfl⟩
    | false =>
        rw [recoverable] at second
        rcases Logged.ends_pure.mp second with ⟨rfl, rfl⟩
        rw [List.append_nil]
        exact .inl ⟨first, recoverable⟩
  · rintro (⟨first, kept⟩ | ⟨r', before, after, first, recoverable, second, rfl⟩)
    · refine ⟨r, log, [], first, ?_, (List.append_nil log).symm⟩
      rw [kept]
      exact Logged.ends_pure.mpr ⟨rfl, rfl⟩
    · refine ⟨r', before, after, first, ?_, rfl⟩
      rw [recoverable]
      exact second

end Parser

/-! ## The rounds of a repetition -/

/-- One round of a repetition: the state in which it is the turn of the round, the labels that the
round performs, and its reply. -/
structure Round (σ π ω α : Type) where
  entry : State σ π
  labels : List ω
  reply : Reply σ π α

/-- The rounds that a repetition goes through, with some items gathered before, newest first: each
round but the last lets the repetition go on, and the last one stops it with this reply. -/
inductive Gathers : List α → State σ π → List (Round σ π ω α) → Reply σ π (List α) → Prop where
  | stop {items : List α} {s : State σ π} {labels : List ω} {reply : Reply σ π α}
      {r : Reply σ π (List α)} (stops : reply.nextRound items s = .done r) :
      Gathers items s [⟨s, labels, reply⟩] r
  | next {items items' : List α} {s t : State σ π} {labels : List ω} {reply : Reply σ π α}
      {rounds : List (Round σ π ω α)} {r : Reply σ π (List α)}
      (goesOn : reply.nextRound items s = .next (items', t))
      (rest : Gathers items' t rounds r) : Gathers items s (⟨s, labels, reply⟩ :: rounds) r

namespace Parser

variable {fuel : Nat} {s : State σ π}

/-- A loop of at most so many rounds ends when its rounds gather its reply, and logs what they
log. -/
theorem ends_loop_round {p : Parser (Logged ω) σ π α} {limit : Nat} {items : List α}
    {log : List ω} {r : Reply σ π (List α)} :
    Logged.Ends (Host.loop limit (p.round fuel) (items, s)) log r ↔
      ∃ rounds : List (Round σ π ω α), rounds.length ≤ limit ∧
        (∀ x ∈ rounds, p.Logs fuel (x.entry.withConsumed false) x.labels x.reply) ∧
        Gathers items s rounds r ∧ log = rounds.flatMap Round.labels := by
  induction limit generalizing items s log with
  | zero =>
      rw [Host.loop_zero]
      refine ⟨fun h => (Logged.not_ends_failure h).elim, ?_⟩
      rintro ⟨rounds, none, -, gathers, -⟩
      cases gathers with
      | stop stops => cases none
      | next goesOn rest => cases none
  | succ limit ih =>
      rw [Host.loop_succ, Logged.ends_bind]
      constructor
      · rintro ⟨flow, before, after, round, rest, rfl⟩
        rcases Logged.ends_map.mp round with ⟨reply, logs, rfl⟩
        cases decision : reply.nextRound items s with
        | next seed =>
            rw [decision] at rest
            rcases ih.mp rest with ⟨rounds, few, each, gathers, rfl⟩
            refine ⟨⟨s, before, reply⟩ :: rounds, Nat.succ_le_succ few, ?_, ?_, rfl⟩
            · exact List.forall_mem_cons.mpr ⟨logs, each⟩
            · exact .next decision gathers
        | done result =>
            rw [decision] at rest
            rcases Logged.ends_pure.mp rest with ⟨rfl, rfl⟩
            refine ⟨[⟨s, before, reply⟩], by simp, ?_, .stop decision, rfl⟩
            exact List.forall_mem_singleton.mpr logs
      · rintro ⟨rounds, few, each, gathers, rfl⟩
        cases gathers with
        | stop stops =>
            have logs := List.forall_mem_singleton.mp each
            refine ⟨_, _, [], Logged.ends_map.mpr ⟨_, logs, rfl⟩, ?_, rfl⟩
            rw [stops]
            exact Logged.ends_pure.mpr ⟨rfl, rfl⟩
        | next goesOn rest =>
            rcases List.forall_mem_cons.mp each with ⟨logs, each⟩
            refine ⟨_, _, _, Logged.ends_map.mpr ⟨_, logs, rfl⟩, ?_, rfl⟩
            rw [goesOn]
            exact ih.mpr ⟨_, Nat.le_of_succ_le_succ few, each, rest, rfl⟩

/-- A repetition logs what its rounds log, one after the other. -/
theorem logs_many {p : Parser (Logged ω) σ π α} {log : List ω} {r : Reply σ π (List α)} :
    p.many.Logs fuel s log r ↔
      ∃ rounds : List (Round σ π ω α), rounds.length ≤ fuel ∧
        (∀ x ∈ rounds, p.Logs fuel (x.entry.withConsumed false) x.labels x.reply) ∧
        Gathers [] s rounds r ∧ log = rounds.flatMap Round.labels :=
  ends_loop_round

end Parser

end Descent
