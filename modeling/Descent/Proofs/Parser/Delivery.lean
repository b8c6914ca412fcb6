import Descent.Parser.Access
import Descent.Parser.Choice
import Descent.Parser.Lookahead
import Descent.Parser.Recursion
import Descent.Parser.Report
import Descent.Parser.Selection
import Descent.Parser.Token
import Descent.Proofs.Host.Outcome

/-!
# What the runs of a parser deliver

In a host that settles at once, a run of a parser fails in the host, runs out of fuel, or
delivers a reply.  For each way to build a parser this file says exactly which replies its
runs deliver, in terms of the replies of its parts, so that later proofs never open a parser.

Main definitions:

- `Parser.outcome`: how a run ends.
- `Parser.Delivers`: a run ends with a given reply.
- `Parser.Stays`: runs end in the state that they began in.

Main results:

- Theorems `delivers_andThen`, `delivers_orElse` and `delivers_revise`: the replies of
  sequences, choices and wrappers.
- Theorems `outcome_orElse_of_consumed` and `outcome_orElse_of_clear`: which branch a choice
  that failed once is left to.
-/

namespace Descent

universe u

variable {m : Type → Type} {σ τ π α β ε : Type}

/-! ## Replies by their results -/

/-- A reply is either a value or an error, with the state that the run ended in. -/
@[elab_as_elim, cases_eliminator]
def Reply.okOrError {motive : Reply σ π α → Sort u}
    (ok : ∀ value state, motive (.ok value state))
    (error : ∀ failure state, motive (.error failure state)) :
    ∀ reply, motive reply
  | ⟨.ok value, state⟩ => ok value state
  | ⟨.error failure, state⟩ => error failure state

@[simp]
theorem Reply.ok_inj {a b : α} {s t : State σ π} :
    Reply.ok a s = Reply.ok b t ↔ a = b ∧ s = t := by
  simp [Reply.ok]

@[simp]
theorem Reply.error_inj {e f : ParseError π} {s t : State σ π} :
    (Reply.error e s : Reply σ π α) = Reply.error f t ↔ e = f ∧ s = t := by
  simp [Reply.error]

@[simp]
theorem Reply.ok_ne_error {a : α} {e : ParseError π} {s t : State σ π} :
    Reply.ok a s ≠ Reply.error e t := by
  simp [Reply.ok, Reply.error]

@[simp]
theorem Reply.error_ne_ok {a : α} {e : ParseError π} {s t : State σ π} :
    Reply.error e t ≠ Reply.ok a s := by
  simp [Reply.ok, Reply.error]

@[simp]
theorem Reply.state_ok (a : α) (s : State σ π) : (Reply.ok a s).state = s :=
  rfl

@[simp]
theorem Reply.state_error (e : ParseError π) (s : State σ π) :
    (Reply.error e s : Reply σ π α).state = s :=
  rfl

@[simp]
theorem Reply.state_errorHere (message : String) (s : State σ π) :
    (Reply.errorHere message s : Reply σ π α).state = s :=
  rfl

@[simp]
theorem Reply.result_ok (a : α) (s : State σ π) : (Reply.ok a s).result = .ok a :=
  rfl

@[simp]
theorem Reply.result_error (e : ParseError π) (s : State σ π) :
    (Reply.error e s : Reply σ π α).result = .error e :=
  rfl

@[simp]
theorem Reply.state_map (f : α → β) (reply : Reply σ π α) : (reply.map f).state = reply.state :=
  rfl

@[simp]
theorem Reply.state_mapError (f : ParseError π → ParseError π) (reply : Reply σ π α) :
    (reply.mapError f).state = reply.state :=
  rfl

namespace Parser

/-! ## Runs -/

section Outcome

variable [Host m] [ImmediateHost m ε] {fuel : Nat} {s : State σ π}

/-- How the run of a parser on a state ends. -/
def outcome (p : Parser m σ π α) (fuel : Nat) (s : State σ π) : Outcome ε (Reply σ π α) :=
  Host.outcome (p.parse fuel s)

/-- The run of a parser on a state ends with a reply. -/
def Delivers (p : Parser m σ π α) (fuel : Nat) (s : State σ π) (reply : Reply σ π α) : Prop :=
  p.outcome fuel s = .delivered reply

/-- A run delivers at most one reply. -/
theorem Delivers.unique {p : Parser m σ π α} {r r' : Reply σ π α} (h : p.Delivers fuel s r)
    (h' : p.Delivers fuel s r') : r = r' := by
  have same : Outcome.delivered r = .delivered r' := h.symm.trans h'
  exact Outcome.delivered.inj same

/-- Runs that are the same computation deliver the same replies. -/
theorem delivers_congr {p q : Parser m σ π α} {r : Reply σ π α}
    (same : p.parse fuel s = q.parse fuel s) : p.Delivers fuel s r ↔ q.Delivers fuel s r := by
  rw [Delivers, Delivers, outcome, outcome, same]

/-- The parser without a reply never ends. -/
@[simp]
theorem outcome_never : (never : Parser m σ π α).outcome fuel s = .unfinished := by
  simp [outcome]

theorem not_delivers_never {r : Reply σ π α} : ¬(never : Parser m σ π α).Delivers fuel s r := by
  simp [Delivers]

/-! ## Parsers without effects -/

/-- A parser that only computes delivers what it computes. -/
theorem outcome_compute (f : State σ π → Reply σ π α) :
    (⟨fun _ s => Pure.pure (f s)⟩ : Parser m σ π α).outcome fuel s = .delivered (f s) := by
  simp [outcome]

theorem delivers_compute {f : State σ π → Reply σ π α} {r : Reply σ π α} :
    (⟨fun _ s => Pure.pure (f s)⟩ : Parser m σ π α).Delivers fuel s r ↔ f s = r := by
  simp [Delivers, outcome_compute]

@[simp]
theorem delivers_pure {a : α} {r : Reply σ π α} :
    (pure a : Parser m σ π α).Delivers fuel s r ↔ .ok a s = r :=
  delivers_compute

@[simp]
theorem delivers_fail {message : String} {r : Reply σ π α} :
    (fail message : Parser m σ π α).Delivers fuel s r ↔ .errorHere message s = r :=
  delivers_compute

@[simp]
theorem delivers_failAt {message : String} {position : π} {r : Reply σ π α} :
    (failAt message position : Parser m σ π α).Delivers fuel s r ↔
      .error ⟨message, position⟩ s = r :=
  delivers_compute

@[simp]
theorem delivers_getState {r : Reply σ π (State σ π)} :
    (getState : Parser m σ π (State σ π)).Delivers fuel s r ↔ .ok s s = r :=
  delivers_compute

@[simp]
theorem delivers_putState {t : State σ π} {r : Reply σ π Unit} :
    (putState t : Parser m σ π Unit).Delivers fuel s r ↔ .ok () t = r :=
  delivers_compute

@[simp]
theorem delivers_position {r : Reply σ π π} :
    (position : Parser m σ π π).Delivers fuel s r ↔ .ok s.position s = r :=
  delivers_compute

@[simp]
theorem delivers_setConsumed {consumed : Bool} {r : Reply σ π Unit} :
    (setConsumed consumed : Parser m σ π Unit).Delivers fuel s r ↔
      .ok () (s.withConsumed consumed) = r :=
  delivers_compute

/-- A lifted computation delivers its value, unless the host fails. -/
theorem outcome_lift (computation : m α) :
    (lift computation : Parser m σ π α).outcome fuel s =
      (Outcome.ofExcept (some <$> ImmediateHost.settle computation)).map (.ok · s) := by
  have run : (lift computation : Parser m σ π α).parse fuel s =
      (Reply.ok · s) <$> OptionT.lift computation := rfl
  rw [outcome, run, Host.outcome_map, Host.outcome_lift]

theorem delivers_lift {computation : m α} {r : Reply σ π α} :
    (lift computation : Parser m σ π α).Delivers fuel s r ↔
      ∃ a, ImmediateHost.settle computation = .ok a ∧ .ok a s = r := by
  rw [Delivers, outcome_lift]
  cases ImmediateHost.settle computation with
  | error failure =>
      constructor
      · intro h
        cases h
      · rintro ⟨a, h, -⟩
        cases h
  | ok a =>
      constructor
      · intro h
        exact ⟨a, rfl, Outcome.delivered.inj h⟩
      · rintro ⟨a, h, rfl⟩
        cases h
        rfl

/-! ## Wrappers -/

theorem outcome_revise (p : Parser m σ π α) (change : State σ π → Reply σ π α → Reply σ π β) :
    (p.revise change).outcome fuel s = (p.outcome fuel s).map (change s) := by
  simp [outcome]

/-- A wrapper delivers the changed replies of its parser. -/
theorem delivers_revise {p : Parser m σ π α} {change : State σ π → Reply σ π α → Reply σ π β}
    {r : Reply σ π β} :
    (p.revise change).Delivers fuel s r ↔ ∃ r', p.Delivers fuel s r' ∧ change s r' = r := by
  rw [Delivers, outcome_revise, Outcome.map_eq_delivered]
  rfl

/-- After a failure an attempt has the flag it was entered with. -/
theorem delivers_attempt {p : Parser m σ π α} {r : Reply σ π α} :
    p.attempt.Delivers fuel s r ↔
      (∃ a t, p.Delivers fuel s (.ok a t) ∧ .ok a t = r) ∨
        ∃ e t, p.Delivers fuel s (.error e t) ∧ .error e (t.withConsumed s.consumed) = r := by
  refine delivers_revise.trans ⟨?_, ?_⟩
  · rintro ⟨reply, hp, rfl⟩
    cases reply with
    | ok a t => exact .inl ⟨a, t, hp, rfl⟩
    | error e t => exact .inr ⟨e, t, hp, rfl⟩
  · rintro (⟨a, t, hp, rfl⟩ | ⟨e, t, hp, rfl⟩)
    · exact ⟨_, hp, rfl⟩
    · exact ⟨_, hp, rfl⟩

/-- Looking ahead ends where it began. -/
theorem delivers_lookAhead {p : Parser m σ π α} {r : Reply σ π α} :
    p.lookAhead.Delivers fuel s r ↔
      (∃ a t, p.Delivers fuel s (.ok a t) ∧ .ok a s = r) ∨
        ∃ e t, p.Delivers fuel s (.error e t) ∧ .error e s = r := by
  refine delivers_revise.trans ⟨?_, ?_⟩
  · rintro ⟨reply, hp, rfl⟩
    cases reply with
    | ok a t => exact .inl ⟨a, t, hp, rfl⟩
    | error e t => exact .inr ⟨e, t, hp, rfl⟩
  · rintro (⟨a, t, hp, rfl⟩ | ⟨e, t, hp, rfl⟩)
    · exact ⟨_, hp, rfl⟩
    · exact ⟨_, hp, rfl⟩

/-- Looking ahead for what must not follow swaps success and failure and ends where it
began. -/
theorem delivers_notFollowedBy {p : Parser m σ π α} {r : Reply σ π Unit} :
    p.notFollowedBy.Delivers fuel s r ↔
      (∃ a t, p.Delivers fuel s (.ok a t) ∧ .errorHere unexpectedMatchMessage s = r) ∨
        ∃ e t, p.Delivers fuel s (.error e t) ∧ .ok () s = r := by
  refine delivers_revise.trans ⟨?_, ?_⟩
  · rintro ⟨reply, hp, rfl⟩
    cases reply with
    | ok a t => exact .inl ⟨a, t, hp, rfl⟩
    | error e t => exact .inr ⟨e, t, hp, rfl⟩
  · rintro (⟨a, t, hp, rfl⟩ | ⟨e, t, hp, rfl⟩)
    · exact ⟨_, hp, rfl⟩
    · exact ⟨_, hp, rfl⟩

/-- A selection keeps a value where its parser ended, or rejects it where it began. -/
theorem delivers_filterMap {p : Parser m σ π α} {decide : α → Option β} {message : String}
    {r : Reply σ π β} :
    (p.filterMap decide message).Delivers fuel s r ↔
      (∃ a b t, p.Delivers fuel s (.ok a t) ∧ decide a = some b ∧ .ok b t = r) ∨
      (∃ a t, p.Delivers fuel s (.ok a t) ∧ decide a = none ∧ .errorHere message s = r) ∨
        ∃ e t, p.Delivers fuel s (.error e t) ∧ .error e t = r := by
  refine delivers_revise.trans ⟨?_, ?_⟩
  · rintro ⟨reply, hp, rfl⟩
    cases reply with
    | ok a t =>
        cases kept : decide a with
        | some b =>
            exact .inl ⟨a, b, t, hp, kept, (Reply.select_ok_of_some message s t kept).symm⟩
        | none =>
            exact .inr (.inl ⟨a, t, hp, kept, (Reply.select_ok_of_none message s t kept).symm⟩)
    | error e t => exact .inr (.inr ⟨e, t, hp, rfl⟩)
  · rintro (⟨a, b, t, hp, kept, rfl⟩ | ⟨a, t, hp, kept, rfl⟩ | ⟨e, t, hp, rfl⟩)
    · exact ⟨_, hp, Reply.select_ok_of_some message s t kept⟩
    · exact ⟨_, hp, Reply.select_ok_of_none message s t kept⟩
    · exact ⟨_, hp, rfl⟩

/-- A wrapper only relabels: a success stays a success and a failure a failure, and each
ends where it did. -/
def Relabels (change : State σ π → Reply σ π α → Reply σ π β) : Prop :=
  (∀ s a t, ∃ b, change s (.ok a t) = .ok b t) ∧
    ∀ s e t, ∃ f, change s (.error e t) = .error f t

theorem relabels_map (f : α → β) :
    Relabels fun (_ : State σ π) (reply : Reply σ π α) => reply.map f :=
  ⟨fun _ a _ => ⟨f a, rfl⟩, fun _ e _ => ⟨e, rfl⟩⟩

theorem relabels_mapError (f : State σ π → ParseError π → ParseError π) :
    Relabels fun (s : State σ π) (reply : Reply σ π α) => reply.mapError (f s) :=
  ⟨fun _ a _ => ⟨a, rfl⟩, fun s e _ => ⟨f s e, rfl⟩⟩

theorem relabels_withSpan :
    Relabels fun (s : State σ π) (reply : Reply σ π α) =>
      reply.map (·, (⟨s.position, reply.state.position⟩ : Span π)) :=
  ⟨fun s a t => ⟨(a, ⟨s.position, t.position⟩), rfl⟩, fun _ e _ => ⟨e, rfl⟩⟩

/-- The replies of a wrapper that only relabels. -/
theorem delivers_of_relabels {p : Parser m σ π α}
    {change : State σ π → Reply σ π α → Reply σ π β} (h : Relabels change) {r : Reply σ π β}
    (hr : (p.revise change).Delivers fuel s r) :
    (∃ a b t, p.Delivers fuel s (.ok a t) ∧ .ok b t = r) ∨
      ∃ e f t, p.Delivers fuel s (.error e t) ∧ .error f t = r := by
  rcases delivers_revise.mp hr with ⟨reply, hp, rfl⟩
  cases reply with
  | ok a t =>
      rcases h.1 s a t with ⟨b, hb⟩
      exact .inl ⟨a, b, t, hp, hb.symm⟩
  | error e t =>
      rcases h.2 s e t with ⟨f, hf⟩
      exact .inr ⟨e, f, t, hp, hf.symm⟩

/-! ## Sequences -/

theorem outcome_andThen (p : Parser m σ π α) (k : α → Parser m σ π β) :
    (p.andThen k).outcome fuel s = (p.outcome fuel s).bind fun reply =>
      match reply.result with
      | .ok value => (k value).outcome fuel reply.state
      | .error e => .delivered (.error e reply.state) := by
  have run : (p.andThen k).parse fuel s = p.parse fuel s >>= fun reply =>
      match reply.result with
      | .ok value => (k value).parse fuel reply.state
      | .error e => Pure.pure (.error e reply.state) := rfl
  rw [outcome, run, Host.outcome_bind]
  congr 1
  funext reply
  cases reply with
  | ok value t => rfl
  | error e t => simp

/-- A sequence delivers the failures of its first part, and after a success what its second
part delivers. -/
theorem delivers_andThen {p : Parser m σ π α} {k : α → Parser m σ π β} {r : Reply σ π β} :
    (p.andThen k).Delivers fuel s r ↔
      (∃ a t, p.Delivers fuel s (.ok a t) ∧ (k a).Delivers fuel t r) ∨
        ∃ e t, p.Delivers fuel s (.error e t) ∧ .error e t = r := by
  rw [Delivers, outcome_andThen, Outcome.bind_eq_delivered]
  constructor
  · rintro ⟨reply, hp, hr⟩
    cases reply with
    | ok a t => exact .inl ⟨a, t, hp, hr⟩
    | error e t => exact .inr ⟨e, t, hp, Outcome.delivered.inj hr⟩
  · rintro (⟨a, t, hp, hr⟩ | ⟨e, t, hp, rfl⟩)
    · exact ⟨_, hp, hr⟩
    · exact ⟨_, hp, rfl⟩

/-! ## Choices -/

theorem outcome_orElse (p q : Parser m σ π α) :
    (p.orElse q).outcome fuel s = (p.outcome fuel (s.withConsumed false)).bind fun reply =>
      if reply.isRecoverable then q.outcome fuel s else .delivered reply := by
  rw [outcome, parse_orElse, Host.outcome_bind]
  congr 1
  funext reply
  split <;> simp [outcome]

/-- A choice delivers the successes and the committed failures of its first branch, and
after a recoverable failure what its second branch delivers. -/
theorem delivers_orElse {p q : Parser m σ π α} {r : Reply σ π α} :
    (p.orElse q).Delivers fuel s r ↔
      (∃ a t, p.Delivers fuel (s.withConsumed false) (.ok a t) ∧ .ok a t = r) ∨
      (∃ e t, p.Delivers fuel (s.withConsumed false) (.error e t) ∧ t.consumed = true ∧
        .error e t = r) ∨
      ∃ e t, p.Delivers fuel (s.withConsumed false) (.error e t) ∧ t.consumed = false ∧
        q.Delivers fuel s r := by
  rw [Delivers, outcome_orElse, Outcome.bind_eq_delivered]
  constructor
  · rintro ⟨reply, hp, hr⟩
    cases reply with
    | ok a t => exact .inl ⟨a, t, hp, Outcome.delivered.inj hr⟩
    | error e t =>
        cases hflag : t.consumed with
        | true =>
            simp only [Reply.isRecoverable_error, hflag] at hr
            exact .inr (.inl ⟨e, t, hp, hflag, Outcome.delivered.inj hr⟩)
        | false =>
            simp only [Reply.isRecoverable_error, hflag] at hr
            exact .inr (.inr ⟨e, t, hp, hflag, hr⟩)
  · rintro (⟨a, t, hp, rfl⟩ | ⟨e, t, hp, hflag, rfl⟩ | ⟨e, t, hp, hflag, hq⟩)
    · exact ⟨_, hp, by simp⟩
    · exact ⟨_, hp, by simp [hflag]⟩
    · refine ⟨_, hp, ?_⟩
      rw [Reply.isRecoverable_error, hflag]
      exact hq

/-- A failure of the first branch that leaves the flag set is the failure of the choice. -/
theorem outcome_orElse_of_consumed {p : Parser m σ π α} {e : ParseError π} {t : State σ π}
    (h : p.Delivers fuel (s.withConsumed false) (.error e t)) (consumed : t.consumed = true)
    (q : Parser m σ π α) : (p.orElse q).outcome fuel s = .delivered (.error e t) := by
  rw [outcome_orElse, h, Outcome.delivered_bind, Reply.isRecoverable_error, consumed]
  rfl

/-- After a failure of the first branch that leaves the flag clear the choice is its second
branch. -/
theorem outcome_orElse_of_clear {p : Parser m σ π α} {e : ParseError π} {t : State σ π}
    (h : p.Delivers fuel (s.withConsumed false) (.error e t)) (clear : t.consumed = false)
    (q : Parser m σ π α) : (p.orElse q).outcome fuel s = q.outcome fuel s := by
  rw [outcome_orElse, h, Outcome.delivered_bind, Reply.isRecoverable_error, clear]
  rfl

end Outcome

/-! ## Reading items -/

section Reading

variable [Host m] [ImmediateHost m ε] [Input σ τ π] {fuel : Nat} {s : State σ π}

/-- Reading one item either gives the item that comes next or fails on the spot. -/
theorem delivers_satisfy {accept : τ → Bool} {expected : String} {r : Reply σ π τ}
    (h : (satisfy accept expected : Parser m σ π τ).Delivers fuel s r) :
    (∃ x t, s.next? = some (x, t) ∧ accept x = true ∧ .ok x t = r) ∨
      ∃ message, .errorHere message s = r := by
  have reply := delivers_compute.mp h
  split at reply
  · rename_i x t hnext
    split at reply
    · rename_i haccept
      exact .inl ⟨x, t, hnext, haccept, reply⟩
    · exact .inr ⟨_, reply⟩
  · exact .inr ⟨_, reply⟩

/-- Reading a literal either reads all of it or fails on the spot. -/
theorem delivers_literal [BEq τ] {items : List τ} {expected : String} {r : Reply σ π Unit}
    (h : (literal items expected : Parser m σ π Unit).Delivers fuel s r) :
    (∃ t, s.readAll? items = some t ∧ .ok () t = r) ∨
      .errorHere (expectedMessage expected) s = r := by
  have reply := delivers_compute.mp h
  split at reply
  · rename_i t hread
    exact .inl ⟨t, hread, reply⟩
  · exact .inr reply

/-- The test for the end stays where it is. -/
theorem delivers_eof {r : Reply σ π Unit} (h : (eof : Parser m σ π Unit).Delivers fuel s r) :
    .ok () s = r ∨ .errorHere expectedEndMessage s = r := by
  have reply := delivers_compute.mp h
  split at reply
  · exact .inl reply
  · exact .inr reply

end Reading

/-! ## Staying -/

section Stays

variable [Host m] [ImmediateHost m ε]

/-- A parser whose runs end in the state that they began in. -/
def Stays (p : Parser m σ π α) : Prop :=
  ∀ fuel s r, p.Delivers fuel s r → r.state = s

theorem stays_compute {f : State σ π → Reply σ π α} (h : ∀ s, (f s).state = s) :
    (⟨fun _ s => Pure.pure (f s)⟩ : Parser m σ π α).Stays := by
  intro fuel s r hr
  rcases delivers_compute.mp hr with rfl
  exact h s

theorem stays_pure (a : α) : (pure a : Parser m σ π α).Stays :=
  stays_compute fun _ => rfl

theorem stays_fail (message : String) : (fail message : Parser m σ π α).Stays :=
  stays_compute fun _ => rfl

theorem stays_failAt (message : String) (position : π) :
    (failAt message position : Parser m σ π α).Stays :=
  stays_compute fun _ => rfl

theorem stays_getState : (getState : Parser m σ π (State σ π)).Stays :=
  stays_compute fun _ => rfl

theorem stays_position : (position : Parser m σ π π).Stays :=
  stays_compute fun _ => rfl

theorem stays_lift (computation : m α) : (lift computation : Parser m σ π α).Stays := by
  intro fuel s r h
  rcases delivers_lift.mp h with ⟨a, -, rfl⟩
  rfl

theorem stays_eof [Input σ τ π] : (eof : Parser m σ π Unit).Stays := by
  intro fuel s r h
  rcases delivers_eof h with rfl | rfl
  · rfl
  · rfl

theorem stays_lookAhead (p : Parser m σ π α) : p.lookAhead.Stays := by
  intro fuel s r h
  rcases delivers_lookAhead.mp h with ⟨a, t, -, rfl⟩ | ⟨e, t, -, rfl⟩
  · rfl
  · rfl

theorem stays_notFollowedBy (p : Parser m σ π α) : p.notFollowedBy.Stays := by
  intro fuel s r h
  rcases delivers_notFollowedBy.mp h with ⟨a, t, -, rfl⟩ | ⟨e, t, -, rfl⟩
  · rfl
  · rfl

end Stays

end Parser

end Descent
