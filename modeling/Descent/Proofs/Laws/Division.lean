import Descent.Proofs.Parser.Delivery
import Descent.Proofs.Laws.Wrapping

/-!
# Dividing the values of a parser

A partition, a separation and a classification each give two parsers, which both run the parser
that they divide.  Where it succeeds, one of them gives its value in the state that it reached,
and the other rejects the value and goes back to where it began.  A rejection never counts as
reading, so a choice between the two has every reply of the parser that was divided.

Main definitions:

- `Halves`: two parsers divide the replies of a third one between them.
- `Complementary`: two partial functions divide the values of a type between them.

Main results:

- Theorem `outcome_orElse_filterMap`: a choice between two selections that are complementary.
- Theorem `halves_reassemble`: the halves of a partition, a separation and a classification, and
  the choices between them.
-/

namespace Descent

variable {m : Type → Type} {σ π α β γ δ ε : Type}

/-- Changing a selected value is selecting the changed value. -/
theorem Reply.map_select (f : β → δ) (decide : α → Option β) (message : String)
    (entry : State σ π) (reply : Reply σ π α) :
    (reply.select decide message entry).map f =
      reply.select (fun a => (decide a).map f) message entry := by
  cases reply with
  | error e t => rfl
  | ok a t =>
      cases kept : decide a with
      | some b => simp [select, ok, map, Except.map, kept]
      | none => simp [select, ok, map, errorHere, error, Except.map, kept]

/-- Two partial functions divide the values of a type between them: each value is taken by
exactly one of the two, which gives for it what `whole` gives. -/
def Complementary (left right : α → Option δ) (whole : α → δ) : Prop :=
  ∀ a, (left a = some (whole a) ∧ right a = none) ∨ (left a = none ∧ right a = some (whole a))

theorem Complementary.symm {left right : α → Option δ} {whole : α → δ}
    (h : Complementary left right whole) : Complementary right left whole := by
  intro a
  rcases h a with ⟨kept, rejected⟩ | ⟨rejected, kept⟩
  · exact .inr ⟨rejected, kept⟩
  · exact .inl ⟨kept, rejected⟩

namespace Parser

/-- Changing the values of a selection. -/
theorem map_filterMap [Monad m] [LawfulMonad m] (f : β → δ) (p : Parser m σ π α)
    (decide : α → Option β) (message : String) :
    (p.filterMap decide message).map f = p.filterMap (fun a => (decide a).map f) message :=
  revise_revise_eq p (Reply.map_select f decide message)

section

variable [Host m] [ImmediateHost m ε]

/-! ## Halves -/

/-- Two parsers divide the replies of a third one.  Each value has a side: the parser of that
side gives it where the third one ended, and the other one fails where it began, in the very state
that it was entered with.  A failure is the failure of both. -/
structure Halves (p : Parser m σ π α) (side : α → Except β γ) (left : Parser m σ π β)
    (leftMessage : String) (right : Parser m σ π γ) (rightMessage : String) : Prop where
  ok_left {fuel : Nat} {s t : State σ π} {a : α} {b : β} (whole : p.Delivers fuel s (.ok a t))
    (onLeft : side a = .error b) :
    left.Delivers fuel s (.ok b t) ∧ right.Delivers fuel s (.errorHere rightMessage s)
  ok_right {fuel : Nat} {s t : State σ π} {a : α} {c : γ} (whole : p.Delivers fuel s (.ok a t))
    (onRight : side a = .ok c) :
    right.Delivers fuel s (.ok c t) ∧ left.Delivers fuel s (.errorHere leftMessage s)
  error {fuel : Nat} {s t : State σ π} {e : ParseError π}
    (whole : p.Delivers fuel s (.error e t)) :
    left.Delivers fuel s (.error e t) ∧ right.Delivers fuel s (.error e t)

/-- Two selections divide a parser if each keeps exactly the values on its side. -/
theorem halves_filterMap (p : Parser m σ π α) {side : α → Except β γ} {left : α → Option β}
    {right : α → Option γ} (onLeft : ∀ a b, side a = .error b → left a = some b ∧ right a = none)
    (onRight : ∀ a c, side a = .ok c → right a = some c ∧ left a = none)
    (leftMessage rightMessage : String) :
    Halves p side (p.filterMap left leftMessage) leftMessage (p.filterMap right rightMessage)
      rightMessage where
  ok_left whole on := by
    rcases onLeft _ _ on with ⟨kept, rejected⟩
    exact ⟨delivers_filterMap.mpr (.inl ⟨_, _, _, whole, kept, rfl⟩),
      delivers_filterMap.mpr (.inr (.inl ⟨_, _, whole, rejected, rfl⟩))⟩
  ok_right whole on := by
    rcases onRight _ _ on with ⟨kept, rejected⟩
    exact ⟨delivers_filterMap.mpr (.inl ⟨_, _, _, whole, kept, rfl⟩),
      delivers_filterMap.mpr (.inr (.inl ⟨_, _, whole, rejected, rfl⟩))⟩
  error whole :=
    ⟨delivers_filterMap.mpr (.inr (.inr ⟨_, _, whole, rfl⟩)),
      delivers_filterMap.mpr (.inr (.inr ⟨_, _, whole, rfl⟩))⟩

/-- The halves of classified values are halves of the values. -/
theorem Halves.of_map {p : Parser m σ π α} {classify : α → δ} {side : δ → Except β γ}
    {left : Parser m σ π β} {right : Parser m σ π γ} {leftMessage rightMessage : String}
    (h : Halves (p.map classify) side left leftMessage right rightMessage) :
    Halves p (side ∘ classify) left leftMessage right rightMessage where
  ok_left whole on := h.ok_left (delivers_revise.mpr ⟨_, whole, rfl⟩) on
  ok_right whole on := h.ok_right (delivers_revise.mpr ⟨_, whole, rfl⟩) on
  error whole := h.error (delivers_revise.mpr ⟨_, whole, rfl⟩)

theorem halves_partition (p : Parser m σ π α) (accept : α → Bool) :
    Halves p (fun a => if accept a then .ok a else .error a) (p.partition accept).1
      predicateHeldMessage (p.partition accept).2 predicateFailedMessage := by
  refine halves_filterMap p ?_ ?_ predicateHeldMessage predicateFailedMessage
  · intro a b on
    cases accepted : accept a with
    | true => simp [accepted] at on
    | false => simpa [accepted] using on
  · intro a c on
    cases accepted : accept a with
    | true => simpa [accepted] using on
    | false => simp [accepted] at on

theorem halves_separate (q : Parser m σ π (Except β γ)) :
    Halves q id q.separate.1 notAnErrorMessage q.separate.2 notAnOkMessage := by
  refine halves_filterMap q ?_ ?_ notAnErrorMessage notAnOkMessage
  · rintro value b rfl
    exact ⟨rfl, rfl⟩
  · rintro value c rfl
    exact ⟨rfl, rfl⟩

theorem halves_partitionMap (p : Parser m σ π α) (classify : α → Except β γ) :
    Halves p classify (p.partitionMap classify).1 notAnErrorMessage
      (p.partitionMap classify).2 notAnOkMessage :=
  (halves_separate (p.map classify)).of_map

/-! ## Putting the halves together -/

/-- With the flag clear, a choice between complementary selections is the parser that they select
from.  A value that the first one rejects leaves the flag clear, and so does a failure that has
read nothing; both of them are met again by the second one, from the same state. -/
theorem outcome_orElse_filterMap (p : Parser m σ π α) {left right : α → Option δ} {whole : α → δ}
    (complementary : Complementary left right whole) (leftMessage rightMessage : String)
    {fuel : Nat} {s : State σ π} (clear : s.consumed = false) :
    ((p.filterMap left leftMessage).orElse (p.filterMap right rightMessage)).outcome fuel s =
      (p.map whole).outcome fuel s := by
  have entry : s.withConsumed false = s := by rw [← clear, State.withConsumed_self]
  rw [outcome_orElse, entry, map, filterMap, filterMap, outcome_revise, outcome_revise,
    outcome_revise]
  cases p.outcome fuel s with
  | failed failure => rfl
  | unfinished => rfl
  | delivered reply =>
      simp only [Outcome.delivered_map, Outcome.delivered_bind]
      cases reply with
      | error e t =>
          simp only [Reply.select_error, Reply.map_error]
          exact ite_self _
      | ok a t =>
          rcases complementary a with ⟨kept, -⟩ | ⟨rejected, kept⟩
          · rw [Reply.select_ok_of_some leftMessage s t kept, Reply.map_ok,
              Reply.isRecoverable_ok]
            rfl
          · have recovers : (Reply.errorHere leftMessage s : Reply σ π δ).isRecoverable = true := by
              rw [Reply.errorHere, Reply.isRecoverable_error, clear]
              rfl
            rw [Reply.select_ok_of_none leftMessage s t rejected, if_pos recovers,
              Reply.select_ok_of_some rightMessage s t kept, Reply.map_ok]

theorem outcome_map_id (p : Parser m σ π α) (fuel : Nat) (s : State σ π) :
    (p.map id).outcome fuel s = p.outcome fuel s := by
  rw [map, outcome_revise]
  cases p.outcome fuel s with
  | failed failure => rfl
  | unfinished => rfl
  | delivered reply => rw [Outcome.delivered_map, Reply.map_id]

variable {fuel : Nat} {s : State σ π}

/-- The two parts of a partition, in either order. -/
theorem outcome_orElse_partition (p : Parser m σ π α) (accept : α → Bool)
    (clear : s.consumed = false) :
    ((p.partition accept).2.orElse (p.partition accept).1).outcome fuel s = p.outcome fuel s ∧
      ((p.partition accept).1.orElse (p.partition accept).2).outcome fuel s =
        p.outcome fuel s := by
  have acceptedFirst : Complementary (fun a => if accept a then some a else none)
      (fun a => if !accept a then some a else none) id := by
    intro a
    cases accepted : accept a with
    | true => simp
    | false => simp
  rw [← outcome_map_id p]
  exact ⟨outcome_orElse_filterMap p acceptedFirst _ _ clear,
    outcome_orElse_filterMap p acceptedFirst.symm _ _ clear⟩

variable [LawfulMonad m]

/-- The errors and the results of a separation, each put back to where they belong. -/
theorem outcome_orElse_separate (q : Parser m σ π (Except β γ)) (clear : s.consumed = false) :
    ((q.separate.1.map Except.error).orElse (q.separate.2.map Except.ok)).outcome fuel s =
      q.outcome fuel s := by
  rw [← outcome_map_id q, separate, map_filterMap, map_filterMap]
  refine outcome_orElse_filterMap q (fun value => ?_) _ _ clear
  cases value with
  | error b => exact .inl ⟨rfl, rfl⟩
  | ok c => exact .inr ⟨rfl, rfl⟩

/-- Two halves of one parser: where it succeeds exactly one of them succeeds, with its value and
its state, and the other rejects the value at the entry; and where it fails both of them fail as it
does.  From a state with the flag clear, the choice between the halves of a partition, in either
order, has every reply of the parser, and so have the choices between the halves of a separation
and of a classification, with the values put back to their sides. -/
theorem halves_reassemble (p : Parser m σ π α) (accept : α → Bool) (classify : α → Except β γ)
    (q : Parser m σ π (Except β γ)) :
    Halves p (fun a => if accept a then .ok a else .error a) (p.partition accept).1
        predicateHeldMessage (p.partition accept).2 predicateFailedMessage ∧
      Halves q id q.separate.1 notAnErrorMessage q.separate.2 notAnOkMessage ∧
      Halves p classify (p.partitionMap classify).1 notAnErrorMessage
        (p.partitionMap classify).2 notAnOkMessage ∧
      ∀ (fuel : Nat) (s : State σ π), s.consumed = false →
        ((p.partition accept).2.orElse (p.partition accept).1).outcome fuel s =
            p.outcome fuel s ∧
          ((p.partition accept).1.orElse (p.partition accept).2).outcome fuel s =
            p.outcome fuel s ∧
          ((q.separate.1.map Except.error).orElse (q.separate.2.map Except.ok)).outcome fuel s =
            q.outcome fuel s ∧
          (((p.partitionMap classify).1.map Except.error).orElse
              ((p.partitionMap classify).2.map Except.ok)).outcome fuel s =
            (p.map classify).outcome fuel s := by
  refine ⟨halves_partition p accept, halves_separate q, halves_partitionMap p classify,
    fun fuel s clear => ?_⟩
  rcases outcome_orElse_partition p accept clear with ⟨acceptedFirst, rejectedFirst⟩
  exact ⟨acceptedFirst, rejectedFirst, outcome_orElse_separate q clear,
    outcome_orElse_separate (p.map classify) clear⟩

end

/-- Two items. -/
def twoItems : Parser Id Text LineColumn (Char × Char) :=
  anyItem.pair anyItem

/-- Sends two equal items to the right as one, and two different ones to the left. -/
def doubled (items : Char × Char) : Except (Char × Char) Char :=
  if items.1 = items.2 then .ok items.1 else .error items

/-- The items are read and found to be different.  The half for equal items goes back before both
of them, with the flag clear, and so the choice that tries it first comes to the other half. -/
theorem halves_reassemble_twoItems :
    twoItems.Delivers 0 ⟨⟨['a', '\n']⟩, ⟨1, 1⟩, false⟩ (.ok ('a', '\n') ⟨⟨[]⟩, ⟨2, 1⟩, true⟩) ∧
      (twoItems.partitionMap doubled).1.Delivers 0 ⟨⟨['a', '\n']⟩, ⟨1, 1⟩, false⟩
        (.ok ('a', '\n') ⟨⟨[]⟩, ⟨2, 1⟩, true⟩) ∧
      (twoItems.partitionMap doubled).2.Delivers 0 ⟨⟨['a', '\n']⟩, ⟨1, 1⟩, false⟩
        (.errorHere notAnOkMessage ⟨⟨['a', '\n']⟩, ⟨1, 1⟩, false⟩) ∧
      ((twoItems.partition fun items => items.1 == items.2).2.orElse
          (twoItems.partition fun items => items.1 == items.2).1).Delivers 0
        ⟨⟨['a', '\n']⟩, ⟨1, 1⟩, false⟩ (.ok ('a', '\n') ⟨⟨[]⟩, ⟨2, 1⟩, true⟩) := by
  have delivers : twoItems.Delivers 0 ⟨⟨['a', '\n']⟩, ⟨1, 1⟩, false⟩
      (.ok ('a', '\n') ⟨⟨[]⟩, ⟨2, 1⟩, true⟩) := rfl
  rcases halves_reassemble twoItems (fun items => items.1 == items.2) doubled
    (twoItems.map doubled) with ⟨-, -, classified, choices⟩
  have different := classified.ok_left delivers rfl
  have acceptedFirst := (choices 0 ⟨⟨['a', '\n']⟩, ⟨1, 1⟩, false⟩ rfl).1
  exact ⟨delivers, different.1, different.2, acceptedFirst.trans delivers⟩

end Parser

end Descent
