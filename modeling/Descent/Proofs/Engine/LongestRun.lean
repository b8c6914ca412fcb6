import Descent.Parser.Repetition
import Descent.Parser.Token
import Descent.Proofs.Host.Iteration
import Descent.Proofs.Input.SameItems
import Mathlib.Data.List.TakeWhile

/-!
# Repetitions that read one item at a time

The repetition of a parser for one item reads items for as long as a predicate accepts them.  A
round of it can end in three ways: the next item is accepted and collected, it is not accepted, or
there is none.  In the last two ways the round fails without reading, so that the repetition stops
where the round began, and it never fails itself.  What it has read is the longest run of accepted
items, and what it has left starts with another item or is nothing.

Main definitions:

- `State.PassesWhile`: a state behind the longest run of accepted items.

Main results:

- Theorems `round_satisfy_of_accepts` and `round_satisfy_of_stuck`: what one round does.
- Theorem `loop_round_satisfy`: what the whole loop does, behind any items.
- Theorem `many_satisfy_passesWhile`: the reply of the repetition, in every lawful host.
-/

namespace Descent

variable {m : Type → Type} {σ τ π : Type} [Input σ τ π] {s t u : State σ π}
  {accept : τ → Bool} {x : τ}

/-! ## The longest run of accepted items -/

/-- No item comes next that the predicate accepts. -/
def State.Stuck (s : State σ π) (accept : τ → Bool) : Prop :=
  ∀ x t, s.next? = some (x, t) → accept x = false

/-- A state that is not stuck has an accepted item in front. -/
theorem State.exists_next?_of_not_stuck (h : ¬s.Stuck accept) :
    ∃ x t, s.next? = some (x, t) ∧ accept x = true := by
  simpa [Stuck] using h

variable [FiniteInput σ]

/-- The items of a state that has an item in front. -/
theorem State.items_of_next? (h : s.next? = some (x, t)) :
    FiniteInput.items s.input = x :: FiniteInput.items t.input :=
  (State.reads_of_next? h).input.items_eq

theorem State.Stuck.takeWhile_items (h : s.Stuck accept) :
    (FiniteInput.items s.input).takeWhile accept = [] := by
  cases next : Input.next? s.input with
  | none => simp [FiniteInput.items_of_next?_none next]
  | some found =>
      have rejected : accept found.1 = false := h _ _ (State.next?_eq_some next)
      simp [FiniteInput.items_of_next?_some next, rejected]

theorem State.takeWhile_items_of_accepts (next : s.next? = some (x, t))
    (accepts : accept x = true) :
    (FiniteInput.items s.input).takeWhile accept =
      x :: (FiniteInput.items t.input).takeWhile accept := by
  rw [State.items_of_next? next, List.takeWhile_cons_of_pos accepts]

/-- The second state is behind the items of the first one for as long as the predicate accepts
them: its input goes on from there, its position was advanced over each of these items, and its
flag is set if it was set before or if there is such an item. -/
structure State.PassesWhile (s : State σ π) (accept : τ → Bool) (t : State σ π) : Prop
    extends State.Passes s ((FiniteInput.items s.input).takeWhile accept) t where
  left : FiniteInput.items t.input = (FiniteInput.items s.input).dropWhile accept
  consumed : t.consumed = true ↔
    s.consumed = true ∨ (FiniteInput.items s.input).takeWhile accept ≠ []

namespace State.PassesWhile

/-- Nothing is passed where no accepted item comes next. -/
theorem stay (stuck : s.Stuck accept) : s.PassesWhile accept s := by
  have nothing := stuck.takeWhile_items
  have passes : s.Passes ((FiniteInput.items s.input).takeWhile accept) s := by
    rw [nothing]
    exact .refl s
  refine { passes with left := ?_, consumed := ?_ }
  · have whole := List.takeWhile_append_dropWhile (p := accept) (l := FiniteInput.items s.input)
    simpa [nothing] using whole.symm
  · simp [nothing]

/-- An accepted item in front is passed first. -/
theorem item (next : s.next? = some (x, u)) (accepts : accept x = true)
    (rest : u.PassesWhile accept t) : s.PassesWhile accept t := by
  have run := State.takeWhile_items_of_accepts next accepts
  have passes : s.Passes ((FiniteInput.items s.input).takeWhile accept) t := by
    rw [run]
    exact (State.reads_of_next? next).passes.trans rest.toPasses
  refine { passes with left := ?_, consumed := ?_ }
  · rw [rest.left, State.items_of_next? next, List.dropWhile_cons_of_pos accepts]
  · rw [rest.consumed, run]
    simp [State.consumed_of_next? next]

/-- Nothing is left exactly if all items are accepted. -/
theorem isEmpty_items (h : s.PassesWhile accept t) :
    (FiniteInput.items t.input).isEmpty = (FiniteInput.items s.input).all accept := by
  rw [Bool.eq_iff_iff, h.left, List.isEmpty_iff, List.dropWhile_eq_nil_iff, List.all_eq_true]

end State.PassesWhile

namespace Parser

variable [Host m] [LawfulHost m]

/-! ## One round -/

omit [FiniteInput σ] in
/-- A round collects the next item if it is accepted. -/
theorem round_satisfy_of_accepts (next : s.next? = some (x, t)) (accepts : accept x = true)
    (expected : String) (fuel : Nat) (items : List τ) :
    (satisfy accept expected : Parser m σ π τ).round fuel (items, s) =
      Pure.pure (.next (x :: items, t)) := by
  have consumed : t.consumed = true := State.consumed_of_next? next
  have run : (satisfy accept expected : Parser m σ π τ).parse fuel (s.withConsumed false) =
      Pure.pure (.ok x t) := by
    simp [satisfy, next, accepts]
  rw [round, run, map_pure, Reply.nextRound_ok_of_consumed items s x consumed]

omit [FiniteInput σ] in
/-- A round stops the repetition where it began if no accepted item comes next. -/
theorem round_satisfy_of_stuck (stuck : s.Stuck accept) (expected : String) (fuel : Nat)
    (items : List τ) :
    (satisfy accept expected : Parser m σ π τ).round fuel (items, s) =
      Pure.pure (.done (.ok items.reverse s)) := by
  have clear : (s.withConsumed false).consumed = false := rfl
  have run : ∃ e, (satisfy accept expected : Parser m σ π τ).parse fuel (s.withConsumed false) =
      Pure.pure (.error e (s.withConsumed false)) := by
    cases next : s.next? with
    | none =>
        refine ⟨⟨unexpectedEndMessage expected, s.position⟩, ?_⟩
        simp [satisfy, next, Reply.errorHere]
    | some found =>
        have rejected : accept found.1 = false := stuck _ _ next
        refine ⟨⟨expectedMessage expected, s.position⟩, ?_⟩
        simp [satisfy, next, rejected, Reply.errorHere]
  rcases run with ⟨e, run⟩
  rw [round, run, map_pure, Reply.nextRound_error_of_not_consumed items s e clear]

/-! ## All rounds -/

/-- Behind any items, the loop collects the longest run of accepted items and stops behind it, if
it has a round for each of them and one more; with fewer rounds it does not end. -/
theorem loop_round_satisfy (accept : τ → Bool) (expected : String) (fuel : Nat)
    (s : State σ π) :
    ∃ t, s.PassesWhile accept t ∧ ∀ rounds items,
      Host.loop rounds ((satisfy accept expected : Parser m σ π τ).round fuel) (items, s) =
        if ((FiniteInput.items s.input).takeWhile accept).length < rounds then
          Pure.pure (.ok (items.reverse ++ (FiniteInput.items s.input).takeWhile accept) t)
        else failure := by
  induction size : s.remaining using Nat.strongRecOn generalizing s with
  | ind left ih =>
      by_cases stuck : s.Stuck accept
      · refine ⟨s, .stay stuck, fun rounds items => ?_⟩
        rw [stuck.takeWhile_items]
        cases rounds with
        | zero => simp
        | succ rounds =>
            rw [Host.loop_succ, round_satisfy_of_stuck stuck, pure_bind]
            simp
      · rcases State.exists_next?_of_not_stuck stuck with ⟨x, u, next, accepts⟩
        have fewer : u.remaining < left := by
          rw [← size, State.remaining, State.remaining, State.items_of_next? next]
          simp
        rcases ih u.remaining fewer u rfl with ⟨t, passes, loop⟩
        refine ⟨t, passes.item next accepts, fun rounds items => ?_⟩
        rw [State.takeWhile_items_of_accepts next accepts]
        cases rounds with
        | zero => simp
        | succ rounds =>
            rw [Host.loop_succ, round_satisfy_of_accepts next accepts, pure_bind]
            simp [loop]

/-- The repetition is its loop with nothing collected. -/
theorem parse_many_satisfy (accept : τ → Bool) (expected : String) (s : State σ π) :
    ∃ t, s.PassesWhile accept t ∧ ∀ fuel,
      (satisfy accept expected : Parser m σ π τ).many.parse fuel s =
        if ((FiniteInput.items s.input).takeWhile accept).length < fuel then
          Pure.pure (.ok ((FiniteInput.items s.input).takeWhile accept) t)
        else failure := by
  rcases loop_round_satisfy (m := m) accept expected 0 s with ⟨t, passes, loop⟩
  refine ⟨t, passes, fun fuel => ?_⟩
  exact loop fuel []

/-! ## The end of the input -/

section

variable {α β : Type} {p : Parser m σ π α} {q : Parser m σ π β} {fuel : Nat}

omit [Input σ τ π] [FiniteInput σ] in
/-- A pair goes on with its second part where its first part ended. -/
theorem parse_pair_of_ok {a : α} (first : p.parse fuel s = Pure.pure (.ok a t)) :
    (p.pair q).parse fuel s = Reply.map (a, ·) <$> q.parse fuel t := by
  simp [pair, first, Reply.ok]

omit [Input σ τ π] [FiniteInput σ] in
/-- A pair does not end where its first part does not. -/
theorem parse_pair_of_failure (first : p.parse fuel s = failure) :
    (p.pair q).parse fuel s = failure := by
  refine OptionT.ext ?_
  simp only [pair, first, OptionT.run_bind, OptionT.run_failure, Option.elimM, pure_bind,
    Option.elim_none]

end

omit [Host m] [LawfulHost m] in
/-- The test for the end succeeds exactly where no items are left. -/
theorem parse_eof [Monad m] [LawfulInput σ] (fuel : Nat) (s : State σ π) :
    (eof : Parser m σ π Unit).parse fuel s =
      Pure.pure (if (FiniteInput.items s.input).isEmpty then .ok () s
        else .errorHere expectedEndMessage s) := by
  have exhausted : Input.isExhausted s.input = (FiniteInput.items s.input).isEmpty := by
    rw [LawfulInput.isExhausted_eq]
    cases next : Input.next? s.input with
    | none => simp [FiniteInput.items_of_next?_none next]
    | some found => simp [FiniteInput.items_of_next?_some next]
  simp [eof, exhausted]

/-- Everything that is left can be read item by item, up to the end. -/
theorem parse_many_anyItem_pair_eof [LawfulInput σ] (s : State σ π) :
    ∃ t, s.PassesWhile (fun _ => true) t ∧ FiniteInput.items t.input = [] ∧ ∀ fuel,
      (anyItem.many.pair eof : Parser m σ π (List τ × Unit)).parse fuel s =
        if s.remaining < fuel then Pure.pure (.ok (FiniteInput.items s.input, ()) t)
        else failure := by
  rcases parse_many_satisfy (m := m) (fun _ => true) "any item" s with ⟨t, passes, run⟩
  have whole : (FiniteInput.items s.input).takeWhile (fun _ => true) = FiniteInput.items s.input :=
    List.takeWhile_eq_self_iff.mpr fun _ _ => rfl
  have nothing : FiniteInput.items t.input = [] := by
    rw [passes.left, List.dropWhile_eq_nil_iff]
    simp
  refine ⟨t, passes, nothing, fun fuel => ?_⟩
  have reads := run fuel
  rw [whole] at reads
  by_cases enough : s.remaining < fuel
  · have first : (anyItem.many : Parser m σ π (List τ)).parse fuel s =
        Pure.pure (.ok (FiniteInput.items s.input) t) := reads.trans (if_pos enough)
    rw [parse_pair_of_ok first, parse_eof, nothing]
    simp [enough, Reply.ok, Reply.map, Except.map]
  · have first : (anyItem.many : Parser m σ π (List τ)).parse fuel s = failure :=
      reads.trans (if_neg enough)
    rw [parse_pair_of_failure first, if_neg enough]

/-- The repetition of a parser for one item gives the longest run of items that its predicate
accepts, in order, and ends behind this run; it never fails, and ends with every fuel for one round
more than there are items in the run.  Behind it, the test for the end succeeds exactly if the
predicate accepts all items.  In particular, all items of an input can be read in order and once
each, up to its end. -/
theorem many_satisfy_passesWhile [LawfulInput σ] (accept : τ → Bool) (expected : String)
    (s : State σ π) :
    (∃ t, s.PassesWhile accept t ∧
      (∀ fuel, (satisfy accept expected : Parser m σ π τ).many.parse fuel s =
        if ((FiniteInput.items s.input).takeWhile accept).length < fuel then
          Pure.pure (.ok ((FiniteInput.items s.input).takeWhile accept) t)
        else failure) ∧
      ∀ fuel, (eof : Parser m σ π Unit).parse fuel t =
        Pure.pure (if (FiniteInput.items s.input).all accept then .ok () t
          else .errorHere expectedEndMessage t)) ∧
    ∃ t, s.PassesWhile (fun _ => true) t ∧ FiniteInput.items t.input = [] ∧ ∀ fuel,
      (anyItem.many.pair eof : Parser m σ π (List τ × Unit)).parse fuel s =
        if s.remaining < fuel then Pure.pure (.ok (FiniteInput.items s.input, ()) t)
        else failure := by
  refine ⟨?_, parse_many_anyItem_pair_eof s⟩
  rcases parse_many_satisfy (m := m) accept expected s with ⟨t, passes, run⟩
  refine ⟨t, passes, run, fun fuel => ?_⟩
  rw [parse_eof, passes.isEmpty_items]

/-- Two lines are read up to a letter, with two rounds to spare, and the end is not there yet.  A
list is read up to its end where all of its items are even. -/
theorem many_satisfy_passesWhile_lines :
    (∃ t : State Text LineColumn, t.input.chars = ['x', '4'] ∧ t.position = ⟨2, 2⟩ ∧
      t.consumed = true ∧
      (satisfy (· ≠ 'x') "line" : Parser Id Text LineColumn Char).many.parse 6
          ⟨⟨['4', '\n', '2', 'x', '4']⟩, ⟨1, 1⟩, false⟩ =
        Pure.pure (.ok ['4', '\n', '2'] t) ∧
      (eof : Parser Id Text LineColumn Unit).parse 0 t =
        Pure.pure (.errorHere expectedEndMessage t)) ∧
    ∃ t : State (List Nat) Nat, t.input = [] ∧ t.position = 2 ∧ t.consumed = true ∧
      (anyItem.many.pair eof : Parser Resumption (List Nat) Nat (List Nat × Unit)).parse 3
          ⟨[6, 8], 0, false⟩ =
        Pure.pure (.ok ([6, 8], ()) t) := by
  constructor
  · rcases (many_satisfy_passesWhile (m := Id) (· ≠ 'x') "line"
      ⟨(⟨['4', '\n', '2', 'x', '4']⟩ : Text), ⟨1, 1⟩, false⟩).1 with ⟨t, passes, run, atEnd⟩
    have flag : t.consumed = true := passes.consumed.mpr (.inr (by decide))
    exact ⟨t, passes.left, passes.position, flag, run 6, atEnd 0⟩
  · rcases (many_satisfy_passesWhile (m := Resumption) (fun _ => true) "any item"
      ⟨[6, 8], 0, false⟩).2 with ⟨t, passes, nothing, run⟩
    have flag : t.consumed = true := passes.consumed.mpr (.inr (by decide))
    exact ⟨t, nothing, passes.position, flag, run 3⟩

end Parser

end Descent
