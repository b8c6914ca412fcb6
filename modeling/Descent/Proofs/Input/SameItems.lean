import Descent.Proofs.Input.Reading

/-!
# Different inputs with the same items

Two kinds of input may hold the same items and still differ in how they store them, in how
positions move over them, and in how they tell that nothing is left.  A run can only read item by
item and ask whether anything is left, and the answers are the same.

Main definitions:

- `Input.take`: the first items of an input.
- `Input.SameItems`: two inputs, finite or not, hold the same items.
- `LawfulInput`: inputs that say that nothing is left exactly if there is no next item.
- `State.Abreast`: two runs, each from its own start, have passed the same items and have the same
  items left.

Main results:

- Theorem `SameItems.next?_cases`: both inputs end, or both give the same item and go on.
- Theorem `Input.sameItems_iff`: finite inputs hold the same items if they list the same items.
- Theorem `Abreast.readAll?_cases`: a literal is read in both runs or in neither.
-/

namespace Descent

variable {σ σ' τ π π' : Type}

/-! ## The items of an input -/

/-- The first items of an input, at most so many. -/
def Input.take [Input σ τ π] : Nat → σ → List τ
  | 0, _ => []
  | n + 1, input =>
      match Input.next? input with
      | none => []
      | some (x, rest) => x :: take n rest

theorem Input.take_succ_of_none [Input σ τ π] {input : σ} (n : Nat)
    (h : Input.next? input = none) : Input.take (n + 1) input = [] := by
  simp [take, h]

theorem Input.take_succ_of_some [Input σ τ π] {input rest : σ} {x : τ} (n : Nat)
    (h : Input.next? input = some (x, rest)) :
    Input.take (n + 1) input = x :: Input.take n rest := by
  simp [take, h]

variable [Input σ τ π] [Input σ' τ π']

/-- The items that have been read are the first ones. -/
theorem Input.Reads.take_length {input rest : σ} {xs : List τ} (h : Input.Reads input xs rest) :
    Input.take xs.length input = xs := by
  induction h with
  | stay _ => rfl
  | item next _ ih => rw [List.length_cons, take_succ_of_some _ next, ih]

/-- Two inputs hold the same items, in the same order, and both end where the one does. -/
def Input.SameItems (input : σ) (input' : σ') : Prop :=
  ∀ n, Input.take n input = Input.take n input'

/-- Inputs with the same items both end here, or go on with the same item and with inputs that
have the same items again. -/
theorem Input.SameItems.next?_cases {input : σ} {input' : σ'} (h : SameItems input input') :
    (Input.next? input = none ∧ Input.next? input' = none) ∨
      ∃ x rest rest', Input.next? input = some (x, rest) ∧
        Input.next? input' = some (x, rest') ∧ SameItems rest rest' := by
  cases hnext : Input.next? input with
  | none =>
      cases hnext' : Input.next? input' with
      | none => exact .inl ⟨rfl, rfl⟩
      | some next =>
          rcases next with ⟨x, rest⟩
          have first := h 1
          rw [take_succ_of_none 0 hnext, take_succ_of_some 0 hnext'] at first
          cases first
  | some next =>
      rcases next with ⟨x, rest⟩
      cases hnext' : Input.next? input' with
      | none =>
          have first := h 1
          rw [take_succ_of_some 0 hnext, take_succ_of_none 0 hnext'] at first
          cases first
      | some next =>
          rcases next with ⟨y, rest'⟩
          have items (n : Nat) : x :: take n rest = y :: take n rest' := by
            rw [← take_succ_of_some n hnext, ← take_succ_of_some n hnext']
            exact h (n + 1)
          have same : x = y := (List.cons.inj (items 0)).1
          rw [same]
          exact .inr ⟨y, rest, rest', rfl, rfl, fun n => (List.cons.inj (items n)).2⟩

/-! ## Inputs with finitely many items -/

/-- The first items of a finite input are the first of those that it lists. -/
theorem Input.take_eq_take_items [FiniteInput σ] (n : Nat) (input : σ) :
    Input.take n input = (FiniteInput.items input).take n := by
  induction n generalizing input with
  | zero => simp [take]
  | succ n ih =>
      cases hnext : Input.next? input with
      | none => simp [take_succ_of_none n hnext, FiniteInput.items_of_next?_none hnext]
      | some next =>
          rcases next with ⟨x, rest⟩
          rw [take_succ_of_some n hnext, FiniteInput.items_of_next?_some hnext,
            List.take_succ_cons, ih]

/-- Finite inputs hold the same items exactly if they list the same items. -/
theorem Input.sameItems_iff [FiniteInput σ] [FiniteInput σ'] {input : σ} {input' : σ'} :
    SameItems input input' ↔ FiniteInput.items input = FiniteInput.items input' := by
  unfold SameItems
  simp only [take_eq_take_items]
  constructor
  · intro same
    let n := (FiniteInput.items input).length + (FiniteInput.items input').length
    have all : (FiniteInput.items input).take n = FiniteInput.items input :=
      List.take_of_length_le (Nat.le_add_right _ _)
    have all' : (FiniteInput.items input').take n = FiniteInput.items input' :=
      List.take_of_length_le (Nat.le_add_left _ _)
    rw [← all, ← all', same n]
  · intro same n
    rw [same]

/-! ## The end of an input -/

/-- Inputs that say that nothing is left exactly if there is no next item. -/
class LawfulInput (σ : Type) {τ π : outParam Type} [Input σ τ π] : Prop where
  isExhausted_eq (input : σ) : Input.isExhausted input = (Input.next? input).isNone

instance : LawfulInput Text where
  isExhausted_eq input := by
    rcases input with ⟨_ | ⟨c, cs⟩⟩
    · rfl
    · rfl

instance : LawfulInput (List τ) where
  isExhausted_eq input := by
    cases input with
    | nil => rfl
    | cons x xs => rfl

/-- Byte offsets do not say anything else about the end than there is to be said of every input. -/
instance : LawfulInput ByteText where
  isExhausted_eq _ := rfl

/-- Inputs with the same items are exhausted together. -/
theorem Input.SameItems.isExhausted_eq [LawfulInput σ] [LawfulInput σ'] {input : σ}
    {input' : σ'} (h : SameItems input input') :
    Input.isExhausted input = Input.isExhausted input' := by
  rw [LawfulInput.isExhausted_eq, LawfulInput.isExhausted_eq]
  rcases h.next?_cases with ⟨ends, ends'⟩ | ⟨x, rest, rest', next, next', -⟩
  · rw [ends, ends']
    rfl
  · rw [next, next']
    rfl

/-! ## Two runs abreast -/

/-- From their starts `s₀` and `s₀'`, two runs have passed the same items and have come to states
with the same items left and with the same flag. -/
structure State.Abreast (s₀ : State σ π) (s₀' : State σ' π') (s : State σ π)
    (s' : State σ' π') : Prop where
  consumed : s.consumed = s'.consumed
  left : Input.SameItems s.input s'.input
  passed : ∃ items : List τ, s₀.Passes items s ∧ s₀'.Passes items s'

namespace State.Abreast

variable {s₀ s : State σ π} {s₀' s' : State σ' π'}

/-- Two runs begin abreast if they begin with the same items and with the same flag. -/
theorem start (consumed : s₀.consumed = s₀'.consumed)
    (items : Input.SameItems s₀.input s₀'.input) : Abreast s₀ s₀' s₀ s₀' where
  consumed := consumed
  left := items
  passed := ⟨[], .refl s₀, .refl s₀'⟩

theorem withConsumed (h : Abreast s₀ s₀' s s') (b : Bool) :
    Abreast s₀ s₀' (s.withConsumed b) (s'.withConsumed b) where
  consumed := rfl
  left := h.left
  passed := by
    rcases h.passed with ⟨items, first, second⟩
    exact ⟨items, first.withConsumed b, second.withConsumed b⟩

/-- Runs that are abreast both come to the end, or read the same item and are abreast again. -/
theorem next?_cases (h : Abreast s₀ s₀' s s') :
    (s.next? = none ∧ s'.next? = none) ∨
      ∃ x t t', s.next? = some (x, t) ∧ s'.next? = some (x, t') ∧ Abreast s₀ s₀' t t' := by
  rcases h.left.next?_cases with ⟨ends, ends'⟩ | ⟨x, rest, rest', next, next', left⟩
  · exact .inl ⟨State.next?_eq_none ends, State.next?_eq_none ends'⟩
  · have first := State.next?_eq_some next
    have second := State.next?_eq_some next'
    rcases h.passed with ⟨items, before, before'⟩
    refine .inr ⟨x, _, _, first, second, rfl, left, items ++ [x], ?_, ?_⟩
    · exact before.trans (State.reads_of_next? first).passes
    · exact before'.trans (State.reads_of_next? second).passes

/-- Runs that are abreast both read a literal, and are abreast again, or neither does. -/
theorem readAll?_cases [BEq τ] (h : Abreast s₀ s₀' s s') (items : List τ) :
    (State.readAll? items s = none ∧ State.readAll? items s' = none) ∨
      ∃ t t', State.readAll? items s = some t ∧ State.readAll? items s' = some t' ∧
        Abreast s₀ s₀' t t' := by
  induction items generalizing s s' with
  | nil => exact .inr ⟨s, s', rfl, rfl, h⟩
  | cons x xs ih =>
      unfold State.readAll?
      rcases h.next?_cases with ⟨ends, ends'⟩ | ⟨y, t, t', next, next', abreast⟩
      · rw [ends, ends']
        exact .inl ⟨rfl, rfl⟩
      · rw [next, next']
        by_cases wanted : (y == x) = true
        · simp only [wanted, if_true]
          exact ih abreast
        · simp [wanted]

end State.Abreast

end Descent
