import Descent.State

/-!
# Reading several items

What it means that one input, or one state, is reached from another by reading items.

Main definitions:

- `Input.Reads`: an input is what is left of another after some items.
- `State.Reads`: the same for states, with the position advanced over the items and the
  flag set only for a reason.
- `State.Accounts`: the same, with the flag set whenever there is a reason for it.
- `State.Passes`: the same whatever the flags.
- `FiniteInput`: inputs that list the items that are left.

Main results:

- Theorem `State.Reads.trans`: reading on.
- Theorem `Input.Reads.items_eq`: the items read and the items left are the items there were.
- Theorem `State.readAll?_eq_some_iff`: where a run of items can be read, and where this leads.
-/

namespace Descent

variable {σ τ π : Type}

/-! ## Inputs -/

/-- Reading these items one after the other leads from the first input to the second. -/
inductive Input.Reads [Input σ τ π] : σ → List τ → σ → Prop where
  | stay (input : σ) : Reads input [] input
  | item {input rest last : σ} {x : τ} {xs : List τ}
      (next : Input.next? input = some (x, rest)) (more : Reads rest xs last) :
      Reads input (x :: xs) last

theorem Input.Reads.trans [Input σ τ π] {i j k : σ} {xs ys : List τ} (h : Input.Reads i xs j)
    (h' : Input.Reads j ys k) : Input.Reads i (xs ++ ys) k := by
  induction h with
  | stay input => exact h'
  | item next _ ih => exact .item next (ih h')

/-- Without an item read the input is the same. -/
theorem Input.Reads.eq_of_nil [Input σ τ π] {i j : σ} (h : Input.Reads i ([] : List τ) j) :
    i = j := by
  cases h
  rfl

/-! ## States -/

/-- The second state is reached from the first by reading these items: the position has
advanced over each of them in order, and the flag is set only if it was set before or
something was read. -/
structure State.Reads [Input σ τ π] (s : State σ π) (xs : List τ) (t : State σ π) : Prop where
  input : Input.Reads s.input xs t.input
  position : t.position = xs.foldl (Input.advance σ) s.position
  consumed : t.consumed = true → s.consumed = true ∨ xs ≠ []

namespace State.Reads

variable [Input σ τ π] {s t u : State σ π} {xs ys : List τ}

/-- Nothing is read where a run stays. -/
theorem refl (s : State σ π) : s.Reads ([] : List τ) s where
  input := .stay s.input
  position := rfl
  consumed := .inl

/-- Reading on. -/
theorem trans (h : s.Reads xs t) (h' : t.Reads ys u) : s.Reads (xs ++ ys) u where
  input := h.input.trans h'.input
  position := by rw [List.foldl_append, ← h.position, ← h'.position]
  consumed flag := by
    rcases h'.consumed flag with before | read
    · rcases h.consumed before with entry | read
      · exact .inl entry
      · exact .inr (List.append_ne_nil_of_left_ne_nil read ys)
    · exact .inr (List.append_ne_nil_of_right_ne_nil xs read)

/-- What is read with the flag cleared is read with the flag as it was. -/
theorem of_clear (h : (s.withConsumed false).Reads xs t) : s.Reads xs t where
  input := h.input
  position := h.position
  consumed flag := by
    rcases h.consumed flag with clear | read
    · cases clear
    · exact .inr read

/-- Clearing the flag afterwards takes nothing back. -/
theorem clear (h : s.Reads xs t) : s.Reads xs (t.withConsumed false) where
  input := h.input
  position := h.position
  consumed flag := by cases flag

/-- Neither does setting it to what it was before. -/
theorem restore (h : s.Reads xs t) : s.Reads xs (t.withConsumed s.consumed) where
  input := h.input
  position := h.position
  consumed := .inl

end State.Reads

/-- The next item of a state is one item read. -/
theorem State.reads_of_next? [Input σ τ π] {s t : State σ π} {x : τ}
    (h : s.next? = some (x, t)) : s.Reads [x] t := by
  unfold State.next? at h
  split at h
  · cases h
  · rename_i y rest hnext
    cases h
    exact ⟨.item hnext (.stay rest), rfl, fun _ => .inr (List.cons_ne_nil _ _)⟩

/-- All the items of a literal are items read. -/
theorem State.reads_of_readAll? [Input σ τ π] [BEq τ] {items : List τ} {s t : State σ π}
    (h : State.readAll? items s = some t) :
    ∃ xs : List τ, s.Reads xs t ∧ xs.length = items.length := by
  induction items generalizing s with
  | nil =>
      rcases Option.some.inj h with rfl
      exact ⟨[], .refl s, rfl⟩
  | cons x xs ih =>
      unfold State.readAll? at h
      split at h
      · rename_i y rest hnext
        split at h
        · rcases ih h with ⟨ys, hys, hlength⟩
          have reads : s.Reads (y :: ys) t := (reads_of_next? hnext).trans hys
          exact ⟨y :: ys, reads, congrArg (· + 1) hlength⟩
        · cases h
      · cases h

/-! ## Flags with a reason -/

/-- The second state is reached from the first by reading these items, and its flag is set
whenever there is a reason for it: it was set before, or something was read. -/
structure State.Accounts [Input σ τ π] (s : State σ π) (xs : List τ) (t : State σ π) : Prop
    extends State.Reads s xs t where
  set : s.consumed = true ∨ xs ≠ [] → t.consumed = true

namespace State.Accounts

variable [Input σ τ π] {s t u : State σ π} {xs ys : List τ}

theorem refl (s : State σ π) : s.Accounts ([] : List τ) s where
  toReads := .refl s
  set := by
    rintro (entry | read)
    · exact entry
    · exact (read rfl).elim

/-- Reading that leaves the flag set. -/
theorem of_consumed (h : s.Reads xs t) (consumed : t.consumed = true) : s.Accounts xs t where
  toReads := h
  set := fun _ => consumed

theorem trans (h : s.Accounts xs t) (h' : t.Accounts ys u) : s.Accounts (xs ++ ys) u where
  toReads := h.toReads.trans h'.toReads
  set := by
    rintro (entry | read)
    · exact h'.set (.inl (h.set (.inl entry)))
    · by_cases first : xs = []
      · subst first
        exact h'.set (.inr read)
      · exact h'.set (.inl (h.set (.inr first)))

/-- The flag is set exactly if there is a reason for it. -/
theorem consumed_iff (h : s.Accounts xs t) :
    t.consumed = true ↔ s.consumed = true ∨ xs ≠ [] :=
  ⟨h.consumed, h.set⟩

end State.Accounts

theorem State.accounts_of_next? [Input σ τ π] {s t : State σ π} {x : τ}
    (h : s.next? = some (x, t)) : s.Accounts [x] t :=
  .of_consumed (reads_of_next? h) (consumed_of_next? h)

/-- The empty literal stays where it is, and every other one sets the flag. -/
theorem State.accounts_of_readAll? [Input σ τ π] [BEq τ] {items : List τ} {s t : State σ π}
    (h : State.readAll? items s = some t) :
    ∃ xs : List τ, s.Accounts xs t ∧ xs.length = items.length := by
  cases items with
  | nil =>
      rcases Option.some.inj h with rfl
      exact ⟨[], .refl s, rfl⟩
  | cons x xs =>
      rcases reads_of_readAll? h with ⟨ys, reads, length⟩
      exact ⟨ys, .of_consumed reads (consumed_of_readAll? h), length⟩

/-! ## Whatever the flags -/

/-- The second state is a place that is reached from the first by passing these items, whatever
the flags of the two. -/
structure State.Passes [Input σ τ π] (s : State σ π) (xs : List τ) (t : State σ π) : Prop where
  input : Input.Reads s.input xs t.input
  position : t.position = xs.foldl (Input.advance σ) s.position

namespace State.Passes

variable [Input σ τ π] {s t u : State σ π} {xs ys : List τ}

theorem refl (s : State σ π) : s.Passes ([] : List τ) s where
  input := .stay s.input
  position := rfl

theorem trans (h : s.Passes xs t) (h' : t.Passes ys u) : s.Passes (xs ++ ys) u where
  input := h.input.trans h'.input
  position := by rw [List.foldl_append, ← h.position, ← h'.position]

/-- The flag may be replaced in either place. -/
theorem withConsumed (h : s.Passes xs t) (b : Bool) : s.Passes xs (t.withConsumed b) where
  input := h.input
  position := h.position

theorem of_withConsumed {b : Bool} (h : (s.withConsumed b).Passes xs t) : s.Passes xs t where
  input := h.input
  position := h.position

end State.Passes

/-- What is read is passed. -/
theorem State.Reads.passes [Input σ τ π] {s t : State σ π} {xs : List τ} (h : s.Reads xs t) :
    s.Passes xs t where
  input := h.input
  position := h.position

/-! ## Inputs with finitely many items -/

/-- An input that ends, and lists the items that are left. -/
class FiniteInput (σ : Type) {τ π : outParam Type} [Input σ τ π] where
  /-- The items that are left, in order. -/
  items : σ → List τ
  items_of_next?_none {input : σ} (h : Input.next? input = none) : items input = []
  items_of_next?_some {input rest : σ} {x : τ} (h : Input.next? input = some (x, rest)) :
    items input = x :: items rest

instance : FiniteInput Text where
  items := Text.chars
  items_of_next?_none {input} h := by
    rcases input with ⟨_ | ⟨c, cs⟩⟩
    · rfl
    · cases h
  items_of_next?_some {input rest x} h := by
    rcases input with ⟨_ | ⟨c, cs⟩⟩
    · cases h
    · cases h
      rfl

instance : FiniteInput (List τ) where
  items := id
  items_of_next?_none {input} h := by
    cases input with
    | nil => rfl
    | cons x xs => cases h
  items_of_next?_some {input rest x} h := by
    cases input with
    | nil => cases h
    | cons x xs =>
        cases h
        rfl

instance : FiniteInput ByteText where
  items := ByteText.chars
  items_of_next?_none {input} h := by
    rcases input with ⟨_ | ⟨c, cs⟩⟩
    · rfl
    · cases h
  items_of_next?_some {input rest x} h := by
    rcases input with ⟨_ | ⟨c, cs⟩⟩
    · cases h
    · cases h
      rfl

/-- The items of a finite input are those read and, after them, those left. -/
theorem Input.Reads.items_eq [Input σ τ π] [FiniteInput σ] {i j : σ} {xs : List τ}
    (h : Input.Reads i xs j) : FiniteInput.items i = xs ++ FiniteInput.items j := by
  induction h with
  | stay input => rfl
  | item next _ ih => rw [FiniteInput.items_of_next?_some next, ih, List.cons_append]

/-- How many items are left to read. -/
def State.remaining [Input σ τ π] [FiniteInput σ] (s : State σ π) : Nat :=
  (FiniteInput.items s.input).length

@[simp]
theorem State.remaining_withConsumed [Input σ τ π] [FiniteInput σ] (s : State σ π) (b : Bool) :
    (s.withConsumed b).remaining = s.remaining :=
  rfl

/-- Each item read is one item less to read. -/
theorem State.Reads.remaining_eq [Input σ τ π] [FiniteInput σ] {s t : State σ π} {xs : List τ}
    (h : s.Reads xs t) : s.remaining = xs.length + t.remaining := by
  rw [State.remaining, h.input.items_eq, List.length_append]
  rfl

/-- Fewer items are left exactly if an item was read. -/
theorem State.Reads.remaining_lt_iff [Input σ τ π] [FiniteInput σ] {s t : State σ π}
    {xs : List τ} (h : s.Reads xs t) : t.remaining < s.remaining ↔ xs ≠ [] := by
  have total := h.remaining_eq
  cases xs with
  | nil =>
      rw [List.length_nil] at total
      constructor
      · intro less
        omega
      · intro ne
        exact (ne rfl).elim
  | cons x xs =>
      rw [List.length_cons] at total
      constructor
      · intro _
        exact List.cons_ne_nil x xs
      · intro _
        omega

/-! ## Runs of items -/

theorem Input.reads_cons_iff [Input σ τ π] {i j : σ} {x : τ} {xs : List τ} :
    Input.Reads i (x :: xs) j ↔
      ∃ rest, Input.next? i = some (x, rest) ∧ Input.Reads rest xs j := by
  constructor
  · intro reads
    cases reads with
    | item next more => exact ⟨_, next, more⟩
  · rintro ⟨rest, next, more⟩
    exact .item next more

/-- A finite input can be read over exactly those items that its own items start with. -/
theorem Input.exists_reads_iff [Input σ τ π] [FiniteInput σ] {i : σ} {xs : List τ} :
    (∃ j, Input.Reads i xs j) ↔ xs <+: FiniteInput.items i := by
  constructor
  · rintro ⟨j, reads⟩
    exact ⟨FiniteInput.items j, reads.items_eq.symm⟩
  · intro starts
    induction xs generalizing i with
    | nil => exact ⟨i, .stay i⟩
    | cons x xs ih =>
        cases next : Input.next? i with
        | none =>
            rw [FiniteInput.items_of_next?_none next] at starts
            cases List.prefix_nil.mp starts
        | some found =>
            rcases found with ⟨y, rest⟩
            rw [FiniteInput.items_of_next?_some next, List.cons_prefix_cons] at starts
            rcases starts with ⟨rfl, starts⟩
            rcases ih starts with ⟨j, reads⟩
            exact ⟨j, .item next reads⟩

section ReadAll

variable [Input σ τ π] [BEq τ]

theorem State.readAll?_cons_of_none {x : τ} {xs : List τ} {s : State σ π} (h : s.next? = none) :
    s.readAll? (x :: xs) = none := by
  rw [readAll?, h]

theorem State.readAll?_cons_of_some {x y : τ} {xs : List τ} {s t : State σ π}
    (h : s.next? = some (y, t)) :
    s.readAll? (x :: xs) = if y == x then t.readAll? xs else none := by
  rw [readAll?, h]

/-- Reading two runs of items one after the other. -/
theorem State.readAll?_append (xs ys : List τ) (s : State σ π) :
    s.readAll? (xs ++ ys) = (s.readAll? xs).bind (·.readAll? ys) := by
  induction xs generalizing s with
  | nil => rfl
  | cons x xs ih =>
      rw [List.cons_append]
      cases next : s.next? with
      | none =>
          rw [readAll?_cons_of_none next, readAll?_cons_of_none next]
          rfl
      | some found =>
          rcases found with ⟨y, t⟩
          rw [readAll?_cons_of_some next, readAll?_cons_of_some next]
          cases same : y == x with
          | true => exact ih t
          | false => rfl

/-- A run of items is read exactly if the input can be read over them; the position is advanced
over each of them in order, and the flag is set unless there are none. -/
theorem State.readAll?_eq_some_iff [LawfulBEq τ] {xs : List τ} {s t : State σ π} :
    s.readAll? xs = some t ↔
      Input.Reads s.input xs t.input ∧ t.position = xs.foldl (Input.advance σ) s.position ∧
        t.consumed = (s.consumed || !xs.isEmpty) := by
  induction xs generalizing s with
  | nil =>
      rw [readAll?_nil, Option.some_inj]
      constructor
      · rintro rfl
        exact ⟨.stay s.input, rfl, by simp⟩
      · rintro ⟨reads, position, consumed⟩
        rcases s with ⟨input, here, flag⟩
        rcases t with ⟨input', here', flag'⟩
        have same : input = input' := reads.eq_of_nil
        simp_all
  | cons x xs ih =>
      rw [Input.reads_cons_iff]
      cases next : Input.next? s.input with
      | none =>
          rw [readAll?_cons_of_none (next?_eq_none next)]
          simp
      | some found =>
          rcases found with ⟨y, rest⟩
          rw [readAll?_cons_of_some (next?_eq_some next)]
          by_cases same : y = x
          · subst same
            rw [if_pos (beq_self_eq_true y), ih]
            simp [State.advance]
          · rw [if_neg (by simpa using same)]
            simp [same]

/-- On a finite input a run of items can be read exactly where the input starts with them. -/
theorem State.exists_readAll?_iff [LawfulBEq τ] [FiniteInput σ] {xs : List τ} {s : State σ π} :
    (∃ t, s.readAll? xs = some t) ↔ xs <+: FiniteInput.items s.input := by
  rw [← Input.exists_reads_iff]
  constructor
  · rintro ⟨t, read⟩
    exact ⟨t.input, (readAll?_eq_some_iff.mp read).1⟩
  · rintro ⟨rest, reads⟩
    exact ⟨⟨rest, xs.foldl (Input.advance σ) s.position, s.consumed || !xs.isEmpty⟩,
      readAll?_eq_some_iff.mpr ⟨reads, rfl, rfl⟩⟩

end ReadAll

end Descent
