import Descent.Proofs.Input.SameItems
import Descent.Proofs.Parser.Rounds
import Descent.Proofs.Phrase.Execution

/-!
# What a run has read since it left a choice

The flag is cleared where the first branch of a choice is entered.  If the branch succeeds, the
choice ends with the flag that the branch has left, and what was read before the choice no longer
counts.  So the start of such a branch is a reset point of the run, unless what the branch did is
put back: by a look-ahead, a negation or a rejecting selection around it, or because it belongs to
a branch or a round that is given up.

This file follows the items that a run has read through every construct, without looking at the
flag: all of its items, or those since its last reset point.  A part that is put back leaves
nothing, no items and no reset point.  The flag says exactly whether there are any items.

Main definitions:

- `Trail`: the items read since the entry, or since the last reset point.
- `Wrapping.Undoes`, `Wrapping.Keeps`: which combinators put back what their parser did.
- `Leaves`: a run ends in a reply and leaves a trail.

Main results:

- Theorem `Leaves.consumed_eq`: the flag says whether the trail has items.
- Theorem `Leaves.reads`: the items of a trail are the last ones that the run has read.
- Theorem `Leaves.consumed_of_remaining_lt`: a run that made progress sets the flag, unless it has
  read nothing since a reset point.
-/

namespace Descent

variable {σ τ π ω α β : Type} {Γ : Families}

/-! ## Trails -/

/-- What a run has read: all of its items, or those since its last reset point. -/
inductive Trail (τ : Type) where
  | sinceEntry (items : List τ)
  | sinceReset (items : List τ)
deriving DecidableEq, Repr

namespace Trail

/-- The items on a trail. -/
def items : Trail τ → List τ
  | sinceEntry xs => xs
  | sinceReset xs => xs

/-- The trail of a part whose start is a reset point. -/
def restart (x : Trail τ) : Trail τ :=
  sinceReset x.items

/-- A trail that is continued by another one. -/
def append : Trail τ → Trail τ → Trail τ
  | sinceEntry xs, sinceEntry ys => sinceEntry (xs ++ ys)
  | sinceReset xs, sinceEntry ys => sinceReset (xs ++ ys)
  | _, sinceReset ys => sinceReset ys

/-- Nothing was read since a reset point. -/
def IsStale (x : Trail τ) : Prop :=
  x = sinceReset []

/-- The flag that a trail leaves, given the flag of the entry. -/
def flag (entry : Bool) : Trail τ → Bool
  | sinceEntry xs => entry || !xs.isEmpty
  | sinceReset xs => !xs.isEmpty

@[simp]
theorem flag_sinceEntry_nil (entry : Bool) : (sinceEntry [] : Trail τ).flag entry = entry := by
  simp [flag]

/-- From a clear flag, the flag says whether there are items. -/
theorem flag_false (x : Trail τ) : x.flag false = !x.items.isEmpty := by
  cases x with
  | sinceEntry xs => exact Bool.false_or _
  | sinceReset xs => rfl

@[simp]
theorem flag_restart (entry : Bool) (x : Trail τ) : x.restart.flag entry = x.flag false :=
  (flag_false x).symm

/-- A trail that sets the flag sets it whatever it was before. -/
theorem flag_eq_true {x : Trail τ} (set : x.flag false = true) (entry : Bool) :
    x.flag entry = true := by
  cases x with
  | sinceEntry xs =>
      have some : (!xs.isEmpty) = true := set
      rw [flag, some, Bool.or_true]
  | sinceReset xs => exact set

/-- The second part of a sequence is entered with the flag that the first part left. -/
@[simp]
theorem flag_append (entry : Bool) (x y : Trail τ) :
    (x.append y).flag entry = y.flag (x.flag entry) := by
  cases y with
  | sinceReset ys => cases x <;> rfl
  | sinceEntry ys =>
      cases x with
      | sinceEntry xs => cases xs <;> simp [append, flag]
      | sinceReset xs => cases xs <;> simp [append, flag]

/-- What is accounted for leaves the flag of its trail. -/
theorem flag_of_accounts [Input σ τ π] {xs : List τ} {s t : State σ π} (h : s.Accounts xs t) :
    t.consumed = (sinceEntry xs).flag s.consumed := by
  rw [Bool.eq_iff_iff, h.consumed_iff]
  simp [flag]

/-- The trail has the last of these items, and all of them if it goes back to the entry. -/
def IsLastOf : Trail τ → List τ → Prop
  | sinceEntry xs, all => xs = all
  | sinceReset xs, all => xs <:+ all

theorem IsLastOf.restart {x : Trail τ} {xs : List τ} (h : x.IsLastOf xs) :
    x.restart.IsLastOf xs := by
  cases x with
  | sinceEntry ys =>
      rcases h with rfl
      exact List.suffix_refl ys
  | sinceReset ys => exact h

theorem IsLastOf.append {x y : Trail τ} {xs ys : List τ} (h : x.IsLastOf xs)
    (h' : y.IsLastOf ys) : (x.append y).IsLastOf (xs ++ ys) := by
  cases y with
  | sinceReset zs =>
      have later : zs <:+ xs ++ ys := List.IsSuffix.trans h' (List.suffix_append xs ys)
      cases x with
      | sinceEntry _ => exact later
      | sinceReset _ => exact later
  | sinceEntry zs =>
      rcases h' with rfl
      cases x with
      | sinceEntry _ => exact congrArg (· ++ zs) h
      | sinceReset _ =>
          rcases h with ⟨before, rfl⟩
          exact ⟨before, (List.append_assoc before _ zs).symm⟩

end Trail

/-! ## Leaves and wrappings -/

namespace Primitive

/-- The primitive puts a state in place or sets the flag by hand. -/
def IsSetter : Primitive σ τ π α → Prop
  | putState _ => True
  | setConsumed _ => True
  | _ => False

variable [Input σ τ π]

/-- The items that a primitive reads in a state. -/
def itemsRead : Primitive σ τ π α → State σ π → List τ
  | satisfy accept _, s =>
      match s.next? with
      | some (x, _) => if accept x then [x] else []
      | none => []
  | literal items _, s => if (s.readAll? items).isSome then Input.take items.length s.input else []
  | _, _ => []

/-- A primitive ends behind the items that it reads, and its flag accounts for them. -/
theorem accounts_itemsRead (p : Primitive σ τ π α) (s : State σ π) (reads : ¬p.IsSetter) :
    s.Accounts (p.itemsRead s) (p.reply s).state := by
  cases p with
  | putState _ => exact (reads trivial).elim
  | setConsumed _ => exact (reads trivial).elim
  | satisfy accept expected =>
      rw [itemsRead, reply]
      cases next : s.next? with
      | none => exact .refl s
      | some found =>
          rcases found with ⟨x, t⟩
          cases accepted : accept x with
          | true => simpa [accepted] using State.accounts_of_next? next
          | false => simpa [accepted] using State.Accounts.refl s
  | literal items expected =>
      rw [itemsRead, reply]
      cases read : s.readAll? items with
      | none => exact .refl s
      | some t =>
          rcases State.accounts_of_readAll? read with ⟨xs, accounts, length⟩
          rw [← length, accounts.input.take_length]
          exact accounts
  | eof =>
      rw [reply]
      split
      · exact .refl s
      · exact .refl s
  | _ => exact .refl s

end Primitive

namespace Wrapping

/-- The combinator goes back to the place where it was entered, and all that its parser did is put
back: a look-ahead, a negation, or a selection that rejects the value. -/
def Undoes : Wrapping σ π α β → Reply σ π α → Prop
  | notFollowedBy, _ => True
  | lookAhead, _ => True
  | filterMap decide _, r => ∃ a t, r = .ok a t ∧ decide a = none
  | _, _ => False

/-- The combinator ends in the state that its parser ended in.  A failed attempt does not, because
of its flag, and it does not go back either. -/
def Keeps : Wrapping σ π α β → Reply σ π α → Prop
  | notFollowedBy, _ => False
  | lookAhead, _ => False
  | attempt, r => ∃ a t, r = .ok a t
  | filterMap decide _, r => ¬∃ a t, r = .ok a t ∧ decide a = none
  | _, _ => True

variable {w : Wrapping σ π α β} {r : Reply σ π α}

theorem Undoes.not_keeps (h : w.Undoes r) : ¬w.Keeps r := by
  cases w with
  | notFollowedBy => exact not_false
  | lookAhead => exact not_false
  | filterMap decide message => exact fun keeps => keeps h
  | _ => exact h.elim

theorem Undoes.state_change (h : w.Undoes r) (s : State σ π) : (w.change s r).state = s := by
  cases w with
  | notFollowedBy =>
      cases r with
      | ok a t => rfl
      | error e t => rfl
  | lookAhead => rfl
  | filterMap decide message =>
      rcases h with ⟨a, t, rfl, rejected⟩
      rw [change, Reply.select_ok_of_none message s t rejected]
      rfl
  | _ => exact h.elim

theorem Keeps.state_change (h : w.Keeps r) (s : State σ π) :
    (w.change s r).state = r.state := by
  cases w with
  | notFollowedBy => exact h.elim
  | lookAhead => exact h.elim
  | attempt =>
      rcases h with ⟨a, t, rfl⟩
      rfl
  | filterMap decide message =>
      cases r with
      | ok a t =>
          cases kept : decide a with
          | none => exact (h ⟨a, t, rfl, kept⟩).elim
          | some b =>
              rw [change, Reply.select_ok_of_some message s t kept]
              rfl
      | error e t => rfl
  | _ => rfl

end Wrapping

/-! ## Runs and their trails -/

/-- Run from a state, the phrase ends in this reply and leaves this trail.  A part whose run is put
back, or given up, has only to be performed: whatever it read and whatever choices it left are no
longer there. -/
inductive Leaves [Input σ τ π] : {Γ : Families} → Definitions σ τ π ω Γ → {α : Type} →
    Phrase σ τ π ω Γ α → State σ π → Reply σ π α → Trail τ → Prop where
  | primitive {Γ : Families} {defs : Definitions σ τ π ω Γ} {α : Type} (p : Primitive σ τ π α)
      (s : State σ π) (reads : ¬p.IsSetter) :
      Leaves defs (.primitive p) s (p.reply s) (.sinceEntry (p.itemsRead s))
  | getState {Γ : Families} {defs : Definitions σ τ π ω Γ} (s : State σ π) :
      Leaves defs .getState s (.ok s s) (.sinceEntry [])
  | lift {Γ : Families} {defs : Definitions σ τ π ω Γ} {α : Type} (label : ω) (value : α)
      (s : State σ π) : Leaves defs (.lift label value) s (.ok value s) (.sinceEntry [])
  | wrap {Γ : Families} {defs : Definitions σ τ π ω Γ} {α β : Type} {g : Phrase σ τ π ω Γ α}
      {s : State σ π} {r : Reply σ π α} {x : Trail τ} (w : Wrapping σ π α β)
      (inner : Leaves defs g s r x) (keeps : w.Keeps r) :
      Leaves defs (.wrap w g) s (w.change s r) x
  /-- The run goes on from the entry of the wrapping as if its parser had not been run. -/
  | wrapBack {Γ : Families} {defs : Definitions σ τ π ω Γ} {α β : Type}
      {g : Phrase σ τ π ω Γ α} {s : State σ π} {labels : List ω} {r : Reply σ π α}
      (w : Wrapping σ π α β) (inner : Performs defs g s labels r) (undoes : w.Undoes r) :
      Leaves defs (.wrap w g) s (w.change s r) (.sinceEntry [])
  | andThen {Γ : Families} {defs : Definitions σ τ π ω Γ} {α β : Type}
      {g : Phrase σ τ π ω Γ α} {k : α → Phrase σ τ π ω Γ β} {s t : State σ π} {a : α}
      {r : Reply σ π β} {x y : Trail τ} (first : Leaves defs g s (.ok a t) x)
      (second : Leaves defs (k a) t r y) : Leaves defs (.andThen g k) s r (x.append y)
  | andThenError {Γ : Families} {defs : Definitions σ τ π ω Γ} {α β : Type}
      {g : Phrase σ τ π ω Γ α} {k : α → Phrase σ τ π ω Γ β} {s t : State σ π}
      {e : ParseError π} {x : Trail τ} (first : Leaves defs g s (.error e t) x) :
      Leaves defs (.andThen g k) s (.error e t) x
  /-- The choice is left through its first branch, whose start is a reset point. -/
  | orElseFirst {Γ : Families} {defs : Definitions σ τ π ω Γ} {α : Type}
      {g h : Phrase σ τ π ω Γ α} {s : State σ π} {r : Reply σ π α} {x : Trail τ}
      (first : Leaves defs g (s.withConsumed false) r x) (kept : r.isRecoverable = false) :
      Leaves defs (.orElse g h) s r x.restart
  /-- The first branch is given up, and its start is no reset point. -/
  | orElseSecond {Γ : Families} {defs : Definitions σ τ π ω Γ} {α : Type}
      {g h : Phrase σ τ π ω Γ α} {s : State σ π} {labels : List ω} {r r' : Reply σ π α}
      {x : Trail τ} (first : Performs defs g (s.withConsumed false) labels r)
      (recoverable : r.isRecoverable = true) (second : Leaves defs h s r' x) :
      Leaves defs (.orElse g h) s r' x
  /-- The round that ends a repetition is given up. -/
  | manyStop {Γ : Families} {defs : Definitions σ τ π ω Γ} {α : Type} {g : Phrase σ τ π ω Γ α}
      {s t : State σ π} {labels : List ω} {e : ParseError π}
      (round : Performs defs g (s.withConsumed false) labels (.error e t))
      (clear : t.consumed = false) : Leaves defs (.many g) s (.ok [] s) (.sinceEntry [])
  /-- A round has read something, and what is left of the repetition starts behind it. -/
  | manyNext {Γ : Families} {defs : Definitions σ τ π ω Γ} {α : Type} {g : Phrase σ τ π ω Γ α}
      {s t u : State σ π} {a : α} {values : List α} {x y : Trail τ}
      (round : Leaves defs g (s.withConsumed false) (.ok a t) x) (consumed : t.consumed = true)
      (rest : Leaves defs (.many g) t (.ok values u) y) :
      Leaves defs (.many g) s (.ok (a :: values) u) (x.append y)
  | rules {Γ : Families} {defs : Definitions σ τ π ω Γ} {ι α : Type}
      {define : ι → Phrase σ τ π ω ((ι, α) :: Γ) α} {i : ι} {s : State σ π} {r : Reply σ π α}
      {x : Trail τ} (body : Leaves (defs.family define) (define i) s r x) :
      Leaves defs (.rules define i) s r x
  | here {Γ : Families} {defs : Definitions σ τ π ω Γ} {ι α : Type}
      {define : ι → Phrase σ τ π ω ((ι, α) :: Γ) α} {i : ι} {s : State σ π} {r : Reply σ π α}
      {x : Trail τ} (body : Leaves (defs.family define) (define i) s r x) :
      Leaves (defs.family define) (.call (.here i)) s r x
  | there {Γ : Families} {defs : Definitions σ τ π ω Γ} {ι α β : Type}
      {define : ι → Phrase σ τ π ω ((ι, α) :: Γ) α} {name : RuleName Γ β} {s : State σ π}
      {r : Reply σ π β} {x : Trail τ} (outer : Leaves defs (.call name) s r x) :
      Leaves (defs.family define) (.call (.there name)) s r x

variable [Input σ τ π] {defs : Definitions σ τ π ω Γ} {s : State σ π}

namespace Leaves

variable {g : Phrase σ τ π ω Γ α} {r : Reply σ π α} {x : Trail τ}

/-- The flag says whether something was read since the last reset point, or else since the flag
was set before. -/
theorem consumed_eq (h : Leaves defs g s r x) : r.state.consumed = x.flag s.consumed := by
  induction h with
  | primitive p s reads => exact Trail.flag_of_accounts (p.accounts_itemsRead s reads)
  | getState s => exact (Trail.flag_sinceEntry_nil s.consumed).symm
  | lift label value s => exact (Trail.flag_sinceEntry_nil s.consumed).symm
  | wrap w _ keeps ih => rw [keeps.state_change, ih]
  | wrapBack w _ undoes => rw [undoes.state_change, Trail.flag_sinceEntry_nil]
  | andThen _ _ ihg ihk => rw [ihk, Trail.flag_append, ← ihg, Reply.state_ok]
  | andThenError _ ih => exact ih
  | orElseFirst _ _ ih => rw [ih, Trail.flag_restart, State.consumed_withConsumed]
  | orElseSecond _ _ _ ih => exact ih
  | manyStop _ _ => rw [Reply.state_ok, Trail.flag_sinceEntry_nil]
  | manyNext _ consumed _ ihg ihr =>
      -- The round is entered with the flag clear, but it would have set it anyway.
      rw [Reply.state_ok, consumed, State.consumed_withConsumed] at ihg
      rw [Reply.state_ok] at ihr ⊢
      rw [ihr, Trail.flag_append, Trail.flag_eq_true ihg.symm, consumed]
  | rules _ ih => exact ih
  | here _ ih => exact ih
  | there _ ih => exact ih

/-- The items of a trail are the last ones that the run has read, and without a reset point they
are all of them. -/
theorem reads (h : Leaves defs g s r x) : ∃ all, s.Reads all r.state ∧ x.IsLastOf all := by
  induction h with
  | primitive p s reads => exact ⟨p.itemsRead s, (p.accounts_itemsRead s reads).toReads, rfl⟩
  | getState s => exact ⟨[], .refl s, rfl⟩
  | lift label value s => exact ⟨[], .refl s, rfl⟩
  | wrap w _ keeps ih =>
      rw [keeps.state_change]
      exact ih
  | wrapBack w _ undoes =>
      rw [undoes.state_change]
      exact ⟨[], .refl _, rfl⟩
  | andThen _ _ ihg ihk =>
      rcases ihg with ⟨xs, first, last⟩
      rcases ihk with ⟨ys, second, last'⟩
      exact ⟨xs ++ ys, first.trans second, last.append last'⟩
  | andThenError _ ih => exact ih
  | orElseFirst _ _ ih =>
      rcases ih with ⟨xs, first, last⟩
      exact ⟨xs, first.of_clear, last.restart⟩
  | orElseSecond _ _ _ ih => exact ih
  | manyStop _ _ => exact ⟨[], .refl _, rfl⟩
  | manyNext _ _ _ ihg ihr =>
      rcases ihg with ⟨xs, round, last⟩
      rcases ihr with ⟨ys, rest, last'⟩
      exact ⟨xs ++ ys, round.of_clear.trans rest, last.append last'⟩
  | rules _ ih => exact ih
  | here _ ih => exact ih
  | there _ ih => exact ih

/-- A run that was entered with the flag clear and left a stale trail ends with the flag clear,
however much it had read before its last reset point. -/
theorem consumed_of_isStale (h : Leaves defs g (s.withConsumed false) r x) (stale : x.IsStale) :
    r.state.consumed = false := by
  rw [h.consumed_eq, stale]
  rfl

/-- A run that was entered with the flag clear, made progress and did not leave a stale trail ends
with the flag set. -/
theorem consumed_of_remaining_lt [FiniteInput σ] (h : Leaves defs g (s.withConsumed false) r x)
    (less : r.state.remaining < s.remaining) (fresh : ¬x.IsStale) : r.state.consumed = true := by
  rcases h.reads with ⟨all, reads, last⟩
  have read : all ≠ [] := reads.remaining_lt_iff.mp less
  have nonempty : x.items ≠ [] := by
    cases x with
    | sinceEntry xs =>
        rcases last with rfl
        exact read
    | sinceReset xs => exact fun none => fresh (congrArg Trail.sinceReset none)
  have flag := h.consumed_eq
  rw [State.consumed_withConsumed, Trail.flag_false] at flag
  rw [flag]
  simpa using nonempty

/-- A run that ends with the flag clear left a stale trail or the input as it was. -/
theorem isStale_or_input_eq (h : Leaves defs g (s.withConsumed false) r x)
    (clear : r.state.consumed = false) : x.IsStale ∨ r.state.input = s.input := by
  have flag := h.consumed_eq
  rw [clear, State.consumed_withConsumed, Trail.flag_false] at flag
  have none : x.items = [] := by simpa using flag.symm
  cases x with
  | sinceReset xs => exact .inl (congrArg Trail.sinceReset none)
  | sinceEntry xs =>
      rcases h.reads with ⟨all, reads, rfl⟩
      have empty : xs = [] := none
      subst empty
      exact .inr reads.input.eq_of_nil.symm

end Leaves

end Descent
