import Descent.Parser.Lookahead
import Descent.Proofs.Laws.Sequence
import Descent.Proofs.Laws.Wrapping
import Mathlib.Logic.Function.Iterate

/-!
# Wrappers around wrappers

The wrappers that give something back give back what the state was when they were entered: an
attempt gives back the flag of a failure, a look-ahead the state of every reply, and `atStart` the
position of an error.  Wrappers around each other are entered with one state.  So there are two
reasons for one to absorb the other.  Behind a wrapper that ends where it was entered, the outer one
finds nothing to give back.  And an outer wrapper that looks only at the result does not see what
the inner one has done to the state.

Main definitions:

- `Parser.Restores` and `Parser.LeavesRestored`: the two sides of the first reason.
- `Parser.KeepsResult` and `Parser.SeesResult`: the two sides of the second reason.

Main results:

- Theorems `Restores.revise_absorbs` and `SeesResult.revise_absorbs`: the two reasons.
- Theorems `attempt_attempt`, `lookAhead_lookAhead`, `atStart_atStart` and
  `orElse_empty_orElse_empty`: wrappers that absorb themselves.
- Theorem `notFollowedBy_twice`: what is left of a parser behind two negations.
- Theorem `nested_wrappers_collapse`: wrappers nested to any depth.
-/

namespace Descent

variable {m : Type → Type} {σ π α β : Type}

/-! ## What is given back -/

namespace Reply

/-- A failure gets the flag of the entry, and a success stays as it is. -/
def giveBackFlag (entry : State σ π) (reply : Reply σ π α) : Reply σ π α :=
  match reply.result with
  | .ok _ => reply
  | .error e => .error e (reply.state.withConsumed entry.consumed)

/-- The run ends where it was entered. -/
def giveBackState (entry : State σ π) (reply : Reply σ π α) : Reply σ π α :=
  { reply with state := entry }

/-- A failure where there was a success, and the other way around; the run ends where it was
entered. -/
def negate (entry : State σ π) (reply : Reply σ π α) : Reply σ π Unit :=
  match reply.result with
  | .ok _ => .errorHere Parser.unexpectedMatchMessage entry
  | .error _ => .ok () entry

end Reply

namespace Parser

section

variable [Monad m] (p : Parser m σ π α)

theorem attempt_eq_revise : p.attempt = p.revise Reply.giveBackFlag :=
  rfl

theorem lookAhead_eq_revise : p.lookAhead = p.revise Reply.giveBackState :=
  rfl

theorem notFollowedBy_eq_revise : p.notFollowedBy = p.revise Reply.negate :=
  rfl

end

/-! ## Why one wrapper absorbs another -/

/-- The wrapper ends where it was entered, wherever its parser has ended. -/
def Restores (change : State σ π → Reply σ π α → Reply σ π β) : Prop :=
  ∀ s reply, (change s reply).state = s

/-- The wrapper leaves a reply as it is that ends where the wrapper was entered. -/
def LeavesRestored (change : State σ π → Reply σ π α → Reply σ π α) : Prop :=
  ∀ s reply, reply.state = s → change s reply = reply

/-- The wrapper changes the state of a reply, and not its result. -/
def KeepsResult (change : State σ π → Reply σ π α → Reply σ π α) : Prop :=
  ∀ s reply, (change s reply).result = reply.result

/-- The wrapper makes the same of all replies with the same result. -/
def SeesResult (change : State σ π → Reply σ π α → Reply σ π β) : Prop :=
  ∀ s reply reply', reply.result = reply'.result → change s reply = change s reply'

section Lawful

variable [Monad m] [LawfulMonad m]

/-- Behind a wrapper that ends where it was entered there is nothing to give back. -/
theorem Restores.revise_absorbs {inner : State σ π → Reply σ π α → Reply σ π β}
    {outer : State σ π → Reply σ π β → Reply σ π β} (restores : Restores inner)
    (leaves : LeavesRestored outer) (p : Parser m σ π α) :
    (p.revise inner).revise outer = p.revise inner :=
  revise_revise_eq p fun s reply => leaves s (inner s reply) (restores s reply)

/-- A wrapper that looks at the result does not see what happened to the state. -/
theorem SeesResult.revise_absorbs {inner : State σ π → Reply σ π α → Reply σ π α}
    {outer : State σ π → Reply σ π α → Reply σ π β} (sees : SeesResult outer)
    (keeps : KeepsResult inner) (p : Parser m σ π α) :
    (p.revise inner).revise outer = p.revise outer :=
  revise_revise_eq p fun s reply => sees s (inner s reply) reply (keeps s reply)

end Lawful

/-! ### Attempts -/

theorem leavesRestored_giveBackFlag :
    LeavesRestored (Reply.giveBackFlag : State σ π → Reply σ π α → Reply σ π α) := by
  rintro s reply rfl
  cases reply with
  | ok a t => rfl
  | error e t => rfl

theorem keepsResult_giveBackFlag :
    KeepsResult (Reply.giveBackFlag : State σ π → Reply σ π α → Reply σ π α) := by
  intro s reply
  cases reply with
  | ok a t => rfl
  | error e t => rfl

/-! ### Looking ahead -/

theorem restores_giveBackState :
    Restores (Reply.giveBackState : State σ π → Reply σ π α → Reply σ π α) :=
  fun _ _ => rfl

theorem leavesRestored_giveBackState :
    LeavesRestored (Reply.giveBackState : State σ π → Reply σ π α → Reply σ π α) := by
  rintro s reply rfl
  rfl

theorem keepsResult_giveBackState :
    KeepsResult (Reply.giveBackState : State σ π → Reply σ π α → Reply σ π α) :=
  fun _ _ => rfl

theorem seesResult_giveBackState :
    SeesResult (Reply.giveBackState : State σ π → Reply σ π α → Reply σ π α) := by
  intro s reply reply' same
  simp [Reply.giveBackState, same]

/-! ### Negations -/

theorem restores_negate : Restores (Reply.negate : State σ π → Reply σ π α → Reply σ π Unit) := by
  intro s reply
  cases reply with
  | ok a t => rfl
  | error e t => rfl

theorem seesResult_negate :
    SeesResult (Reply.negate : State σ π → Reply σ π α → Reply σ π Unit) := by
  intro s reply reply' same
  simp [Reply.negate, same]

/-! ## Attempts and looking ahead -/

section Lawful

variable [Monad m] [LawfulMonad m] (p : Parser m σ π α)

/-- A failed attempt has the flag of the entry, and another attempt gives it the same one. -/
theorem attempt_attempt : p.attempt.attempt = p.attempt := by
  rw [attempt_eq_revise, attempt_eq_revise]
  refine revise_revise_eq p fun s reply => ?_
  cases reply with
  | ok a t => rfl
  | error e t => rfl

theorem lookAhead_lookAhead : p.lookAhead.lookAhead = p.lookAhead := by
  rw [lookAhead_eq_revise, lookAhead_eq_revise]
  exact restores_giveBackState.revise_absorbs leavesRestored_giveBackState p

theorem lookAhead_attempt : p.attempt.lookAhead = p.lookAhead := by
  rw [lookAhead_eq_revise, attempt_eq_revise, lookAhead_eq_revise]
  exact seesResult_giveBackState.revise_absorbs keepsResult_giveBackFlag p

theorem attempt_lookAhead : p.lookAhead.attempt = p.lookAhead := by
  rw [attempt_eq_revise, lookAhead_eq_revise]
  exact restores_giveBackState.revise_absorbs leavesRestored_giveBackFlag p

/-! ## Negations -/

theorem notFollowedBy_attempt : p.attempt.notFollowedBy = p.notFollowedBy := by
  rw [notFollowedBy_eq_revise, attempt_eq_revise, notFollowedBy_eq_revise]
  exact seesResult_negate.revise_absorbs keepsResult_giveBackFlag p

theorem notFollowedBy_lookAhead : p.lookAhead.notFollowedBy = p.notFollowedBy := by
  rw [notFollowedBy_eq_revise, lookAhead_eq_revise, notFollowedBy_eq_revise]
  exact seesResult_negate.revise_absorbs keepsResult_giveBackState p

theorem attempt_notFollowedBy : p.notFollowedBy.attempt = p.notFollowedBy := by
  rw [attempt_eq_revise, notFollowedBy_eq_revise]
  exact restores_negate.revise_absorbs leavesRestored_giveBackFlag p

theorem lookAhead_notFollowedBy : p.notFollowedBy.lookAhead = p.notFollowedBy := by
  rw [lookAhead_eq_revise, notFollowedBy_eq_revise]
  exact restores_negate.revise_absorbs leavesRestored_giveBackState p

/-- Two negations succeed where the parser does, and end where they were entered. -/
theorem notFollowedBy_twice :
    p.notFollowedBy.notFollowedBy = p.revise fun s reply =>
      match reply.result with
      | .ok _ => .ok () s
      | .error _ => .errorHere unexpectedMatchMessage s := by
  rw [notFollowedBy_eq_revise, notFollowedBy_eq_revise]
  refine revise_revise_eq p fun s reply => ?_
  cases reply with
  | ok a t => rfl
  | error e t => rfl

/-- The first negation has thrown away the value and the error, so that the other two have nothing
left to lose. -/
theorem notFollowedBy_thrice : p.notFollowedBy.notFollowedBy.notFollowedBy = p.notFollowedBy := by
  rw [notFollowedBy_twice p, notFollowedBy_eq_revise, notFollowedBy_eq_revise]
  refine revise_revise_eq p fun s reply => ?_
  cases reply with
  | ok a t => rfl
  | error e t => rfl

/-! ## Errors and choices -/

/-- An error that is about the place of the entry is not moved again. -/
theorem atStart_atStart : p.atStart.atStart = p.atStart := by
  refine revise_revise_eq _ fun s reply => ?_
  cases reply with
  | ok a t => rfl
  | error e t => rfl

/-- Behind a choice that has no alternative left, there is none to be added. -/
theorem orElse_empty_orElse_empty : (p.orElse empty).orElse empty = p.orElse empty := by
  rw [orElse_assoc, empty_orElse]

/-! ## Any depth -/

omit [Monad m] [LawfulMonad m] in
/-- A wrapper that absorbs itself, nested to any depth, is there once. -/
theorem iterate_succ_of_absorbs {wrap : Parser m σ π α → Parser m σ π α}
    (absorbs : ∀ p, wrap (wrap p) = wrap p) (n : Nat) : wrap^[n + 1] p = wrap p := by
  rw [Function.iterate_succ_apply]
  exact Function.iterate_fixed (absorbs p) n

/-- Nested to a depth of one or more, attempts, look-aheads, errors at the start and choices
without an alternative are there once; choices with no alternative in front and sequences that end
in the value are not there at all.  Looking ahead absorbs attempts on both sides.  A negation
absorbs attempts and look-aheads on both sides, and two more negations around it change nothing.
Two negations around a parser succeed exactly where it does, and always end in the very state that
they were entered with. -/
theorem nested_wrappers_collapse (n : Nat) :
    (attempt^[n + 1] p = p.attempt ∧ lookAhead^[n + 1] p = p.lookAhead ∧
      atStart^[n + 1] p = p.atStart ∧ (fun q => q.orElse empty)^[n + 1] p = p.orElse empty ∧
      (fun q => empty.orElse q)^[n] p = p ∧ (fun q => q.andThen pure)^[n] p = p) ∧
    (p.attempt.lookAhead = p.lookAhead ∧ p.lookAhead.attempt = p.lookAhead) ∧
    (p.attempt.notFollowedBy = p.notFollowedBy ∧ p.lookAhead.notFollowedBy = p.notFollowedBy ∧
      p.notFollowedBy.attempt = p.notFollowedBy ∧ p.notFollowedBy.lookAhead = p.notFollowedBy) ∧
    notFollowedBy^[n + 2] p.notFollowedBy = notFollowedBy^[n] p.notFollowedBy ∧
    ∀ (fuel : Nat) (s : State σ π), p.notFollowedBy.notFollowedBy.parse fuel s =
      (fun reply : Reply σ π α =>
        match reply.result with
        | .ok _ => .ok () s
        | .error _ => .error ⟨"negative lookahead failed: unexpected match", s.position⟩ s) <$>
          p.parse fuel s := by
  refine ⟨⟨?_, ?_, ?_, ?_, ?_, ?_⟩, ⟨lookAhead_attempt p, attempt_lookAhead p⟩,
    ⟨notFollowedBy_attempt p, notFollowedBy_lookAhead p, attempt_notFollowedBy p,
      lookAhead_notFollowedBy p⟩, ?_, fun fuel s => ?_⟩
  · exact iterate_succ_of_absorbs p attempt_attempt n
  · exact iterate_succ_of_absorbs p lookAhead_lookAhead n
  · exact iterate_succ_of_absorbs p atStart_atStart n
  · exact iterate_succ_of_absorbs p orElse_empty_orElse_empty n
  · exact Function.iterate_fixed (empty_orElse p) n
  · exact Function.iterate_fixed (andThen_pure p) n
  · rw [Function.iterate_add_apply]
    exact congrArg (notFollowedBy^[n]) (notFollowedBy_thrice p)
  · rw [notFollowedBy_twice]
    rfl

end Lawful

/-- A bracket, and the one that closes it. -/
def roundBrackets : Parser (Except String) Text LineColumn Char :=
  (item '(').seqRight (item ')')

/-- Behind the bracket that is not closed, three attempts give back the flag and nothing else, three
look-aheads everything but the error, and of four negations two are left, which fail as the brackets
do. -/
theorem nested_wrappers_collapse_roundBrackets :
    (attempt^[3] roundBrackets).Delivers 0 ⟨⟨['(', 'x']⟩, ⟨1, 1⟩, false⟩
        (.error ⟨expectedMessage (Quoted.quoted ')'), ⟨1, 2⟩⟩ ⟨⟨['x']⟩, ⟨1, 2⟩, false⟩) ∧
      (lookAhead^[3] roundBrackets).Delivers 0 ⟨⟨['(', 'x']⟩, ⟨1, 1⟩, false⟩
        (.error ⟨expectedMessage (Quoted.quoted ')'), ⟨1, 2⟩⟩ ⟨⟨['(', 'x']⟩, ⟨1, 1⟩, false⟩) ∧
      (notFollowedBy^[3] roundBrackets.notFollowedBy).Delivers 0 ⟨⟨['(', 'x']⟩, ⟨1, 1⟩, true⟩
        (.error ⟨"negative lookahead failed: unexpected match", ⟨1, 1⟩⟩
          ⟨⟨['(', 'x']⟩, ⟨1, 1⟩, true⟩) := by
  obtain ⟨⟨attempts, lookAheads, -⟩, -⟩ := nested_wrappers_collapse roundBrackets 2
  obtain ⟨-, -, -, negations, -⟩ := nested_wrappers_collapse roundBrackets 1
  rw [attempts, lookAheads, negations]
  exact ⟨rfl, rfl, rfl⟩

end Parser

end Descent
