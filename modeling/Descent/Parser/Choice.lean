import Descent.Parser.Failure

/-!
# Ordered choice

A choice commits to its first branch as soon as that branch has read something: the
second branch is tried only after a failure with the flag still clear.  The first
branch is run with the flag cleared, so that only its own reading counts, and the
second one starts from exactly the state that the choice was entered with.

Main definitions:

- `Reply.isRecoverable`: a failure that read nothing.
- `orElse`, `choice`, and the `Alternative` instance.
-/

namespace Descent

/-- Whether a reply is a failure that has read nothing, so that something else may be tried. -/
def Reply.isRecoverable {σ π α : Type} (reply : Reply σ π α) : Bool :=
  match reply.result with
  | .ok _ => false
  | .error _ => !reply.state.consumed

@[simp]
theorem Reply.isRecoverable_ok {σ π α : Type} (a : α) (s : State σ π) :
    (Reply.ok a s).isRecoverable = false :=
  rfl

@[simp]
theorem Reply.isRecoverable_error {σ π α : Type} (e : ParseError π) (s : State σ π) :
    (Reply.error e s : Reply σ π α).isRecoverable = !s.consumed :=
  rfl

/-- Changing the value of a success does not make it a failure. -/
@[simp]
theorem Reply.isRecoverable_map {σ π α β : Type} (f : α → β) (reply : Reply σ π α) :
    (reply.map f).isRecoverable = reply.isRecoverable := by
  rcases reply with ⟨_ | value, state⟩
  · rfl
  · rfl

namespace Parser

variable {m : Type → Type} {σ π α : Type} [Monad m]

/-- Tries a parser, and another one from the same state if the first failed without
reading anything. -/
def orElse (p q : Parser m σ π α) : Parser m σ π α :=
  ⟨fun fuel s => p.parse fuel (s.withConsumed false) >>= fun reply =>
    if reply.isRecoverable then q.parse fuel s else Pure.pure reply⟩

theorem parse_orElse (p q : Parser m σ π α) (fuel : Nat) (s : State σ π) :
    (p.orElse q).parse fuel s =
      p.parse fuel (s.withConsumed false) >>= fun reply =>
        if reply.isRecoverable then q.parse fuel s else Pure.pure reply :=
  rfl

/-- Tries parsers in order; without any, it fails. -/
def choice : List (Parser m σ π α) → Parser m σ π α
  | [] => empty
  | p :: ps => ps.foldl orElse p

@[simp]
theorem choice_nil : (choice [] : Parser m σ π α) = empty :=
  rfl

theorem choice_cons (p : Parser m σ π α) (ps : List (Parser m σ π α)) :
    choice (p :: ps) = ps.foldl orElse p :=
  rfl

@[simp]
theorem choice_singleton (p : Parser m σ π α) : choice [p] = p :=
  rfl

instance : Alternative (Parser m σ π) where
  failure := empty
  orElse p q := p.orElse ⟨fun fuel s => (q ()).parse fuel s⟩

end Parser

end Descent
