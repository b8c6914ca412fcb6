import Descent.Parser.Basic

/-!
# Recursive definitions

A definition of a parser in terms of itself stands for the limit of its
approximations: the first one never replies, and each next one puts the one before
in the place of the parser that is being defined.  A run with a given amount of fuel
uses the approximation of that depth, so a run that unfolds the definition less
often than that has the reply of the limit.

Main definitions:

- `delay`: a parser that is built when it runs.
- `never`: the parser without a reply.
- `approx`, `recursive`: one recursive parser.
- `approxRules`, `rules`: a family of parsers that refer to each other.
-/

namespace Descent.Parser

variable {m : Type → Type} {σ π α ι : Type}

/-- Builds a parser each time it is run. -/
def delay (build : Unit → Parser m σ π α) : Parser m σ π α :=
  ⟨fun fuel s => (build ()).parse fuel s⟩

@[simp]
theorem delay_eq (build : Unit → Parser m σ π α) : delay build = build () :=
  rfl

variable [Monad m]

/-- Never replies. -/
def never : Parser m σ π α :=
  ⟨fun _ _ => failure⟩

@[simp]
theorem parse_never (fuel : Nat) (s : State σ π) :
    (never : Parser m σ π α).parse fuel s = failure :=
  rfl

/-! ## One recursive parser -/

/-- Puts a definition into itself the given number of times. -/
def approx (define : Parser m σ π α → Parser m σ π α) : Nat → Parser m σ π α
  | 0 => never
  | n + 1 => delay fun _ => define (approx define n)

@[simp]
theorem approx_zero (define : Parser m σ π α → Parser m σ π α) : approx define 0 = never :=
  rfl

@[simp]
theorem approx_succ (define : Parser m σ π α → Parser m σ π α) (n : Nat) :
    approx define (n + 1) = define (approx define n) :=
  rfl

/-- The parser that a definition in terms of itself stands for. -/
def recursive (define : Parser m σ π α → Parser m σ π α) : Parser m σ π α :=
  ⟨fun fuel s => (approx define fuel).parse fuel s⟩

theorem parse_recursive (define : Parser m σ π α → Parser m σ π α) (fuel : Nat)
    (s : State σ π) : (recursive define).parse fuel s = (approx define fuel).parse fuel s :=
  rfl

/-! ## A family of rules -/

/-- Puts the definitions of a family of rules into each other the given number of times. -/
def approxRules (define : (ι → Parser m σ π α) → ι → Parser m σ π α) :
    Nat → ι → Parser m σ π α
  | 0, _ => never
  | n + 1, i => delay fun _ => define (approxRules define n) i

@[simp]
theorem approxRules_zero (define : (ι → Parser m σ π α) → ι → Parser m σ π α) (i : ι) :
    approxRules define 0 i = never :=
  rfl

@[simp]
theorem approxRules_succ (define : (ι → Parser m σ π α) → ι → Parser m σ π α) (n : Nat)
    (i : ι) : approxRules define (n + 1) i = define (approxRules define n) i :=
  rfl

/-- The parsers that definitions in terms of each other stand for. -/
def rules (define : (ι → Parser m σ π α) → ι → Parser m σ π α) (i : ι) : Parser m σ π α :=
  ⟨fun fuel s => (approxRules define fuel i).parse fuel s⟩

end Descent.Parser
