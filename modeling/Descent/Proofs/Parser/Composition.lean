import Descent.Parser.Access
import Descent.Parser.Choice
import Descent.Parser.Lookahead
import Descent.Parser.Recursion
import Descent.Parser.Repetition
import Descent.Parser.Report
import Descent.Parser.Selection
import Descent.Parser.Token

/-!
# Parsers composed from the library

What can be shown of every grammar is shown of every parser that is composed from the
primitives and combinators of the library, with any functions for its predicates, mappers
and continuations, and with definitions in terms of themselves.  A fragment says which of
the constructs a parser may use.

Main definitions:

- `Construct`, `Fragment`: what a parser may be composed from.
- `Parser.ComposedIn`, `Parser.Composed`: parsers composed from a fragment.
- `ClosedUnder`: properties that every construct of a fragment keeps.
- `Fuelwise`: properties that are decided for each fuel, which definitions keep.

Main results:

- Theorem `Composed.induction`: a property that every construct keeps holds of every
  composed parser.
- Theorems `ComposedIn.pair`, `ComposedIn.choice`, `ComposedIn.partition` and others: the
  remaining combinators of the library compose parsers too.
-/

namespace Descent

variable {m : Type → Type} {σ τ π α β γ ι : Type}

/-! ## Fragments -/

/-- The constructs that a fragment of the library can leave out. -/
inductive Construct where
  | failAt
  | getState
  | putState
  | position
  | setConsumed (consumed : Bool)
  | orElse
  | many
  | attempt
  | mapError
  | recursion
deriving DecidableEq, Repr

/-- A property of parsers, whatever the type of their values. -/
abbrev ParserProperty (m : Type → Type) (σ π : Type) :=
  ∀ α : Type, Parser m σ π α → Prop

/-- A fragment of the library: the constructs that it allows. -/
structure Fragment where
  allows : Construct → Prop

namespace Fragment

/-- The whole library but for some constructs. -/
def without (excluded : List Construct) : Fragment where
  allows c := c ∉ excluded

@[simp]
theorem allows_without (excluded : List Construct) (c : Construct) :
    (without excluded).allows c ↔ c ∉ excluded :=
  Iff.rfl

end Fragment

namespace Parser

/-! ## Composed parsers -/

/-- A pair is a sequence whose second part pairs its value with that of the first. -/
theorem pair_eq_andThen [Monad m] (p : Parser m σ π α) (q : Parser m σ π β) :
    p.pair q = p.andThen fun a => q.map (a, ·) :=
  rfl

/-- The known parsers together with those of the rules that are being defined. -/
inductive KnownWith (known : ParserProperty m σ π) (rules : ι → Parser m σ π γ) :
    ∀ α : Type, Parser m σ π α → Prop where
  | known {α : Type} {p : Parser m σ π α} (h : known α p) : KnownWith known rules α p
  | rule (i : ι) : KnownWith known rules γ (rules i)

/-- A parser is composed from a fragment and from known parsers.  Inside a definition the
parser that is being defined is known. -/
inductive ComposedIn [Host m] [Input σ τ π] (F : Fragment) :
    ParserProperty m σ π → ∀ α : Type, Parser m σ π α → Prop where
  | known {known : ParserProperty m σ π} {α : Type} {p : Parser m σ π α} (h : known α p) :
      ComposedIn F known α p
  | pure {known : ParserProperty m σ π} {α : Type} (value : α) :
      ComposedIn F known α (.pure value)
  | fail {known : ParserProperty m σ π} {α : Type} (message : String) :
      ComposedIn F known α (.fail message)
  | failAt {known : ParserProperty m σ π} {α : Type} (allowed : F.allows .failAt)
      (message : String) (position : π) : ComposedIn F known α (.failAt message position)
  | lift {known : ParserProperty m σ π} {α : Type} (computation : m α) :
      ComposedIn F known α (.lift computation)
  | getState {known : ParserProperty m σ π} (allowed : F.allows .getState) :
      ComposedIn F known (State σ π) .getState
  | putState {known : ParserProperty m σ π} (allowed : F.allows .putState)
      (replacement : State σ π) : ComposedIn F known Unit (.putState replacement)
  | position {known : ParserProperty m σ π} (allowed : F.allows .position) :
      ComposedIn F known π .position
  | setConsumed {known : ParserProperty m σ π} (consumed : Bool)
      (allowed : F.allows (.setConsumed consumed)) :
      ComposedIn F known Unit (.setConsumed consumed)
  | satisfy {known : ParserProperty m σ π} (accept : τ → Bool) (expected : String) :
      ComposedIn F known τ (.satisfy accept expected)
  | literal {known : ParserProperty m σ π} [BEq τ] (items : List τ) (expected : String) :
      ComposedIn F known Unit (.literal items expected)
  | eof {known : ParserProperty m σ π} : ComposedIn F known Unit .eof
  | map {known : ParserProperty m σ π} {α β : Type} {p : Parser m σ π α} (f : α → β)
      (hp : ComposedIn F known α p) : ComposedIn F known β (p.map f)
  | andThen {known : ParserProperty m σ π} {α β : Type} {p : Parser m σ π α}
      {k : α → Parser m σ π β} (hp : ComposedIn F known α p)
      (hk : ∀ a, ComposedIn F known β (k a)) : ComposedIn F known β (p.andThen k)
  | orElse {known : ParserProperty m σ π} {α : Type} {p q : Parser m σ π α}
      (allowed : F.allows .orElse) (hp : ComposedIn F known α p)
      (hq : ComposedIn F known α q) : ComposedIn F known α (p.orElse q)
  | many {known : ParserProperty m σ π} {α : Type} {p : Parser m σ π α}
      (allowed : F.allows .many) (hp : ComposedIn F known α p) :
      ComposedIn F known (List α) p.many
  | notFollowedBy {known : ParserProperty m σ π} {α : Type} {p : Parser m σ π α}
      (hp : ComposedIn F known α p) : ComposedIn F known Unit p.notFollowedBy
  | attempt {known : ParserProperty m σ π} {α : Type} {p : Parser m σ π α}
      (allowed : F.allows .attempt) (hp : ComposedIn F known α p) :
      ComposedIn F known α p.attempt
  | lookAhead {known : ParserProperty m σ π} {α : Type} {p : Parser m σ π α}
      (hp : ComposedIn F known α p) : ComposedIn F known α p.lookAhead
  | filterMap {known : ParserProperty m σ π} {α β : Type} {p : Parser m σ π α}
      (decide : α → Option β) (message : String) (hp : ComposedIn F known α p) :
      ComposedIn F known β (p.filterMap decide message)
  | mapError {known : ParserProperty m σ π} {α : Type} {p : Parser m σ π α}
      (allowed : F.allows .mapError) (f : ParseError π → ParseError π)
      (hp : ComposedIn F known α p) : ComposedIn F known α (p.mapError f)
  | withMessage {known : ParserProperty m σ π} {α : Type} {p : Parser m σ π α}
      (message : String) (hp : ComposedIn F known α p) :
      ComposedIn F known α (p.withMessage message)
  | atStart {known : ParserProperty m σ π} {α : Type} {p : Parser m σ π α}
      (hp : ComposedIn F known α p) : ComposedIn F known α p.atStart
  | withSpan {known : ParserProperty m σ π} {α : Type} {p : Parser m σ π α}
      (hp : ComposedIn F known α p) : ComposedIn F known (α × Span π) p.withSpan
  | recursive {known : ParserProperty m σ π} {α : Type}
      {define : Parser m σ π α → Parser m σ π α} (allowed : F.allows .recursion)
      (body : ∀ me, ComposedIn F (KnownWith known fun _ : Unit => me) α (define me)) :
      ComposedIn F known α (.recursive define)
  | rules {known : ParserProperty m σ π} {ι α : Type}
      {define : (ι → Parser m σ π α) → ι → Parser m σ π α} (allowed : F.allows .recursion)
      (body : ∀ call i, ComposedIn F (KnownWith known call) α (define call i)) (i : ι) :
      ComposedIn F known α (.rules define i)

/-- A parser is composed from a fragment alone. -/
abbrev Composed [Host m] [Input σ τ π] (F : Fragment) (p : Parser m σ π α) : Prop :=
  ComposedIn F (fun _ _ => False) α p

namespace ComposedIn

variable [Host m] [Input σ τ π] {F : Fragment} {known : ParserProperty m σ π}

/-! ## The remaining combinators -/

theorem empty : ComposedIn F known α Parser.empty :=
  .fail _

theorem consume (allowed : F.allows (.setConsumed true)) : ComposedIn F known Unit Parser.consume :=
  .setConsumed true allowed

theorem unconsume (allowed : F.allows (.setConsumed false)) :
    ComposedIn F known Unit Parser.unconsume :=
  .setConsumed false allowed

theorem anyItem : ComposedIn F known τ Parser.anyItem :=
  .satisfy _ _

theorem item [BEq τ] [Quoted τ] (wanted : τ) : ComposedIn F known τ (Parser.item wanted) :=
  .satisfy _ _

theorem seqRight {p : Parser m σ π α} {q : Parser m σ π β} (hp : ComposedIn F known α p)
    (hq : ComposedIn F known β q) : ComposedIn F known β (p.seqRight q) :=
  .andThen hp fun _ => hq

theorem pair {p : Parser m σ π α} {q : Parser m σ π β} (hp : ComposedIn F known α p)
    (hq : ComposedIn F known β q) : ComposedIn F known (α × β) (p.pair q) := by
  rw [pair_eq_andThen]
  exact .andThen hp fun a => .map (a, ·) hq

theorem choice (allowed : F.allows .orElse) {ps : List (Parser m σ π α)}
    (hps : ∀ p ∈ ps, ComposedIn F known α p) : ComposedIn F known α (Parser.choice ps) := by
  have fold : ∀ ps : List (Parser m σ π α), (∀ p ∈ ps, ComposedIn F known α p) →
      ∀ p, ComposedIn F known α p → ComposedIn F known α (ps.foldl Parser.orElse p) := by
    intro ps
    induction ps with
    | nil =>
        intro _ p hp
        exact hp
    | cons q qs ih =>
        intro hqs p hp
        have hq : ComposedIn F known α q := hqs q List.mem_cons_self
        exact ih (fun r hr => hqs r (List.mem_cons_of_mem q hr)) (p.orElse q)
          (.orElse allowed hp hq)
  cases ps with
  | nil => exact empty
  | cons p ps =>
      exact fold ps (fun q hq => hps q (List.mem_cons_of_mem p hq)) p (hps p List.mem_cons_self)

theorem filter {p : Parser m σ π α} (accept : α → Bool) (message : String)
    (hp : ComposedIn F known α p) : ComposedIn F known α (p.filter accept message) :=
  .filterMap _ _ hp

theorem compact {p : Parser m σ π (Option α)} (hp : ComposedIn F known (Option α) p) :
    ComposedIn F known α p.compact :=
  .filterMap _ _ hp

/-- Both halves of a partition are composed. -/
theorem partition {p : Parser m σ π α} (accept : α → Bool) (hp : ComposedIn F known α p) :
    ComposedIn F known α (p.partition accept).1 ∧ ComposedIn F known α (p.partition accept).2 :=
  ⟨.filterMap _ _ hp, .filterMap _ _ hp⟩

/-- Both halves of a separation are composed. -/
theorem separate {p : Parser m σ π (Except β γ)} (hp : ComposedIn F known (Except β γ) p) :
    ComposedIn F known β p.separate.1 ∧ ComposedIn F known γ p.separate.2 :=
  ⟨.filterMap _ _ hp, .filterMap _ _ hp⟩

/-- Both halves of a classification are composed. -/
theorem partitionMap {p : Parser m σ π α} (classify : α → Except β γ)
    (hp : ComposedIn F known α p) :
    ComposedIn F known β (p.partitionMap classify).1 ∧
      ComposedIn F known γ (p.partitionMap classify).2 :=
  separate (.map classify hp)

theorem delay {build : Unit → Parser m σ π α} (h : ComposedIn F known α (build ())) :
    ComposedIn F known α (Parser.delay build) :=
  h

end ComposedIn

theorem ComposedIn.string [Host m] [Input σ Char π] {F : Fragment}
    {known : ParserProperty m σ π} (text : String) :
    ComposedIn F known String (Parser.string text) :=
  .map _ (.literal _ _)

end Parser

/-! ## Properties that composition keeps -/

open Descent.Parser

section Fuelwise

variable [Monad m]

/-- A property that holds of the parser without a reply and is decided for each fuel on its
own.  Such a property passes from the approximations of a definition to what is defined. -/
structure Fuelwise (P : ParserProperty m σ π) : Prop where
  never {α : Type} : P α .never
  fuelwise {α : Type} {p : Parser m σ π α}
    (h : ∀ fuel, ∃ q, P α q ∧ ∀ s, p.parse fuel s = q.parse fuel s) : P α p

namespace Fuelwise

variable {P : ParserProperty m σ π}

theorem recursive (hP : Fuelwise P) {define : Parser m σ π α → Parser m σ π α}
    (body : ∀ me, P α me → P α (define me)) : P α (.recursive define) := by
  have approximations : ∀ n, P α (approx define n) := by
    intro n
    induction n with
    | zero => exact hP.never
    | succ n ih => exact body (approx define n) ih
  exact hP.fuelwise fun fuel => ⟨approx define fuel, approximations fuel, fun _ => rfl⟩

theorem rules (hP : Fuelwise P) {define : (ι → Parser m σ π α) → ι → Parser m σ π α}
    (body : ∀ call, (∀ i, P α (call i)) → ∀ i, P α (define call i)) (i : ι) :
    P α (.rules define i) := by
  have approximations : ∀ n i, P α (approxRules define n i) := by
    intro n
    induction n with
    | zero =>
        intro i
        exact hP.never
    | succ n ih => exact body (approxRules define n) ih
  exact hP.fuelwise fun fuel => ⟨approxRules define fuel i, approximations fuel i, fun _ => rfl⟩

end Fuelwise

end Fuelwise

variable [Host m] [Input σ τ π]

/-- A property of parsers that every construct of a fragment keeps. -/
structure ClosedUnder (F : Fragment) (P : ParserProperty m σ π) : Prop where
  pure {α : Type} (value : α) : P α (.pure value)
  fail {α : Type} (message : String) : P α (.fail message)
  failAt {α : Type} (allowed : F.allows .failAt) (message : String) (position : π) :
    P α (.failAt message position)
  lift {α : Type} (computation : m α) : P α (.lift computation)
  getState (allowed : F.allows .getState) : P (State σ π) .getState
  putState (allowed : F.allows .putState) (replacement : State σ π) :
    P Unit (.putState replacement)
  position (allowed : F.allows .position) : P π .position
  setConsumed (consumed : Bool) (allowed : F.allows (.setConsumed consumed)) :
    P Unit (.setConsumed consumed)
  satisfy (accept : τ → Bool) (expected : String) : P τ (.satisfy accept expected)
  literal [BEq τ] (items : List τ) (expected : String) : P Unit (.literal items expected)
  eof : P Unit .eof
  map {α β : Type} {p : Parser m σ π α} (f : α → β) (hp : P α p) : P β (p.map f)
  andThen {α β : Type} {p : Parser m σ π α} {k : α → Parser m σ π β} (hp : P α p)
    (hk : ∀ a, P β (k a)) : P β (p.andThen k)
  orElse {α : Type} {p q : Parser m σ π α} (allowed : F.allows .orElse) (hp : P α p)
    (hq : P α q) : P α (p.orElse q)
  many {α : Type} {p : Parser m σ π α} (allowed : F.allows .many) (hp : P α p) :
    P (List α) p.many
  notFollowedBy {α : Type} {p : Parser m σ π α} (hp : P α p) : P Unit p.notFollowedBy
  attempt {α : Type} {p : Parser m σ π α} (allowed : F.allows .attempt) (hp : P α p) :
    P α p.attempt
  lookAhead {α : Type} {p : Parser m σ π α} (hp : P α p) : P α p.lookAhead
  filterMap {α β : Type} {p : Parser m σ π α} (decide : α → Option β) (message : String)
    (hp : P α p) : P β (p.filterMap decide message)
  mapError {α : Type} {p : Parser m σ π α} (allowed : F.allows .mapError)
    (f : ParseError π → ParseError π) (hp : P α p) : P α (p.mapError f)
  withMessage {α : Type} {p : Parser m σ π α} (message : String) (hp : P α p) :
    P α (p.withMessage message)
  atStart {α : Type} {p : Parser m σ π α} (hp : P α p) : P α p.atStart
  withSpan {α : Type} {p : Parser m σ π α} (hp : P α p) : P (α × Span π) p.withSpan
  recursive {α : Type} {define : Parser m σ π α → Parser m σ π α}
    (allowed : F.allows .recursion) (body : ∀ me, P α me → P α (define me)) :
    P α (.recursive define)
  rules {ι α : Type} {define : (ι → Parser m σ π α) → ι → Parser m σ π α}
    (allowed : F.allows .recursion)
    (body : ∀ call, (∀ i, P α (call i)) → ∀ i, P α (define call i)) (i : ι) :
    P α (.rules define i)

namespace Parser

variable {F : Fragment} {P : ParserProperty m σ π}

/-- A closed property holds of what is composed from parsers that have it. -/
theorem ComposedIn.induction {known : ParserProperty m σ π} {p : Parser m σ π α}
    (h : ComposedIn F known α p) (hP : ClosedUnder F P) (given : ∀ β q, known β q → P β q) :
    P α p := by
  induction h with
  | known h => exact given _ _ h
  | pure value => exact hP.pure value
  | fail message => exact hP.fail message
  | failAt allowed message position => exact hP.failAt allowed message position
  | lift computation => exact hP.lift computation
  | getState allowed => exact hP.getState allowed
  | putState allowed replacement => exact hP.putState allowed replacement
  | position allowed => exact hP.position allowed
  | setConsumed consumed allowed => exact hP.setConsumed consumed allowed
  | satisfy accept expected => exact hP.satisfy accept expected
  | literal items expected => exact hP.literal items expected
  | eof => exact hP.eof
  | map f _ ih => exact hP.map f (ih given)
  | andThen _ _ ihp ihk => exact hP.andThen (ihp given) fun a => ihk a given
  | orElse allowed _ _ ihp ihq => exact hP.orElse allowed (ihp given) (ihq given)
  | many allowed _ ih => exact hP.many allowed (ih given)
  | notFollowedBy _ ih => exact hP.notFollowedBy (ih given)
  | attempt allowed _ ih => exact hP.attempt allowed (ih given)
  | lookAhead _ ih => exact hP.lookAhead (ih given)
  | filterMap decide message _ ih => exact hP.filterMap decide message (ih given)
  | mapError allowed f _ ih => exact hP.mapError allowed f (ih given)
  | withMessage message _ ih => exact hP.withMessage message (ih given)
  | atStart _ ih => exact hP.atStart (ih given)
  | withSpan _ ih => exact hP.withSpan (ih given)
  | recursive allowed _ ih =>
      refine hP.recursive allowed fun me hme => ih me fun β q hq => ?_
      cases hq with
      | known hq => exact given _ _ hq
      | rule => exact hme
  | rules allowed _ i ih =>
      refine hP.rules allowed (fun call hcall i => ih call i fun β q hq => ?_) i
      cases hq with
      | known hq => exact given _ _ hq
      | rule i => exact hcall i

/-- A property that every construct of a fragment keeps holds of every parser composed from
the fragment. -/
theorem Composed.induction {p : Parser m σ π α} (h : p.Composed F) (hP : ClosedUnder F P) :
    P α p :=
  ComposedIn.induction h hP fun _ _ none => none.elim

end Parser

end Descent
