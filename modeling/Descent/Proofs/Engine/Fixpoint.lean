import Mathlib.Logic.Function.Iterate
import Descent.Proofs.Input.Reading
import Descent.Proofs.Parser.Extension
import Descent.Proofs.Phrase.Basic

/-!
# Recursive definitions are fixpoints

A definition is unfolded once more each time that it is run, and there is no end to that built in.
Still, to put what it stands for into the definition once more changes nothing.  If moreover the
definition reads an item before it comes back to itself, then every run ends, after at most as many
unfoldings as there are items left and one more, and no other parser satisfies the definition.

Main definitions:

- `Parser.RunsArgument`: definitions that do nothing with their argument but run it.
- `Parser.program`: a definition by a program that runs its argument now and then.
- `Parser.Guarded`: definitions that come back to their argument only with fewer items left.

Main results:

- Theorems `runsArgument_phrase` and `runsArgument_program`: what is written with the library, and
  what any other program does, is to run the argument.
- Theorem `RunsArgument.ends_recursive_iff`: a recursive definition is a fixpoint.
- Theorem `Guarded.endAlike_chain`: the unfoldings of a guarded definition, one after the other.
- Theorem `recursive_fixpoint_unique`: a guarded definition has one fixpoint, and it ends.
-/

namespace Descent

variable {m : Type → Type} {σ τ π ω α ε : Type} [Host m] [ImmediateHost m ε]

/-! ## What is written with the library -/

namespace Phrase

variable [Input σ τ π] {handle : Handler m ω} {Γ : Families}

open Descent.Parser

/-- A phrase runs the rules in scope, and the more often these end, the more often it ends. -/
theorem extends_parserIn (g : Phrase σ τ π ω Γ α) {callees callees' : Callees m σ π Γ}
    {fuel fuel' : Nat} (more : fuel ≤ fuel')
    (known : ∀ β name, Extends (callees β name) (callees' β name) fuel fuel') :
    Extends (g.parserIn handle callees) (g.parserIn handle callees') fuel fuel' := by
  induction g with
  | primitive p =>
      rw [parserIn, parserIn, Primitive.parser_eq]
      exact .compute p.reply fuel fuel'
  | getState => exact .compute _ fuel fuel'
  | lift label value => exact .lift _ fuel fuel'
  | wrap w g ih =>
      rw [parserIn, parserIn, Wrapping.around_eq, Wrapping.around_eq]
      exact (ih known).revise w.change
  | andThen g k ihg ihk => exact (ihg known).andThen fun a => ihk a known
  | orElse g h ihg ihh => exact (ihg known).orElse (ihh known)
  | many g ih => exact (ih known).many more
  | rules define i ih =>
      refine .rules more (fun callee callee' called i => ih i fun β name => ?_) i
      cases name with
      | here i => exact called i
      | there name => exact known β name
  | call name => exact known _ name

/-- More fuel does not change the replies of a phrase. -/
theorem steady (g : Phrase σ τ π ω [] α) : (g.parser handle).Steady :=
  fun _ _ more => g.extends_parserIn more fun _ name => nomatch name

end Phrase

namespace Parser

/-! ## Definitions -/

/-- The definition does nothing with its argument but run it, each time with the fuel that it is
run with itself.  All that it can come to know of its argument are therefore replies: given an
argument that with as much fuel or more has all the replies of another one, it has all the
replies that it has with that one.  It cannot see that a run does not end, nor how much fuel is
left. -/
def RunsArgument (define : Parser m σ π α → Parser m σ π α) : Prop :=
  ∀ x y fuel fuel', fuel ≤ fuel' → Extends x y fuel fuel' →
    Extends (define x) (define y) fuel fuel'

/-- Two arguments that end alike wherever fewer items are left make the definition end alike:
before it comes back to its argument it reads an item.  The arguments may be any parsers of which
more fuel does not change the replies, also such as never end. -/
def Guarded [Input σ τ π] [FiniteInput σ] (define : Parser m σ π α → Parser m σ π α) : Prop :=
  ∀ (n : Nat) (x y : Parser m σ π α), x.Steady → y.Steady →
    (∀ s : State σ π, s.remaining < n → EndAlike x y s) →
      ∀ s : State σ π, s.remaining = n → EndAlike (define x) (define y) s

/-- What is written with the library runs its argument: any phrase with one rule to call. -/
theorem runsArgument_phrase [Input σ τ π] {handle : Handler m ω}
    (body : Phrase σ τ π ω [(Unit, α)] α) :
    RunsArgument fun me => body.parserIn handle (Callees.none.bind fun _ : Unit => me) := by
  intro x y fuel fuel' more known
  refine body.extends_parserIn more fun β name => ?_
  cases name with
  | here i => exact known
  | there name => exact nomatch name

/-! ## Definitions by programs -/

/-- What a program does next that has a parser at hand: it replies, thinks on, or runs the parser
on a state and goes on with the reply. -/
inductive Act (σ π α κ : Type) where
  | reply (r : Reply σ π α)
  | think (next : κ)
  | run (s : State σ π) (resume : Reply σ π α → κ)

/-- What a program does that is in the given configuration, with the fuel for one run of its
argument. -/
def Act.perform {κ : Type} (me : Parser m σ π α) (fuel : Nat) :
    Act σ π α κ → OptionT m (Flow κ (Reply σ π α))
  | reply r => Pure.pure (.done r)
  | think next => Pure.pure (.next next)
  | run s resume => (fun r => .next (resume r)) <$> me.parse fuel s

/-- The parser that a program defines, whatever it does between the runs of its argument and
however it decides what to run it on.  It may go on for ever. -/
def program {κ : Type} (begin : State σ π → κ) (act : κ → Act σ π α κ) (me : Parser m σ π α) :
    Parser m σ π α :=
  ⟨fun fuel s => Host.loop fuel (fun configuration => (act configuration).perform me fuel)
    (begin s)⟩

theorem outcome_program {κ : Type} (begin : State σ π → κ) (act : κ → Act σ π α κ)
    (me : Parser m σ π α) (fuel : Nat) (s : State σ π) :
    (program begin act me).outcome fuel s =
      Outcome.loop fuel (fun configuration => Host.outcome ((act configuration).perform me fuel))
        (begin s) :=
  Host.outcome_loop _ _ _

/-- A program can only run its argument. -/
theorem runsArgument_program {κ : Type} (begin : State σ π → κ) (act : κ → Act σ π α κ) :
    RunsArgument (program begin act : Parser m σ π α → Parser m σ π α) := by
  intro x y fuel fuel' more known s r ends
  rw [Delivers, outcome_program] at ends ⊢
  refine Outcome.loop_mono (fun configuration flow step => ?_) more ends
  cases next : act configuration with
  | reply r =>
      rw [next] at step
      exact step
  | think further =>
      rw [next] at step
      exact step
  | run t resume =>
      rw [next, Act.perform, Host.outcome_map, Outcome.map_eq_delivered] at step
      rcases step with ⟨reply, delivers, resumed⟩
      rw [Act.perform, Host.outcome_map, Outcome.map_eq_delivered]
      exact ⟨reply, known t reply delivers, resumed⟩

/-! ## Fixpoints -/

section

variable {define : Parser m σ π α → Parser m σ π α}

namespace RunsArgument

theorem steady (runs : RunsArgument define) {x : Parser m σ π α} (hx : x.Steady) :
    (define x).Steady :=
  fun fuel fuel' more => runs x x fuel fuel' more (hx fuel fuel' more)

/-- Unfoldings of a definition around a steady parser are steady. -/
theorem steady_iterate (runs : RunsArgument define) {x : Parser m σ π α} (hx : x.Steady)
    (n : Nat) : (define^[n] x).Steady := by
  induction n with
  | zero => exact hx
  | succ n ih =>
      rw [Function.iterate_succ_apply']
      exact runs.steady ih

/-- A deeper approximation with more fuel has all the replies of the one before. -/
theorem extends_approx (runs : RunsArgument define) {fuel fuel' depth depth' : Nat}
    (more : fuel ≤ fuel') (deeper : depth ≤ depth') :
    Extends (approx define depth) (approx define depth') fuel fuel' :=
  .approx (fun me me' => runs me me' fuel fuel' more) deeper

/-- The fuel of a run says which approximation is run. -/
theorem delivers_recursive {fuel : Nat} {s : State σ π} {r : Reply σ π α} :
    (recursive define).Delivers fuel s r ↔ (approx define fuel).Delivers fuel s r :=
  delivers_congr (parse_recursive define fuel s)

theorem steady_recursive (runs : RunsArgument define) : (recursive define).Steady := by
  intro fuel fuel' more s r h
  have run := delivers_recursive.mp h
  exact delivers_recursive.mpr (runs.extends_approx more more s r run)

/-- With the same fuel the unfolded definition runs the next approximation. -/
theorem delivers_define_recursive (runs : RunsArgument define) {fuel : Nat} {s : State σ π}
    {r : Reply σ π α} :
    (define (recursive define)).Delivers fuel s r ↔
      (approx define (fuel + 1)).Delivers fuel s r := by
  rw [approx_succ]
  constructor
  · exact runs _ _ fuel fuel (Nat.le_refl fuel) (fun _ _ => delivers_recursive.mp) s r
  · exact runs _ _ fuel fuel (Nat.le_refl fuel) (fun _ _ => delivers_recursive.mpr) s r

/-- What is defined in terms of itself ends exactly where its unfolding does, and in the same
reply. -/
theorem ends_recursive_iff (runs : RunsArgument define) {s : State σ π} {r : Reply σ π α} :
    (recursive define).Ends s r ↔ (define (recursive define)).Ends s r := by
  have steady := runs.steady_recursive
  constructor
  · intro h
    rcases h.exists_delivers with ⟨fuel, run⟩
    have deeper := runs.extends_approx (Nat.le_refl fuel) (Nat.le_succ fuel)
    have unfolded := deeper s r (delivers_recursive.mp run)
    exact (runs.steady steady).ends (runs.delivers_define_recursive.mpr unfolded)
  · intro h
    rcases h.exists_delivers with ⟨fuel, run⟩
    have more := runs.extends_approx (Nat.le_succ fuel) (Nat.le_refl (fuel + 1))
    have folded := more s r (runs.delivers_define_recursive.mp run)
    exact steady.ends (delivers_recursive.mpr folded)

end RunsArgument

/-! ## Guarded definitions -/

namespace Guarded

variable [Input σ τ π] [FiniteInput σ]

/-- Parsers of which each one unfolds the one before: the `n`-th ends wherever fewer than `n` items
are left, and in the reply of the recursive definition. -/
theorem endAlike_chain (guarded : Guarded define) (runs : RunsArgument define)
    {chain : Nat → Parser m σ π α} (steady : ∀ k, (chain k).Steady)
    (unfolds : ∀ k s r, (define (chain k)).Ends s r → (chain (k + 1)).Ends s r) (n : Nat)
    {s : State σ π} (fewer : s.remaining < n) : EndAlike (chain n) (recursive define) s := by
  induction n generalizing s with
  | zero => exact absurd fewer (Nat.not_lt_zero _)
  | succ n ih =>
      have below : ∀ t : State σ π, t.remaining < s.remaining →
          EndAlike (chain n) (recursive define) t := by
        intro t ht
        have less : t.remaining < n := by omega
        exact ih less
      rcases guarded s.remaining _ _ (steady n) runs.steady_recursive below s rfl with
        ⟨r, first, second⟩
      exact ⟨r, unfolds n s r first, runs.ends_recursive_iff.mpr second⟩

/-- Around whatever parser, more unfoldings than there are items left end, and in the reply of the
recursive definition. -/
theorem endAlike_iterate (guarded : Guarded define) (runs : RunsArgument define)
    {x : Parser m σ π α} (hx : x.Steady) {n : Nat} {s : State σ π} (fewer : s.remaining < n) :
    EndAlike (define^[n] x) (recursive define) s := by
  refine guarded.endAlike_chain runs (runs.steady_iterate hx) (fun k s r h => ?_) n fewer
  rwa [Function.iterate_succ_apply']

/-- A parser that is its own unfolding ends, in the reply of the recursive definition. -/
theorem endAlike_of_fixpoint (guarded : Guarded define) (runs : RunsArgument define)
    {x : Parser m σ π α} (hx : x.Steady) (fixpoint : ∀ s r, x.Ends s r ↔ (define x).Ends s r)
    (s : State σ π) : EndAlike x (recursive define) s :=
  guarded.endAlike_chain runs (fun _ => hx) (fun _ s r => (fixpoint s r).mpr) (s.remaining + 1)
    (Nat.lt_succ_self _)

end Guarded

/-- Behind an item fewer items are left, so a definition may come back to its argument there. -/
theorem remaining_lt_of_satisfy [Input σ τ π] [FiniteInput σ] {accept : τ → Bool}
    {expected : String} {s t : State σ π} {x : τ}
    (h : (satisfy accept expected : Parser m σ π τ).Ends s (.ok x t)) :
    t.remaining < s.remaining := by
  rcases h.exists_delivers with ⟨fuel, run⟩
  rcases delivers_satisfy run with ⟨y, u, hnext, -, same⟩ | ⟨message, same⟩
  · rcases Reply.ok_inj.mp same with ⟨rfl, rfl⟩
    exact (State.reads_of_next? hnext).remaining_lt_iff.mpr (List.cons_ne_nil _ _)
  · cases same

/-- A recursive definition is a fixpoint: from every state it ends exactly if its unfolding ends,
and then in the same reply.  If the definition is guarded, then from every state the recursive
definition does end; its reply is that of one unfolding more than there are items left, around any
parser, also around one that never ends; and every parser that is its own unfolding ends in
this reply too. -/
theorem recursive_fixpoint_unique (runs : RunsArgument define) :
    (∀ s r, (recursive define).Ends s r ↔ (define (recursive define)).Ends s r) ∧
      ∀ [Input σ τ π] [FiniteInput σ], Guarded define → ∀ s : State σ π, ∃ r,
        (recursive define).Ends s r ∧
        (∀ x : Parser m σ π α, x.Steady → (define^[s.remaining + 1] x).Ends s r) ∧
        ∀ x : Parser m σ π α, x.Steady → (∀ t q, x.Ends t q ↔ (define x).Ends t q) →
          x.Ends s r := by
  refine ⟨fun s r => runs.ends_recursive_iff, fun guarded s => ?_⟩
  have least : s.remaining < s.remaining + 1 := Nat.lt_succ_self _
  rcases guarded.endAlike_iterate runs steady_never least with ⟨r, -, ends⟩
  refine ⟨r, ends, fun x hx => ?_, fun x hx fixpoint => ?_⟩
  · rcases guarded.endAlike_iterate runs hx least with ⟨r', unfolded, ends'⟩
    rw [ends.unique ends']
    exact unfolded
  · rcases guarded.endAlike_of_fixpoint runs hx fixpoint s with ⟨r', own, ends'⟩
    rw [ends.unique ends']
    exact own

end

/-- Brackets around an `x`: how deep it is. -/
def bracketed (me : Parser Id Text LineColumn Nat) : Parser Id Text LineColumn Nat :=
  (((item '(').seqRight me).andThen fun depth => (item ')').map fun _ => depth + 1).orElse
    ((item 'x').map fun _ => 0)

theorem runsArgument_bracketed : RunsArgument bracketed := by
  intro x y fuel fuel' _ known
  have opened : Extends ((item '(').seqRight x) ((item '(').seqRight y) fuel fuel' :=
    .andThen (.compute _ fuel fuel') fun _ => known
  refine .orElse (opened.andThen fun depth => ?_) ?_
  · exact (Extends.compute _ fuel fuel').revise _
  · exact (Extends.compute _ fuel fuel').revise _

/-- The inner brackets are run behind the opening one. -/
theorem guarded_bracketed : Guarded bracketed := by
  intro n x y _ _ below s items
  have opened :
      EndAlike ((item '(').seqRight x) ((item '(').seqRight y) (s.withConsumed false) := by
    refine .andThen (.compute _ _) fun c t ends => below t ?_
    have fewer : t.remaining < (s.withConsumed false).remaining := remaining_lt_of_satisfy ends
    rwa [State.remaining_withConsumed, items] at fewer
  refine .orElse (opened.andThen fun depth t _ => ?_) ?_
  · exact (EndAlike.compute _ t).revise _
  · exact (EndAlike.compute _ s).revise _

/-- Two pairs of brackets: the recursive definition gives their number, six unfoldings around a
parser that never ends give it, and every parser that is its own unfolding does. -/
theorem recursive_fixpoint_unique_bracketed :
    RunsArgument bracketed ∧ Guarded bracketed ∧
      (recursive bracketed).Ends ⟨⟨['(', '(', 'x', ')', ')']⟩, ⟨1, 1⟩, false⟩
        (.ok 2 ⟨⟨[]⟩, ⟨1, 6⟩, true⟩) ∧
      (bracketed^[6] never).Ends ⟨⟨['(', '(', 'x', ')', ')']⟩, ⟨1, 1⟩, false⟩
        (.ok 2 ⟨⟨[]⟩, ⟨1, 6⟩, true⟩) ∧
      ∀ x : Parser Id Text LineColumn Nat, x.Steady →
        (∀ t q, x.Ends t q ↔ (bracketed x).Ends t q) →
          x.Ends ⟨⟨['(', '(', 'x', ')', ')']⟩, ⟨1, 1⟩, false⟩ (.ok 2 ⟨⟨[]⟩, ⟨1, 6⟩, true⟩) := by
  have runs := runsArgument_bracketed
  have run : (recursive bracketed).Delivers 3 ⟨⟨['(', '(', 'x', ')', ')']⟩, ⟨1, 1⟩, false⟩
      (.ok 2 ⟨⟨[]⟩, ⟨1, 6⟩, true⟩) := rfl
  have depth := runs.steady_recursive.ends run
  rcases (recursive_fixpoint_unique runs).2 guarded_bracketed
    ⟨⟨['(', '(', 'x', ')', ')']⟩, ⟨1, 1⟩, false⟩ with ⟨r, ends, unfolded, unique⟩
  rw [ends.unique depth] at unfolded unique
  exact ⟨runs, guarded_bracketed, depth, unfolded never steady_never, unique⟩

end Parser

end Descent
