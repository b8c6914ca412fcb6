import Descent.Proofs.Input.SameItems
import Descent.Proofs.Parser.Likeness

/-!
# Positions are only carried along

A grammar that never asks for its position can be run on another kind of input: on the same
items, kept in another way, with positions of another type and from another start.  Nothing that
a run decides depends on any of this.  Branches are taken, repetitions stop and definitions are
unfolded at the same items, and each run moves its own position over them.

Main definitions:

- `Likeness.abreast`: two runs that have passed the same items, and fail with the same messages.
- `Parser.Transcribed`: the same grammar for two kinds of input.

Main results:

- Theorem `TranscribedIn.alike`: such grammars are built alike.
- Theorem `agree_of_transcribed`: their runs on the same items end in the same way.
-/

namespace Descent

variable {m : Type → Type} {σ σ' τ π π' α β ε : Type}

/-- From their own starts both runs have passed the same items, with the same flag; if they fail
it is with the same message. -/
def Likeness.abreast [Input σ τ π] [Input σ' τ π'] (s₀ : State σ π) (s₀' : State σ' π') :
    Likeness σ π σ' π' where
  state := State.Abreast s₀ s₀'
  error e e' := e.message = e'.message
  consumed_eq like := like.consumed
  withConsumed like consumed := like.withConsumed consumed
  errorHere _ _ := rfl

namespace Parser

variable [Host m] [Input σ τ π] [Input σ' τ π']

/-! ## The same grammar for two kinds of input -/

/-- The second parser is built as the first one is, for another kind of input: with the same
messages, predicates, mappers and continuations and with the same computations of the host.  Only
the positions that are given to `failAt` may be any positions.  Neither parser asks for the state
or for a position, puts a state in place, or maps errors otherwise than to another message or to
the place where it started. -/
inductive TranscribedIn : ParserRelation m m σ π σ' π' → ParserRelation m m σ π σ' π' where
  | known {known : ParserRelation m m σ π σ' π'} {α : Type} {p : Parser m σ π α}
      {q : Parser m σ' π' α} (given : known α p q) : TranscribedIn known α p q
  | pure {known : ParserRelation m m σ π σ' π'} {α : Type} (value : α) :
      TranscribedIn known α (.pure value) (.pure value)
  | fail {known : ParserRelation m m σ π σ' π'} {α : Type} (message : String) :
      TranscribedIn known α (.fail message) (.fail message)
  | failAt {known : ParserRelation m m σ π σ' π'} {α : Type} (message : String) (position : π)
      (position' : π') :
      TranscribedIn known α (.failAt message position) (.failAt message position')
  | lift {known : ParserRelation m m σ π σ' π'} {α : Type} (computation : m α) :
      TranscribedIn known α (.lift computation) (.lift computation)
  | setConsumed {known : ParserRelation m m σ π σ' π'} (consumed : Bool) :
      TranscribedIn known Unit (.setConsumed consumed) (.setConsumed consumed)
  | satisfy {known : ParserRelation m m σ π σ' π'} (accept : τ → Bool) (expected : String) :
      TranscribedIn known τ (.satisfy accept expected) (.satisfy accept expected)
  | literal {known : ParserRelation m m σ π σ' π'} [BEq τ] (items : List τ)
      (expected : String) :
      TranscribedIn known Unit (.literal items expected) (.literal items expected)
  | eof {known : ParserRelation m m σ π σ' π'} : TranscribedIn known Unit .eof .eof
  | map {known : ParserRelation m m σ π σ' π'} {α β : Type} {p : Parser m σ π α}
      {q : Parser m σ' π' α} (f : α → β) (inner : TranscribedIn known α p q) :
      TranscribedIn known β (p.map f) (q.map f)
  | andThen {known : ParserRelation m m σ π σ' π'} {α β : Type} {p : Parser m σ π α}
      {q : Parser m σ' π' α} {k : α → Parser m σ π β} {l : α → Parser m σ' π' β}
      (first : TranscribedIn known α p q) (second : ∀ a, TranscribedIn known β (k a) (l a)) :
      TranscribedIn known β (p.andThen k) (q.andThen l)
  | orElse {known : ParserRelation m m σ π σ' π'} {α : Type} {p₁ p₂ : Parser m σ π α}
      {q₁ q₂ : Parser m σ' π' α} (first : TranscribedIn known α p₁ q₁)
      (second : TranscribedIn known α p₂ q₂) :
      TranscribedIn known α (p₁.orElse p₂) (q₁.orElse q₂)
  | many {known : ParserRelation m m σ π σ' π'} {α : Type} {p : Parser m σ π α}
      {q : Parser m σ' π' α} (inner : TranscribedIn known α p q) :
      TranscribedIn known (List α) p.many q.many
  | notFollowedBy {known : ParserRelation m m σ π σ' π'} {α : Type} {p : Parser m σ π α}
      {q : Parser m σ' π' α} (inner : TranscribedIn known α p q) :
      TranscribedIn known Unit p.notFollowedBy q.notFollowedBy
  | attempt {known : ParserRelation m m σ π σ' π'} {α : Type} {p : Parser m σ π α}
      {q : Parser m σ' π' α} (inner : TranscribedIn known α p q) :
      TranscribedIn known α p.attempt q.attempt
  | lookAhead {known : ParserRelation m m σ π σ' π'} {α : Type} {p : Parser m σ π α}
      {q : Parser m σ' π' α} (inner : TranscribedIn known α p q) :
      TranscribedIn known α p.lookAhead q.lookAhead
  | filterMap {known : ParserRelation m m σ π σ' π'} {α β : Type} {p : Parser m σ π α}
      {q : Parser m σ' π' α} (decide : α → Option β) (message : String)
      (inner : TranscribedIn known α p q) :
      TranscribedIn known β (p.filterMap decide message) (q.filterMap decide message)
  | withMessage {known : ParserRelation m m σ π σ' π'} {α : Type} {p : Parser m σ π α}
      {q : Parser m σ' π' α} (message : String) (inner : TranscribedIn known α p q) :
      TranscribedIn known α (p.withMessage message) (q.withMessage message)
  | atStart {known : ParserRelation m m σ π σ' π'} {α : Type} {p : Parser m σ π α}
      {q : Parser m σ' π' α} (inner : TranscribedIn known α p q) :
      TranscribedIn known α p.atStart q.atStart
  | recursive {known : ParserRelation m m σ π σ' π'} {α : Type}
      {define : Parser m σ π α → Parser m σ π α}
      {define' : Parser m σ' π' α → Parser m σ' π' α}
      (body : ∀ me me', TranscribedIn (PairedWith known (fun _ : Unit => me) fun _ => me') α
        (define me) (define' me')) :
      TranscribedIn known α (.recursive define) (.recursive define')
  | rules {known : ParserRelation m m σ π σ' π'} {ι α : Type}
      {define : (ι → Parser m σ π α) → ι → Parser m σ π α}
      {define' : (ι → Parser m σ' π' α) → ι → Parser m σ' π' α}
      (body : ∀ call call' i, TranscribedIn (PairedWith known call call') α (define call i)
        (define' call' i)) (i : ι) :
      TranscribedIn known α (.rules define i) (.rules define' i)

namespace TranscribedIn

variable {known : ParserRelation m m σ π σ' π'} {p : Parser m σ π α} {q : Parser m σ' π' α}

/-! ## The remaining combinators -/

theorem empty : TranscribedIn known α .empty .empty :=
  fail _

theorem item [BEq τ] [Quoted τ] (wanted : τ) :
    TranscribedIn known τ (.item wanted) (.item wanted) :=
  satisfy _ _

theorem seqRight {p' : Parser m σ π β} {q' : Parser m σ' π' β}
    (first : TranscribedIn known α p q) (second : TranscribedIn known β p' q') :
    TranscribedIn known β (p.seqRight p') (q.seqRight q') :=
  andThen first fun _ => second

theorem pair {p' : Parser m σ π β} {q' : Parser m σ' π' β} (first : TranscribedIn known α p q)
    (second : TranscribedIn known β p' q') :
    TranscribedIn known (α × β) (p.pair p') (q.pair q') := by
  rw [pair_eq_andThen, pair_eq_andThen]
  exact andThen first fun a => map (a, ·) second

theorem choice {branches : List (Parser m σ π α × Parser m σ' π' α)}
    (each : ∀ b ∈ branches, TranscribedIn known α b.1 b.2) :
    TranscribedIn known α (.choice (branches.map Prod.fst))
      (.choice (branches.map Prod.snd)) :=
  choice_related empty (fun _ _ _ _ first second => orElse first second) each

/-- Filters, and the halves of partitions and separations, are selections. -/
theorem filter (accept : α → Bool) (message : String) (inner : TranscribedIn known α p q) :
    TranscribedIn known α (p.filter accept message) (q.filter accept message) :=
  filterMap _ _ inner

end TranscribedIn

/-- A parser is transcribed as another one, with nothing known of other parsers. -/
abbrev Transcribed (p : Parser m σ π α) (q : Parser m σ' π' α) : Prop :=
  TranscribedIn (fun _ _ _ => False) α p q

/-! ## Transcribed grammars are built alike -/

section

variable {s₀ : State σ π} {s₀' : State σ' π'} {known : ParserRelation m m σ π σ' π'}

/-- Runs that are abreast meet the same item or both meet the end. -/
theorem Alike.satisfy_abreast (accept : τ → Bool) (expected : String) :
    Alike (.refl m) (.abreast s₀ s₀') known τ (.satisfy accept expected)
      (.satisfy accept expected) := by
  refine .compute fun s s' like => ?_
  have abreast : State.Abreast s₀ s₀' s s' := like
  rcases abreast.next?_cases with ⟨ends, ends'⟩ | ⟨x, t, t', next, next', further⟩
  · rw [ends, ends']
    exact .errorHere like _
  · rw [next, next']
    by_cases haccept : accept x = true
    · simp only [haccept, if_true]
      exact .ok x further
    · simp only [haccept]
      exact .errorHere like _

/-- Runs that are abreast both read a literal or both stay where they are. -/
theorem Alike.literal_abreast [BEq τ] (items : List τ) (expected : String) :
    Alike (.refl m) (.abreast s₀ s₀') known Unit (.literal items expected)
      (.literal items expected) := by
  refine .compute fun s s' like => ?_
  have abreast : State.Abreast s₀ s₀' s s' := like
  rcases abreast.readAll?_cases items with ⟨none, none'⟩ | ⟨t, t', read, read', further⟩
  · rw [none, none']
    exact .errorHere like _
  · rw [read, read']
    exact .ok () further

/-- Both inputs are exhausted or neither is, however they tell. -/
theorem Alike.eof_abreast [LawfulInput σ] [LawfulInput σ'] :
    Alike (.refl m) (.abreast s₀ s₀') known Unit .eof .eof := by
  refine .compute fun s s' like => ?_
  have abreast : State.Abreast s₀ s₀' s s' := like
  rw [abreast.left.isExhausted_eq]
  by_cases ends : Input.isExhausted s'.input = true
  · simp only [ends, if_true]
    exact .ok () like
  · simp only [ends]
    exact .errorHere like _

/-- Another message is the same other message in both runs. -/
theorem Alike.withMessage_abreast {p : Parser m σ π α} {q : Parser m σ' π' α}
    (message : String) (inner : Alike (.refl m) (.abreast s₀ s₀') known α p q) :
    Alike (.refl m) (.abreast s₀ s₀') known α (p.withMessage message)
      (q.withMessage message) := by
  refine .revise (fun s s' r r' _ like => ?_) inner
  cases like with
  | ok value like => exact .ok value like
  | error about like => exact .error rfl like

/-- Another place leaves the messages the same. -/
theorem Alike.atStart_abreast {p : Parser m σ π α} {q : Parser m σ' π' α}
    (inner : Alike (.refl m) (.abreast s₀ s₀') known α p q) :
    Alike (.refl m) (.abreast s₀ s₀') known α p.atStart q.atStart := by
  refine .revise (fun s s' r r' _ like => ?_) inner
  cases like with
  | ok value like => exact .ok value like
  | error about like => exact .error about like

variable [LawfulInput σ] [LawfulInput σ']

/-- Transcribed grammars are built alike, wherever their two runs have started. -/
theorem TranscribedIn.alike {p : Parser m σ π α} {q : Parser m σ' π' α}
    (h : TranscribedIn known α p q) : Alike (.refl m) (.abreast s₀ s₀') known α p q := by
  induction h with
  | known pair => exact .known pair
  | pure value => exact .pure value
  | fail message => exact .fail message
  | failAt message position position' => exact .compute fun _ _ like => .error rfl like
  | lift computation => exact .lift computation
  | setConsumed consumed => exact .setConsumed consumed
  | satisfy accept expected => exact .satisfy_abreast accept expected
  | literal items expected => exact .literal_abreast items expected
  | eof => exact .eof_abreast
  | map f _ ih => exact .map f ih
  | andThen _ _ ihp ihk => exact .andThen ihp ihk
  | orElse _ _ ihp ihq => exact .orElse ihp ihq
  | many _ ih => exact .many ih
  | notFollowedBy _ ih => exact .notFollowedBy ih
  | attempt _ ih => exact .attempt ih
  | lookAhead _ ih => exact .lookAhead ih
  | filterMap decide message _ ih => exact .filterMap decide message ih
  | withMessage message _ ih => exact .withMessage_abreast message ih
  | atStart _ ih => exact .atStart_abreast ih
  | recursive _ ih => exact .recursive ih
  | rules _ i ih => exact .rules ih i

end

/-! ## Runs on the same items -/

/-- Take a grammar for two kinds of input, and start it on two inputs that hold the same items,
from any two positions and with the same flag.  With whatever fuel the two runs end in the same
way: both without a reply, or in the same failure of the host, or both with the same value, or
both with the same message.  The items that are left and the flag are then the same, and each of the
two final positions is that run's own start position advanced over the same items. -/
theorem agree_of_transcribed [LawfulHost m] [ImmediateHost m ε] [LawfulInput σ] [LawfulInput σ']
    {p : Parser m σ π α} {q : Parser m σ' π' α} (h : p.Transcribed q) {s : State σ π}
    {s' : State σ' π'} (items : Input.SameItems s.input s'.input)
    (consumed : s.consumed = s'.consumed) (fuel : Nat) :
    Outcome.Agree (Likeness.abreast s s').Replies (p.outcome fuel s) (q.outcome fuel s') := by
  have alike : Alike (.refl m) (.abreast s s') (fun _ _ _ => False) α p q := h.alike
  have simulates : Simulates (.refl m) (.abreast s s') α p q :=
    alike.simulates fun _ _ _ none => none.elim
  exact simulates.agree fuel (.start consumed items)

/-- Letters, each followed by a line break; where one is missing the error is about a place that
is given. -/
def letterLines [Input σ Char π] (place : π) : Parser Id σ π (List Char) :=
  ((item 'a').seqRight ((item '\n').orElse (failAt "no line break" place))).many.andThen
    fun breaks => eof.map fun _ => breaks

theorem transcribed_letterLines [Input σ Char π] [Input σ' Char π'] (place : π)
    (place' : π') : (letterLines place : Parser Id σ π _).Transcribed
      (letterLines place' : Parser Id σ' π' _) := by
  have line : TranscribedIn (fun _ _ _ => False) Char
      ((item 'a').seqRight ((item '\n').orElse (failAt "no line break" place)) : Parser Id σ π _)
      ((item 'a').seqRight ((item '\n').orElse (failAt "no line break" place')) :
        Parser Id σ' π' _) :=
    .seqRight (.item 'a') (.orElse (.item '\n') (.failAt "no line break" place place'))
  exact .andThen (.many line) fun breaks => .map _ .eof

/-- A text that is taken up in its third line, and a list of the same characters that is taken up
at its seventh item: both runs read a line and a letter and miss the second line break.  The text
is left in its fourth line, the list at its tenth item. -/
theorem agree_of_transcribed_letterLines :
    Input.SameItems (⟨['a', '\n', 'a', 'b']⟩ : Text) ['a', '\n', 'a', 'b'] ∧
      (letterLines ⟨9, 9⟩).outcome 4 ⟨(⟨['a', '\n', 'a', 'b']⟩ : Text), ⟨3, 5⟩, false⟩ =
        .delivered (.error ⟨"no line break", ⟨9, 9⟩⟩ ⟨⟨['b']⟩, ⟨4, 2⟩, true⟩) ∧
      (letterLines 0).outcome 4 ⟨['a', '\n', 'a', 'b'], 7, false⟩ =
        .delivered (.error ⟨"no line break", 0⟩ ⟨['b'], 10, true⟩) ∧
      Outcome.Agree (Likeness.abreast (⟨⟨['a', '\n', 'a', 'b']⟩, ⟨3, 5⟩, false⟩ : State Text _)
          (⟨['a', '\n', 'a', 'b'], 7, false⟩ : State (List Char) _)).Replies
        ((letterLines ⟨9, 9⟩).outcome 4 ⟨(⟨['a', '\n', 'a', 'b']⟩ : Text), ⟨3, 5⟩, false⟩)
        ((letterLines 0).outcome 4 ⟨['a', '\n', 'a', 'b'], 7, false⟩) := by
  have items : Input.SameItems (⟨['a', '\n', 'a', 'b']⟩ : Text) ['a', '\n', 'a', 'b'] :=
    Input.sameItems_iff.mpr rfl
  have transcribed : (letterLines ⟨9, 9⟩ : Parser Id Text LineColumn _).Transcribed
      (letterLines 0 : Parser Id (List Char) Nat _) := transcribed_letterLines _ _
  exact ⟨items, rfl, rfl, agree_of_transcribed transcribed items rfl 4⟩

end Parser

end Descent
