import Descent.Proofs.Phrase.Execution

/-!
# Choices between attempts

Where the first branch of every choice is an attempt, a grammar is a parsing expression grammar:
sequences, ordered choices that try the second branch at the place of the choice whenever the
first one fails, and predicates that read nothing.  What such a grammar recognizes is said here
without any flag, on the input and the position alone.  The engine decides its choices by the flag,
which is cleared, set, handed on and restored all the way through a run, and comes to the same
answers.

Main definitions:

- `Place`: an input and a position.
- `Primitive.meaning`, `Wrapping.meaning`: what the leaves and the combinators around one parser
  recognize.
- `Recognizes`: what a phrase recognizes at a place.
- `Phrase.IsPeg`: the phrases whose choices are between attempts.

Main results:

- Theorems `Performs.recognizes` and `Recognizes.exists_performs`: runs and meaning agree, rule by
  rule.
- Theorem `Phrase.parser_recognizes`: a run succeeds with what the phrase recognizes, and fails if
  it recognizes nothing.
-/

namespace Descent

variable {σ τ π ω α β : Type} {Γ : Families}

/-! ## Places -/

/-- Where a run can be, apart from the flag. -/
structure Place (σ π : Type) where
  input : σ
  position : π

namespace Place

variable [Input σ τ π]

/-- The first item and the place after it, or nothing at the end. -/
def next? (x : Place σ π) : Option (τ × Place σ π) :=
  (Input.next? x.input).map fun (item, rest) => (item, ⟨rest, Input.advance σ x.position item⟩)

/-- The place behind the given items; nothing unless the input starts with all of them. -/
def readAll? [BEq τ] : List τ → Place σ π → Option (Place σ π)
  | [], x => some x
  | wanted :: items, x =>
      match x.next? with
      | some (item, y) => if item == wanted then readAll? items y else none
      | none => none

end Place

/-- The place of a state. -/
def State.place (s : State σ π) : Place σ π :=
  ⟨s.input, s.position⟩

/-- Reading an item from a state is reading it from the place of the state. -/
theorem State.next?_place [Input σ τ π] (s : State σ π) :
    s.place.next? = s.next?.map fun (item, t) => (item, t.place) := by
  unfold State.next? Place.next?
  cases h : Input.next? s.input with
  | none => simp [State.place, h]
  | some read => simp [State.place, State.advance, h]

/-- Reading items from a state is reading them from the place of the state. -/
theorem State.readAll?_place [Input σ τ π] [BEq τ] (items : List τ) (s : State σ π) :
    s.place.readAll? items = (s.readAll? items).map State.place := by
  induction items generalizing s with
  | nil => rfl
  | cons wanted items ih =>
      rw [Place.readAll?, State.readAll?, State.next?_place]
      cases s.next? with
      | none => rfl
      | some read =>
          rcases read with ⟨item, t⟩
          simp only [Option.map_some]
          split
          · exact ih t
          · rfl

/-- What a reply says apart from flags and errors: the value and where the run ended. -/
def Reply.parsed (r : Reply σ π α) : Option (α × Place σ π) :=
  match r.result with
  | .ok value => some (value, r.state.place)
  | .error _ => none

@[simp]
theorem Reply.parsed_ok (a : α) (t : State σ π) : (Reply.ok a t).parsed = some (a, t.place) :=
  rfl

@[simp]
theorem Reply.parsed_error (e : ParseError π) (t : State σ π) :
    (Reply.error e t : Reply σ π α).parsed = none :=
  rfl

@[simp]
theorem Reply.parsed_errorHere (message : String) (t : State σ π) :
    (Reply.errorHere message t : Reply σ π α).parsed = none :=
  rfl

theorem Reply.parsed_eq_some {r : Reply σ π α} {a : α} {y : Place σ π}
    (h : r.parsed = some (a, y)) : ∃ t, r = .ok a t ∧ t.place = y := by
  cases r with
  | ok b t =>
      cases h
      exact ⟨t, rfl, rfl⟩
  | error e t => cases h

theorem Reply.parsed_eq_none {r : Reply σ π α} (h : r.parsed = none) : ∃ e t, r = .error e t := by
  cases r with
  | ok a t => cases h
  | error e t => exact ⟨e, t, rfl⟩

/-! ## Meanings -/

/-- What a primitive recognizes at a place. -/
def Primitive.meaning [Input σ τ π] : Primitive σ τ π α → Place σ π → Option (α × Place σ π)
  | pure value, x => some (value, x)
  | fail _, _ => none
  | failAt _ _, _ => none
  | putState replacement, _ => some ((), replacement.place)
  | setConsumed _, x => some ((), x)
  | position, x => some (x.position, x)
  | satisfy accept _, x => x.next?.filter fun (item, _) => accept item
  | literal items _, x => (x.readAll? items).map ((), ·)
  | eof, x => if Input.isExhausted x.input then some ((), x) else none

/-- What a combinator around one parser recognizes at a place, given what the parser does. -/
def Wrapping.meaning :
    Wrapping σ π α β → Place σ π → Option (α × Place σ π) → Option (β × Place σ π)
  | map f, _, o => o.map fun (a, y) => (f a, y)
  | notFollowedBy, _, some _ => none
  | notFollowedBy, x, none => some ((), x)
  | attempt, _, o => o
  | lookAhead, x, o => o.map fun (a, _) => (a, x)
  | filterMap decide _, _, o => o.bind fun (a, y) => (decide a).map (·, y)
  | mapError _, _, o => o
  | atStart, _, o => o
  | withSpan, x, o => o.map fun (a, y) => ((a, ⟨x.position, y.position⟩), y)

/-- What a phrase recognizes at a place: a value and the place behind it, or nothing. -/
inductive Recognizes [Input σ τ π] : {Γ : Families} → Definitions σ τ π ω Γ → {α : Type} →
    Phrase σ τ π ω Γ α → Place σ π → Option (α × Place σ π) → Prop where
  | primitive {Γ : Families} {defs : Definitions σ τ π ω Γ} {α : Type}
      (p : Primitive σ τ π α) (x : Place σ π) : Recognizes defs (.primitive p) x (p.meaning x)
  | wrap {Γ : Families} {defs : Definitions σ τ π ω Γ} {α β : Type} {g : Phrase σ τ π ω Γ α}
      {x : Place σ π} {o : Option (α × Place σ π)} (w : Wrapping σ π α β)
      (inner : Recognizes defs g x o) : Recognizes defs (.wrap w g) x (w.meaning x o)
  | andThen {Γ : Families} {defs : Definitions σ τ π ω Γ} {α β : Type}
      {g : Phrase σ τ π ω Γ α} {k : α → Phrase σ τ π ω Γ β} {x y : Place σ π} {a : α}
      {o : Option (β × Place σ π)} (first : Recognizes defs g x (some (a, y)))
      (second : Recognizes defs (k a) y o) : Recognizes defs (.andThen g k) x o
  | andThenNone {Γ : Families} {defs : Definitions σ τ π ω Γ} {α β : Type}
      {g : Phrase σ τ π ω Γ α} {k : α → Phrase σ τ π ω Γ β} {x : Place σ π}
      (first : Recognizes defs g x none) : Recognizes defs (.andThen g k) x none
  | orElseFirst {Γ : Families} {defs : Definitions σ τ π ω Γ} {α : Type}
      {g h : Phrase σ τ π ω Γ α} {x y : Place σ π} {a : α}
      (first : Recognizes defs g x (some (a, y))) :
      Recognizes defs (.orElse g h) x (some (a, y))
  | orElseSecond {Γ : Families} {defs : Definitions σ τ π ω Γ} {α : Type}
      {g h : Phrase σ τ π ω Γ α} {x : Place σ π} {o : Option (α × Place σ π)}
      (first : Recognizes defs g x none) (second : Recognizes defs h x o) :
      Recognizes defs (.orElse g h) x o
  | rules {Γ : Families} {defs : Definitions σ τ π ω Γ} {ι α : Type}
      {define : ι → Phrase σ τ π ω ((ι, α) :: Γ) α} {i : ι} {x : Place σ π}
      {o : Option (α × Place σ π)} (body : Recognizes (defs.family define) (define i) x o) :
      Recognizes defs (.rules define i) x o
  | here {Γ : Families} {defs : Definitions σ τ π ω Γ} {ι α : Type}
      {define : ι → Phrase σ τ π ω ((ι, α) :: Γ) α} {i : ι} {x : Place σ π}
      {o : Option (α × Place σ π)} (body : Recognizes (defs.family define) (define i) x o) :
      Recognizes (defs.family define) (.call (.here i)) x o
  | there {Γ : Families} {defs : Definitions σ τ π ω Γ} {ι α β : Type}
      {define : ι → Phrase σ τ π ω ((ι, α) :: Γ) α} {name : RuleName Γ β} {x : Place σ π}
      {o : Option (β × Place σ π)} (outer : Recognizes defs (.call name) x o) :
      Recognizes (defs.family define) (.call (.there name)) x o

/-! ## The fragment -/

/-- The phrase is an attempt. -/
def Phrase.IsAttempt : Phrase σ τ π ω Γ α → Prop
  | .wrap .attempt _ => True
  | _ => False

/-- The first branch of every choice is an attempt; there are no effects and no repetitions but
by recursion, and the flag is not read. -/
def Phrase.IsPeg : {Γ : Families} → {α : Type} → Phrase σ τ π ω Γ α → Prop
  | _, _, .primitive _ => True
  | _, _, .getState => False
  | _, _, .lift _ _ => False
  | _, _, .wrap _ g => g.IsPeg
  | _, _, .andThen g k => g.IsPeg ∧ ∀ a, (k a).IsPeg
  | _, _, .orElse g h => g.IsAttempt ∧ g.IsPeg ∧ h.IsPeg
  | _, _, .many _ => False
  | _, _, .rules define _ => ∀ i, (define i).IsPeg
  | _, _, .call _ => True

/-- All definitions in scope are in the fragment. -/
def Definitions.IsPeg : {Γ : Families} → Definitions σ τ π ω Γ → Prop
  | _, .none => True
  | _, .family outer define => outer.IsPeg ∧ ∀ i, (define i).IsPeg

variable [Input σ τ π]

/-! ## Runs and meanings agree -/

theorem Primitive.parsed_reply (p : Primitive σ τ π α) (s : State σ π) :
    (p.reply s).parsed = p.meaning s.place := by
  cases p with
  | satisfy accept expected =>
      rw [reply, meaning, State.next?_place]
      cases s.next? with
      | none => rfl
      | some read =>
          rcases read with ⟨item, t⟩
          cases accepted : accept item with
          | true => simp [accepted, Option.filter]
          | false => simp [accepted, Option.filter]
  | literal items expected =>
      rw [reply, meaning, State.readAll?_place]
      cases s.readAll? items with
      | none => rfl
      | some t => rfl
  | eof =>
      rw [reply, meaning, State.place]
      split
      · rfl
      · rfl
  | _ => rfl

theorem Wrapping.parsed_change (w : Wrapping σ π α β) (s : State σ π) (r : Reply σ π α) :
    (w.change s r).parsed = w.meaning s.place r.parsed := by
  cases w with
  | filterMap decide message =>
      cases r with
      | ok a t =>
          cases kept : decide a with
          | none => simp [change, meaning, Reply.select_ok_of_none message s t kept, kept]
          | some b => simp [change, meaning, Reply.select_ok_of_some message s t kept, kept]
      | error e t => rfl
  | _ =>
      cases r with
      | ok a t => rfl
      | error e t => rfl

/-- Entered with the flag clear, an attempt that fails leaves it clear, whatever its parser did. -/
theorem Performs.isRecoverable_of_isAttempt {defs : Definitions σ τ π ω Γ}
    {g : Phrase σ τ π ω Γ α} {s : State σ π} {labels : List ω} {r : Reply σ π α}
    (h : Performs defs g s labels r) (attempt : g.IsAttempt) (clear : s.consumed = false) :
    r.isRecoverable = r.parsed.isNone := by
  cases h with
  | wrap w inner =>
      cases w with
      | attempt =>
          rename Reply σ π α => reply
          cases reply with
          | ok a t => rfl
          | error e t => exact congrArg (!·) clear
      | _ => exact attempt.elim
  | _ => exact attempt.elim

/-- What a run in the fragment ends with is recognized: a first branch that fails is an attempt, so
that the flag is clear behind it and the second branch is run. -/
theorem Performs.recognizes {defs : Definitions σ τ π ω Γ} {g : Phrase σ τ π ω Γ α}
    {s : State σ π} {labels : List ω} {r : Reply σ π α} (h : Performs defs g s labels r)
    (known : defs.IsPeg) (peg : g.IsPeg) : Recognizes defs g s.place r.parsed := by
  induction h with
  | primitive p s =>
      rw [p.parsed_reply]
      exact .primitive p s.place
  | getState s => exact peg.elim
  | lift label value s => exact peg.elim
  | wrap w _ ih =>
      rw [w.parsed_change]
      exact .wrap w (ih known peg)
  | andThen _ _ ihg ihk => exact .andThen (ihg known peg.1) (ihk known (peg.2 _))
  | andThenError _ ih => exact .andThenNone (ih known peg.1)
  | orElseFirst first kept ih =>
      rw [first.isRecoverable_of_isAttempt peg.1 rfl, Option.isNone_eq_false_iff] at kept
      rcases Option.isSome_iff_exists.mp kept with ⟨⟨a, y⟩, parsed⟩
      rw [parsed]
      exact .orElseFirst (parsed ▸ ih known peg.2.1)
  | orElseSecond first recoverable _ ihg ihh =>
      rw [first.isRecoverable_of_isAttempt peg.1 rfl, Option.isNone_iff_eq_none] at recoverable
      exact .orElseSecond (recoverable ▸ ihg known peg.2.1) (ihh known peg.2.2)
  | many each gathers ih => exact peg.elim
  | rules _ ih => exact .rules (ih ⟨known, peg⟩ (peg _))
  | here _ ih => exact .here (ih known (known.2 _))
  | there _ ih => exact .there (ih known.1 trivial)

/-- What is recognized in the fragment is what a run ends with, from every state at the place. -/
theorem Recognizes.exists_performs {defs : Definitions σ τ π ω Γ} {g : Phrase σ τ π ω Γ α}
    {x : Place σ π} {o : Option (α × Place σ π)} (h : Recognizes defs g x o)
    (known : defs.IsPeg) (peg : g.IsPeg) (s : State σ π) (at_place : s.place = x) :
    ∃ r, Performs defs g s [] r ∧ r.parsed = o := by
  induction h generalizing s with
  | primitive p x =>
      rcases at_place with rfl
      exact ⟨p.reply s, .primitive p s, p.parsed_reply s⟩
  | wrap w _ ih =>
      rcases at_place with rfl
      rcases ih known peg s rfl with ⟨r, inner, rfl⟩
      exact ⟨w.change s r, .wrap w inner, w.parsed_change s r⟩
  | andThen _ _ ihg ihk =>
      rcases ihg known peg.1 s at_place with ⟨r, first, parsed⟩
      rcases Reply.parsed_eq_some parsed with ⟨t, rfl, between⟩
      rcases ihk known (peg.2 _) t between with ⟨r, second, parsed⟩
      exact ⟨r, .andThen first second, parsed⟩
  | andThenNone _ ih =>
      rcases ih known peg.1 s at_place with ⟨r, first, parsed⟩
      rcases Reply.parsed_eq_none parsed with ⟨e, t, rfl⟩
      exact ⟨.error e t, .andThenError first, rfl⟩
  | orElseFirst _ ih =>
      rcases ih known peg.2.1 (s.withConsumed false) at_place with ⟨r, first, parsed⟩
      refine ⟨r, .orElseFirst first ?_, parsed⟩
      rw [first.isRecoverable_of_isAttempt peg.1 rfl, parsed]
      rfl
  | orElseSecond _ _ ihg ihh =>
      rcases ihg known peg.2.1 (s.withConsumed false) at_place with ⟨r, first, nothing⟩
      rcases ihh known peg.2.2 s at_place with ⟨r', second, parsed⟩
      refine ⟨r', .orElseSecond first ?_ second, parsed⟩
      rw [first.isRecoverable_of_isAttempt peg.1 rfl, nothing]
      rfl
  | rules _ ih =>
      rcases ih ⟨known, peg⟩ (peg _) s at_place with ⟨r, body, parsed⟩
      exact ⟨r, .rules body, parsed⟩
  | here _ ih =>
      rcases ih known (known.2 _) s at_place with ⟨r, body, parsed⟩
      exact ⟨r, .here body, parsed⟩
  | there _ ih =>
      rcases ih known.1 trivial s at_place with ⟨r, outer, parsed⟩
      exact ⟨r, .there outer, parsed⟩

namespace Phrase

/-- Where a run in the fragment ends, its phrase recognizes what the reply says, and no more. -/
theorem recognizes_iff_parsed {g : Phrase σ τ π ω [] α} (peg : g.IsPeg) {fuel : Nat}
    {s : State σ π} {r : Reply σ π α} (ends : (g.parser .plain).Delivers fuel s r)
    (o : Option (α × Place σ π)) : Recognizes .none g s.place o ↔ r.parsed = o := by
  rcases exists_performs_of_delivers ends with ⟨labels, performs⟩
  constructor
  · intro recognizes
    rcases recognizes.exists_performs trivial peg s rfl with ⟨r', performs', parsed⟩
    rcases performs.unique performs' with ⟨-, rfl⟩
    exact parsed
  · rintro rfl
    exact performs.recognizes trivial peg

/-- Take any grammar in which the first branch of every choice is an attempt, and any state, with
either flag.  Where the run ends, it succeeds with a value, an input and a position just if the
grammar recognizes them at the input and the position of the state, and it fails just if the
grammar recognizes nothing there.  And wherever the grammar recognizes something, or recognizes
that there is nothing, the run ends. -/
theorem parser_recognizes (g : Phrase σ τ π ω [] α) (peg : g.IsPeg) (s : State σ π) :
    (∀ fuel r, (g.parser .plain).Delivers fuel s r →
      (∀ value input position,
        (∃ t, r = .ok value t ∧ t.input = input ∧ t.position = position) ↔
          Recognizes .none g ⟨s.input, s.position⟩ (some (value, ⟨input, position⟩))) ∧
      ((∃ e t, r = .error e t) ↔ Recognizes .none g ⟨s.input, s.position⟩ none)) ∧
    ∀ o, Recognizes .none g ⟨s.input, s.position⟩ o →
      ∃ r, (g.parser .plain).Yields s r ∧ r.parsed = o := by
  refine ⟨fun fuel r ends => ⟨fun value input position => ?_, ?_⟩, fun o recognizes => ?_⟩
  · refine Iff.trans ?_ (recognizes_iff_parsed peg ends _).symm
    constructor
    · rintro ⟨t, rfl, rfl, rfl⟩
      rfl
    · intro parsed
      rcases Reply.parsed_eq_some parsed with ⟨t, rfl, place⟩
      exact ⟨t, rfl, congrArg Place.input place, congrArg Place.position place⟩
  · refine Iff.trans ?_ (recognizes_iff_parsed peg ends _).symm
    constructor
    · rintro ⟨e, t, rfl⟩
      rfl
    · exact Reply.parsed_eq_none
  · rcases recognizes.exists_performs trivial peg s rfl with ⟨r, performs, parsed⟩
    exact ⟨r, g.translated_plain.yields (yields_of_performs performs), parsed⟩

/-! ## A recursive grammar -/

/-- A nest between a left bracket and the given right one. -/
def bracketed (right : Char) : Phrase Text Char LineColumn ω [(Unit, Nat)] Nat :=
  .andThen (.seqRight (.item '(') (.call (.here ()))) fun depth =>
    .seqRight (.item right) (.primitive (.pure (depth + 1)))

/-- Brackets around a letter, and how many they are: a left bracket may be closed in two ways,
and which one it is shows only behind the nest. -/
def nest : Phrase Text Char LineColumn ω [] Nat :=
  .recursive (.orElse (.wrap .attempt (bracketed ')'))
    (.orElse (.wrap .attempt (bracketed ']')) (.seqRight (.item 'x') (.primitive (.pure 0)))))

/-- Two nests: in the first one the branch that is tried first has read the whole inner nest when
it fails, and the second one is not closed. -/
theorem parser_recognizes_nest :
    (nest (ω := Empty)).IsPeg ∧
      (nest.parser (.plain (ω := Empty))).Delivers 3
        ⟨⟨['(', '(', 'x', ')', ']']⟩, ⟨1, 1⟩, true⟩ (.ok 2 ⟨⟨[]⟩, ⟨1, 6⟩, true⟩) ∧
      Recognizes .none (nest (ω := Empty)) ⟨⟨['(', '(', 'x', ')', ']']⟩, ⟨1, 1⟩⟩
        (some (2, ⟨⟨[]⟩, ⟨1, 6⟩⟩)) ∧
      (nest.parser (.plain (ω := Empty))).Delivers 3 ⟨⟨['(', 'x']⟩, ⟨1, 1⟩, false⟩
        (.error ⟨Parser.expectedMessage (Quoted.quoted 'x'), ⟨1, 1⟩⟩
          ⟨⟨['(', 'x']⟩, ⟨1, 1⟩, false⟩) ∧
      Recognizes .none (nest (ω := Empty)) ⟨⟨['(', 'x']⟩, ⟨1, 1⟩⟩ none := by
  have peg : (nest (ω := Empty)).IsPeg := by
    simp [nest, bracketed, recursive, seqRight, item, IsPeg, IsAttempt]
  refine ⟨peg, rfl, ?_, rfl, ?_⟩
  · have run := (parser_recognizes nest peg ⟨⟨['(', '(', 'x', ')', ']']⟩, ⟨1, 1⟩, true⟩).1 3 _ rfl
    exact (run.1 _ _ _).mp ⟨_, rfl, rfl, rfl⟩
  · have run := (parser_recognizes nest peg ⟨⟨['(', 'x']⟩, ⟨1, 1⟩, false⟩).1 3 _ rfl
    exact run.2.mp ⟨_, _, rfl⟩

end Phrase

end Descent
