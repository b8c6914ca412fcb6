import Descent.Proofs.Engine.HostIndependence

/-!
# Grammars as phrases

A phrase says how a grammar is built: from which primitives, with which combinators, and from
which rules that refer to each other.  It is no parser yet.  It gives one in every host that says
how to perform a labelled computation, so the same phrase can be run in several hosts, and what a
run does can be told from the phrase alone.

Main definitions:

- `Primitive`, `Wrapping`: the leaves of a phrase, and the combinators around a single parser.
- `RuleName`: the rules that are in scope, innermost first.
- `Phrase`: a grammar that may call the rules in scope.
- `Handler`: how a host performs a labelled computation.
- `Phrase.parserIn`, `Phrase.parser`: the parser of a phrase.
- `Phrase.Within`: the phrases that are built from a fragment of the library.

Main results:

- Theorems `Primitive.parser_eq` and `Wrapping.around_eq`: leaves compute, and combinators around
  one parser revise.
- Theorem `Phrase.translated`: in two hosts a phrase gives translated parsers, provided that its
  labelled computations are translated.
- Theorem `Phrase.Within.composed`: a phrase of a fragment gives a parser composed from it.
-/

namespace Descent

variable {m n : Type → Type} {σ τ π ω α β γ ι : Type}

/-! ## Leaves and wrappings -/

/-- The primitives whose reply is computed from the place that they are entered at. -/
inductive Primitive (σ τ π : Type) : Type → Type 1 where
  | pure {α : Type} (value : α) : Primitive σ τ π α
  | fail {α : Type} (message : String) : Primitive σ τ π α
  | failAt {α : Type} (message : String) (position : π) : Primitive σ τ π α
  | putState (replacement : State σ π) : Primitive σ τ π Unit
  | setConsumed (consumed : Bool) : Primitive σ τ π Unit
  | position : Primitive σ τ π π
  | satisfy (accept : τ → Bool) (expected : String) : Primitive σ τ π τ
  | literal [BEq τ] (items : List τ) (expected : String) : Primitive σ τ π Unit
  | eof : Primitive σ τ π Unit

namespace Primitive

/-- The parser of the library. -/
def parser [Monad m] [Input σ τ π] : Primitive σ τ π α → Parser m σ π α
  | pure value => .pure value
  | fail message => .fail message
  | failAt message place => .failAt message place
  | putState replacement => .putState replacement
  | setConsumed consumed => .setConsumed consumed
  | position => .position
  | satisfy accept expected => .satisfy accept expected
  | literal items expected => .literal items expected
  | eof => .eof

/-- The reply in a state. -/
def reply [Input σ τ π] : Primitive σ τ π α → State σ π → Reply σ π α
  | pure value, s => .ok value s
  | fail message, s => .errorHere message s
  | failAt message place, s => .error ⟨message, place⟩ s
  | putState replacement, _ => .ok () replacement
  | setConsumed consumed, s => .ok () (s.withConsumed consumed)
  | position, s => .ok s.position s
  | satisfy accept expected, s =>
      match s.next? with
      | some (x, rest) =>
          if accept x then .ok x rest else .errorHere (Parser.expectedMessage expected) s
      | none => .errorHere (Parser.unexpectedEndMessage expected) s
  | literal items expected, s =>
      match s.readAll? items with
      | some rest => .ok () rest
      | none => .errorHere (Parser.expectedMessage expected) s
  | eof, s =>
      if Input.isExhausted s.input then .ok () s else .errorHere Parser.expectedEndMessage s

/-- A primitive computes its reply, in every host. -/
theorem parser_eq [Monad m] [Input σ τ π] (p : Primitive σ τ π α) :
    (p.parser : Parser m σ π α) = ⟨fun _ s => Pure.pure (p.reply s)⟩ := by
  cases p <;> rfl

end Primitive

/-- The combinators that run one parser and change its reply. -/
inductive Wrapping (σ π : Type) : Type → Type → Type 1 where
  | map {α β : Type} (f : α → β) : Wrapping σ π α β
  | notFollowedBy {α : Type} : Wrapping σ π α Unit
  | attempt {α : Type} : Wrapping σ π α α
  | lookAhead {α : Type} : Wrapping σ π α α
  | filterMap {α β : Type} (decide : α → Option β) (message : String) : Wrapping σ π α β
  | mapError {α : Type} (f : ParseError π → ParseError π) : Wrapping σ π α α
  | atStart {α : Type} : Wrapping σ π α α
  | withSpan {α : Type} : Wrapping σ π α (α × Span π)

namespace Wrapping

/-- The combinator of the library around a parser. -/
def around [Monad m] : Wrapping σ π α β → Parser m σ π α → Parser m σ π β
  | map f, p => p.map f
  | notFollowedBy, p => p.notFollowedBy
  | attempt, p => p.attempt
  | lookAhead, p => p.lookAhead
  | filterMap decide message, p => p.filterMap decide message
  | mapError f, p => p.mapError f
  | atStart, p => p.atStart
  | withSpan, p => p.withSpan

/-- The reply of the combinator that is entered in a state, given the reply of its parser. -/
def change : Wrapping σ π α β → State σ π → Reply σ π α → Reply σ π β
  | map f, _, r => r.map f
  | notFollowedBy, entry, r =>
      match r.result with
      | .ok _ => .errorHere Parser.unexpectedMatchMessage entry
      | .error _ => .ok () entry
  | attempt, entry, r =>
      match r.result with
      | .ok _ => r
      | .error e => .error e (r.state.withConsumed entry.consumed)
  | lookAhead, entry, r => { r with state := entry }
  | filterMap decide message, entry, r => r.select decide message entry
  | mapError f, _, r => r.mapError f
  | atStart, entry, r => r.mapError (·.relocate entry.position)
  | withSpan, entry, r => r.map (·, ⟨entry.position, r.state.position⟩)

/-- A combinator around one parser revises it, in the same way in every host. -/
theorem around_eq [Monad m] (w : Wrapping σ π α β) (p : Parser m σ π α) :
    w.around p = p.revise w.change := by
  cases w <;> rfl

end Wrapping

/-! ## Phrases -/

/-- The families of rules in scope, innermost first: what the rules of each family are indexed
by, and the type of their values. -/
abbrev Families : Type 1 :=
  List (Type × Type)

/-- A rule in scope, by its family and its index. -/
inductive RuleName : Families → Type → Type 1 where
  | here {ι α : Type} {Γ : Families} (i : ι) : RuleName ((ι, α) :: Γ) α
  | there {family : Type × Type} {Γ : Families} {α : Type} (name : RuleName Γ α) :
      RuleName (family :: Γ) α

/-- A grammar that may call the rules in scope.  The computations that it lifts are known by a
label and the value that they give. -/
inductive Phrase (σ τ π ω : Type) : Families → Type → Type 1 where
  | primitive {Γ : Families} {α : Type} (p : Primitive σ τ π α) : Phrase σ τ π ω Γ α
  | getState {Γ : Families} : Phrase σ τ π ω Γ (State σ π)
  | lift {Γ : Families} {α : Type} (label : ω) (value : α) : Phrase σ τ π ω Γ α
  | wrap {Γ : Families} {α β : Type} (w : Wrapping σ π α β) (g : Phrase σ τ π ω Γ α) :
      Phrase σ τ π ω Γ β
  | andThen {Γ : Families} {α β : Type} (g : Phrase σ τ π ω Γ α)
      (k : α → Phrase σ τ π ω Γ β) : Phrase σ τ π ω Γ β
  | orElse {Γ : Families} {α : Type} (g h : Phrase σ τ π ω Γ α) : Phrase σ τ π ω Γ α
  | many {Γ : Families} {α : Type} (g : Phrase σ τ π ω Γ α) : Phrase σ τ π ω Γ (List α)
  | rules {Γ : Families} {ι α : Type} (define : ι → Phrase σ τ π ω ((ι, α) :: Γ) α) (i : ι) :
      Phrase σ τ π ω Γ α
  | call {Γ : Families} {α : Type} (name : RuleName Γ α) : Phrase σ τ π ω Γ α

/-! ## Parsers of phrases -/

/-- How a host performs the computation with a label that gives a value. -/
abbrev Handler (m : Type → Type) (ω : Type) : Type 1 :=
  ∀ α : Type, ω → α → m α

/-- Parsers for the rules in scope. -/
abbrev Callees (m : Type → Type) (σ π : Type) (Γ : Families) : Type 1 :=
  ∀ α : Type, RuleName Γ α → Parser m σ π α

namespace Callees

/-- No rules are in scope. -/
def none : Callees m σ π [] :=
  fun _ name => nomatch name

/-- Brings one more family of rules into scope. -/
def bind {Γ : Families} (outer : Callees m σ π Γ) (callee : ι → Parser m σ π α) :
    Callees m σ π ((ι, α) :: Γ)
  | _, .here i => callee i
  | _, .there name => outer _ name

end Callees

namespace Phrase

section Parser

variable [Host m] [Input σ τ π] (handle : Handler m ω)

/-- The parser of a phrase, given parsers for the rules in scope. -/
def parserIn : {Γ : Families} → {α : Type} → Callees m σ π Γ → Phrase σ τ π ω Γ α →
    Parser m σ π α
  | _, _, _, primitive p => p.parser
  | _, _, _, getState => .getState
  | _, _, _, lift label value => .lift (handle _ label value)
  | _, _, callees, wrap w g => w.around (g.parserIn callees)
  | _, _, callees, andThen g k => (g.parserIn callees).andThen fun a => (k a).parserIn callees
  | _, _, callees, orElse g h => (g.parserIn callees).orElse (h.parserIn callees)
  | _, _, callees, many g => (g.parserIn callees).many
  | _, _, callees, rules define i =>
      .rules (fun callee i => (define i).parserIn (callees.bind callee)) i
  | _, _, callees, call name => callees _ name

/-- The parser of a phrase that needs no rules from outside. -/
def parser (g : Phrase σ τ π ω [] α) : Parser m σ π α :=
  g.parserIn handle .none

/-! ## The remaining combinators -/

variable {Γ : Families}

/-- Fails with a message of its own. -/
def withMessage (g : Phrase σ τ π ω Γ α) (message : String) : Phrase σ τ π ω Γ α :=
  .wrap (.mapError (·.reword message)) g

/-- The choice between no alternatives. -/
def empty : Phrase σ τ π ω Γ α :=
  .primitive (.fail Parser.noAlternative)

/-- Reads one item, whatever it is. -/
def anyItem : Phrase σ τ π ω Γ τ :=
  .primitive (.satisfy (fun _ => true) "any item")

/-- Reads the given item. -/
def item [BEq τ] [Quoted τ] (wanted : τ) : Phrase σ τ π ω Γ τ :=
  .primitive (.satisfy (· == wanted) (Quoted.quoted wanted))

/-- Reads the characters of a string. -/
def string (text : String) : Phrase σ Char π ω Γ String :=
  .wrap (.map fun _ => text) (.primitive (.literal text.toList (Quoted.quoted text)))

/-- Two phrases in turn, for the value of the second. -/
def seqRight (g : Phrase σ τ π ω Γ α) (h : Phrase σ τ π ω Γ β) : Phrase σ τ π ω Γ β :=
  .andThen g fun _ => h

/-- Two phrases in turn, for both values. -/
def pair (g : Phrase σ τ π ω Γ α) (h : Phrase σ τ π ω Γ β) : Phrase σ τ π ω Γ (α × β) :=
  .andThen g fun a => .wrap (.map (a, ·)) h

/-- Tries phrases in order. -/
def choice : List (Phrase σ τ π ω Γ α) → Phrase σ τ π ω Γ α
  | [] => empty
  | g :: gs => gs.foldl .orElse g

/-- Keeps the values that a predicate accepts. -/
def filter (g : Phrase σ τ π ω Γ α) (accept : α → Bool) (message : String) :
    Phrase σ τ π ω Γ α :=
  .wrap (.filterMap (fun value => if accept value then some value else none) message) g

/-- A phrase that calls itself. -/
def recursive (body : Phrase σ τ π ω ((Unit, α) :: Γ) α) : Phrase σ τ π ω Γ α :=
  .rules (fun _ => body) ()

section Derived

variable (callees : Callees m σ π Γ) (g : Phrase σ τ π ω Γ α)

@[simp]
theorem parserIn_withMessage (message : String) :
    (g.withMessage message).parserIn handle callees =
      (g.parserIn handle callees).withMessage message :=
  rfl

@[simp]
theorem parserIn_empty :
    (empty : Phrase σ τ π ω Γ α).parserIn handle callees = .empty :=
  rfl

@[simp]
theorem parserIn_anyItem :
    (anyItem : Phrase σ τ π ω Γ τ).parserIn handle callees = .anyItem :=
  rfl

@[simp]
theorem parserIn_item [BEq τ] [Quoted τ] (wanted : τ) :
    (item wanted : Phrase σ τ π ω Γ τ).parserIn handle callees = .item wanted :=
  rfl

@[simp]
theorem parserIn_string [Input σ Char π] (text : String) :
    (string text : Phrase σ Char π ω Γ String).parserIn handle callees = .string text :=
  rfl

@[simp]
theorem parserIn_seqRight (h : Phrase σ τ π ω Γ β) :
    (g.seqRight h).parserIn handle callees =
      (g.parserIn handle callees).seqRight (h.parserIn handle callees) :=
  rfl

@[simp]
theorem parserIn_pair (h : Phrase σ τ π ω Γ β) :
    (g.pair h).parserIn handle callees =
      (g.parserIn handle callees).pair (h.parserIn handle callees) :=
  rfl

@[simp]
theorem parserIn_filter (accept : α → Bool) (message : String) :
    (g.filter accept message).parserIn handle callees =
      (g.parserIn handle callees).filter accept message :=
  rfl

@[simp]
theorem parserIn_choice (gs : List (Phrase σ τ π ω Γ α)) :
    (choice gs).parserIn handle callees =
      .choice (gs.map fun g => g.parserIn handle callees) := by
  cases gs with
  | nil => rfl
  | cons g gs =>
      rw [choice, List.map_cons, Parser.choice_cons]
      induction gs generalizing g with
      | nil => rfl
      | cons h gs ih => exact ih (.orElse g h)

/-- A recursive parser is a family with a single rule. -/
@[simp]
theorem parserIn_recursive (body : Phrase σ τ π ω ((Unit, α) :: Γ) α) :
    body.recursive.parserIn handle callees =
      .recursive fun me => body.parserIn handle (callees.bind fun _ => me) := by
  have approximations : ∀ n,
      Parser.approxRules (fun callee _ => body.parserIn handle (callees.bind callee)) n () =
        Parser.approx (fun me => body.parserIn handle (callees.bind fun _ => me)) n := by
    intro n
    induction n with
    | zero => rfl
    | succ n ih => rw [Parser.approxRules_succ, Parser.approx_succ, ← ih]
  exact Parser.ext fun fuel s => congrArg (fun p => p.parse fuel s) (approximations fuel)

end Derived

end Parser

/-! ## The same phrase in two hosts -/

section Translated

open Descent.Parser

variable [Host m] [Host n] [Input σ τ π] {h : Translation m n} {handle : Handler m ω}
  {handle' : Handler n ω}

/-- The parsers of a phrase are alike, given pairs of known parsers for the rules in scope. -/
theorem alike (performed : ∀ α label value, handle' α label value = h.apply (handle α label value))
    {Γ : Families} (g : Phrase σ τ π ω Γ α) {known : ParserRelation m n σ π σ π}
    {callees : Callees m σ π Γ} {callees' : Callees n σ π Γ}
    (paired : ∀ β name, known β (callees β name) (callees' β name)) :
    Alike h .same known α (g.parserIn handle callees) (g.parserIn handle' callees') := by
  induction g generalizing known with
  | primitive p =>
      rw [parserIn, parserIn, Primitive.parser_eq, Primitive.parser_eq]
      exact .of_compute p.reply
  | getState => exact .getState
  | lift label value =>
      rw [parserIn, parserIn, performed]
      exact .lift (handle _ label value)
  | wrap w g ih =>
      rw [parserIn, parserIn, Wrapping.around_eq, Wrapping.around_eq]
      exact .of_revise w.change (ih paired)
  | andThen g k ihg ihk => exact .andThen (ihg paired) fun a => ihk a paired
  | orElse g h ihg ihh => exact .orElse (ihg paired) (ihh paired)
  | many g ih => exact .many (ih paired)
  | rules define i ih =>
      refine .rules (fun callee callee' i => ih i fun β name => ?_) i
      cases name with
      | here i => exact .rule i
      | there name => exact .known (paired β name)
  | call name => exact .known (paired _ name)

/-- A phrase is the same grammar in two hosts, if its labelled computations are translated. -/
theorem translated
    (performed : ∀ α label value, handle' α label value = h.apply (handle α label value))
    (g : Phrase σ τ π ω [] α) : (g.parser handle).Translated h (g.parser handle') :=
  g.alike performed fun _ name => nomatch name

end Translated

end Phrase

/-! ## Fragments -/

/-- The fragment allows the primitive. -/
def Primitive.Within (F : Fragment) : Primitive σ τ π α → Prop
  | failAt _ _ => F.allows .failAt
  | putState _ => F.allows .putState
  | setConsumed consumed => F.allows (.setConsumed consumed)
  | position => F.allows .position
  | _ => True

/-- The fragment allows the combinator. -/
def Wrapping.Within (F : Fragment) : Wrapping σ π α β → Prop
  | attempt => F.allows .attempt
  | mapError _ => F.allows .mapError
  | _ => True

/-- The phrase is built from the fragment. -/
def Phrase.Within (F : Fragment) : {Γ : Families} → {α : Type} → Phrase σ τ π ω Γ α → Prop
  | _, _, .primitive p => p.Within F
  | _, _, .getState => F.allows .getState
  | _, _, .lift _ _ => True
  | _, _, .wrap w g => w.Within F ∧ g.Within F
  | _, _, .andThen g k => g.Within F ∧ ∀ a, (k a).Within F
  | _, _, .orElse g h => F.allows .orElse ∧ g.Within F ∧ h.Within F
  | _, _, .many g => F.allows .many ∧ g.Within F
  | _, _, .rules define _ => F.allows .recursion ∧ ∀ i, (define i).Within F
  | _, _, .call _ => True

section Composed

open Descent.Parser

variable [Host m] [Input σ τ π] {F : Fragment} {known : ParserProperty m σ π}

theorem Primitive.Within.composedIn {p : Primitive σ τ π α} (h : p.Within F) :
    ComposedIn F known α p.parser := by
  cases p with
  | pure value => exact .pure value
  | fail message => exact .fail message
  | failAt message place => exact .failAt h message place
  | putState replacement => exact .putState h replacement
  | setConsumed consumed => exact .setConsumed consumed h
  | position => exact .position h
  | satisfy accept expected => exact .satisfy accept expected
  | literal items expected => exact .literal items expected
  | eof => exact .eof

theorem Wrapping.Within.composedIn {w : Wrapping σ π α β} (h : w.Within F) {p : Parser m σ π α}
    (hp : ComposedIn F known α p) : ComposedIn F known β (w.around p) := by
  cases w with
  | map f => exact .map f hp
  | notFollowedBy => exact .notFollowedBy hp
  | attempt => exact .attempt h hp
  | lookAhead => exact .lookAhead hp
  | filterMap decide message => exact .filterMap decide message hp
  | mapError f => exact .mapError h f hp
  | atStart => exact .atStart hp
  | withSpan => exact .withSpan hp

/-- A phrase of a fragment gives a parser that is composed from the fragment and from the parsers
of the rules in scope. -/
theorem Phrase.Within.composedIn (handle : Handler m ω) {Γ : Families} {g : Phrase σ τ π ω Γ α}
    (h : g.Within F) {callees : Callees m σ π Γ}
    (calls : ∀ β name, known β (callees β name)) :
    ComposedIn F known α (g.parserIn handle callees) := by
  induction g generalizing known with
  | primitive p => exact Primitive.Within.composedIn h
  | getState => exact .getState h
  | lift label value => exact .lift (handle _ label value)
  | wrap w g ih => exact h.1.composedIn (ih h.2 calls)
  | andThen g k ihg ihk => exact .andThen (ihg h.1 calls) fun a => ihk a (h.2 a) calls
  | orElse g h' ihg ihh => exact .orElse h.1 (ihg h.2.1 calls) (ihh h.2.2 calls)
  | many g ih => exact .many h.1 (ih h.2 calls)
  | rules define i ih =>
      refine .rules h.1 (fun callee i => ih i (h.2 i) fun β name => ?_) i
      cases name with
      | here i => exact .rule i
      | there name => exact .known (calls β name)
  | call name => exact .known (calls _ name)

/-- A phrase of a fragment gives a parser that is composed from the fragment. -/
theorem Phrase.Within.composed (handle : Handler m ω) {g : Phrase σ τ π ω [] α}
    (h : g.Within F) : (g.parser handle).Composed F :=
  h.composedIn handle fun _ name => nomatch name

end Composed

end Descent
