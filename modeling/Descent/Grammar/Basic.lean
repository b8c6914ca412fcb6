import Descent.Grammar.Program
import Descent.Parser.Access
import Descent.Parser.Choice
import Descent.Parser.Lookahead
import Descent.Parser.Recursion
import Descent.Parser.Repetition
import Descent.Parser.Report
import Descent.Parser.Selection
import Descent.Parser.Token

/-!
# Grammars as data

A grammar describes a parser, with expressions for the functions in it and programs
for its effects.  Grammars have names for values, which continuations bind, and names
for parsers, which recursive definitions bind; each kind of name skips the other.
Beside a grammar stand its rules, which may call each other with values.

Main definitions:

- `Grammar`: descriptions of parsers.
- `Grammar.parser?`: the parser that a grammar describes in a scope, if it can be built.
- `Rules`, `Rules.parser?`: the parser that a grammar describes together with rules.
-/

namespace Descent

variable {m : Type → Type} {σ τ π : Type}

/-! ## Descriptions -/

/-- One of the two halves into which the values of a parser are divided. -/
inductive Side where
  | left
  | right
deriving DecidableEq, Repr

/-- The half of a pair on a side. -/
def Side.of {α : Type} (side : Side) (halves : α × α) : α :=
  match side with
  | left => halves.1
  | right => halves.2

/-- A way to wrap a parser that gives a parser of the same kind again. -/
inductive Wrapper where
  | attempt
  | lookAhead
  | notFollowedBy
  | atStart
  | many
  | orEmpty
  | emptyOr
  | bindPure
deriving DecidableEq, Repr

mutual

/-- A description of a parser.  Messages, and other expressions that stand for one value,
are evaluated where the parser is built; predicates, functions and programs are run with
the parser. -/
inductive Grammar (σ π : Type) where
  | pure (value : Expr σ π)
  | fail (message : Expr σ π)
  | failAt (message position : Expr σ π)
  | empty
  | perform (program : Program σ π)
  | getState
  | putState (state : Expr σ π)
  | position
  | setConsumed (consumed : Bool)
  | consume
  | unconsume
  | satisfy (accept expected : Expr σ π)
  | anyItem
  | item (wanted : Expr σ π)
  | string (text : Expr σ π)
  | eof
  | map (p : Grammar σ π) (f : Expr σ π)
  | pair (p q : Grammar σ π)
  | seqRight (p q : Grammar σ π)
  | sequence (p : Grammar σ π) (ps : List (Grammar σ π))
  | bind (name : String) (p k : Grammar σ π)
  | switch (on : Expr σ π) (branches : Branches σ π)
  | orElse (p q : Grammar σ π)
  | choice (ps : List (Grammar σ π))
  | many (p : Grammar σ π)
  | notFollowedBy (p : Grammar σ π)
  | attempt (p : Grammar σ π)
  | lookAhead (p : Grammar σ π)
  | filter (p : Grammar σ π) (accept message : Expr σ π)
  | filterMap (p : Grammar σ π) (f message : Expr σ π)
  | compact (p : Grammar σ π)
  | separate (p : Grammar σ π) (side : Side)
  | partition (p : Grammar σ π) (accept : Expr σ π) (side : Side)
  | partitionMap (p : Grammar σ π) (classify : Expr σ π) (side : Side)
  | mapError (p : Grammar σ π) (f : Expr σ π)
  | withMessage (p : Grammar σ π) (message : Expr σ π)
  | atStart (p : Grammar σ π)
  | withSpan (p : Grammar σ π)
  | delay (p : Grammar σ π)
  | recursive (name : String) (p : Grammar σ π)
  | ref (name : String)
  | rule (name : String) (args : List (Expr σ π))
  | nest (wrapper : Wrapper) (times : Nat) (p : Grammar σ π)

/-- The branches of a switch: cases in order, and what is left for every other value. -/
inductive Branches (σ π : Type) where
  | otherwise (p : Grammar σ π)
  | case (value : Value σ π) (p : Grammar σ π) (rest : Branches σ π)

end

/-! ## Scopes -/

/-- The names in scope: values, and parsers that are being defined. -/
structure Scope (m : Type → Type) (σ π : Type) where
  values : Bindings σ π := []
  parsers : List (String × Parser m σ π (Value σ π)) := []

namespace Scope

/-- The scope inside of a continuation that a value is bound in. -/
def bindValue (scope : Scope m σ π) (name : String) (value : Value σ π) : Scope m σ π :=
  { scope with values := (name, value) :: scope.values }

/-- The scope inside of a recursive definition. -/
def bindParser (scope : Scope m σ π) (name : String) (p : Parser m σ π (Value σ π)) :
    Scope m σ π :=
  { scope with parsers := (name, p) :: scope.parsers }

end Scope

/-- A rule and the values it is applied to. -/
structure Call (σ π : Type) where
  name : String
  args : List (Value σ π)

/-! ## The parser of a grammar -/

/-- Wraps a parser once. -/
def Wrapper.apply [Host m] (wrapper : Wrapper) (p : Parser m σ π (Value σ π)) :
    Parser m σ π (Value σ π) :=
  match wrapper with
  | attempt => p.attempt
  | lookAhead => p.lookAhead
  | notFollowedBy => p.notFollowedBy.map fun _ => .unit
  | atStart => p.atStart
  | many => p.many.map .list
  | orEmpty => p.orElse .empty
  | emptyOr => Parser.empty.orElse p
  | bindPure => p.andThen .pure

/-- Wraps a parser the given number of times. -/
def Wrapper.nest [Host m] (wrapper : Wrapper) : Nat → Parser m σ π (Value σ π) →
    Parser m σ π (Value σ π)
  | 0, p => p
  | n + 1, p => wrapper.nest n (wrapper.apply p)

/-- Applies an expression to an error, as the pair of its message and its position.  The
expression may give such a pair, a message or a position; anything else keeps the error. -/
def Expr.reviseError [Position π] [Coordinates π] [BEq σ] [BEq π] (bindings : Bindings σ π)
    (f : Expr σ π) (error : ParseError π) : ParseError π :=
  match f.apply bindings (.pair (.str error.message) (.pos error.position)) with
  | .pair (.str message) (.pos position) => ⟨message, position⟩
  | .str message => error.reword message
  | .pos position => error.relocate position
  | _ => error

section Parser

variable [Effects m] [Input σ τ π] [BEq τ] [Quoted τ] [Item τ]
variable [Position π] [Coordinates π] [BEq σ] [BEq π]

namespace Grammar

/-- Fails with a message about the position that a value holds. -/
def failAtValue? (message : String) : Value σ π → Option (Parser m σ π (Value σ π))
  | .pos p => some (Parser.failAt message p)
  | _ => none

/-- Goes on from the state that a value holds. -/
def putStateValue? : Value σ π → Option (Parser m σ π Unit)
  | .state s => some (Parser.putState s)
  | _ => none

/-- Reads the item that a value holds. -/
def readItem? (wanted : Value σ π) : Option (Parser m σ π (Value σ π)) :=
  (Item.ofValue? wanted : Option τ).map fun x => (Parser.item x).map Item.toValue

/-- Reads the characters of a string from an input whose items are characters. -/
def readString? (text : String) : Option (Parser m σ π (Value σ π)) :=
  (text.toList.mapM fun c => Item.ofValue? (.char c : Value σ π) : Option (List τ)).map
    fun items => (Parser.literal items (Quoted.quoted text)).map fun _ => .str text

end Grammar

mutual

/-- The parser that a grammar describes, given the parsers of its rules and the names in
scope.  There is none if a value that it needs to be built is not of the right kind, or if
it refers to a parser that is not in scope.  Continuations, delayed parsers and recursive
definitions are built when they run, and one that cannot be built never replies. -/
def Grammar.parser? (call : Call σ π → Parser m σ π (Value σ π)) (scope : Scope m σ π) :
    Grammar σ π → Option (Parser m σ π (Value σ π))
  | .pure value => some (.pure (value.eval scope.values))
  | .fail message => some (.fail (message.text scope.values))
  | .failAt message position =>
      Grammar.failAtValue? (message.text scope.values) (position.eval scope.values)
  | .empty => some .empty
  | .perform program => some (.perform fun fuel => program.run fuel scope.values)
  | .getState => some (Parser.getState.map .state)
  | .putState state =>
      return (← Grammar.putStateValue? (state.eval scope.values)).map fun _ => .unit
  | .position => some (Parser.position.map .pos)
  | .setConsumed consumed => some ((Parser.setConsumed consumed).map fun _ => .unit)
  | .consume => some (Parser.consume.map fun _ => .unit)
  | .unconsume => some (Parser.unconsume.map fun _ => .unit)
  | .satisfy accept expected =>
      some ((Parser.satisfy (fun x => (accept.apply scope.values (Item.toValue x)).isTrue)
        (expected.text scope.values)).map Item.toValue)
  | .anyItem => some (Parser.anyItem.map Item.toValue)
  | .item wanted => Grammar.readItem? (wanted.eval scope.values)
  | .string text => Grammar.readString? (text.text scope.values)
  | .eof => some (Parser.eof.map fun _ => .unit)
  | .map p f => return (← p.parser? call scope).map (f.apply scope.values)
  | .pair p q =>
      return ((← p.parser? call scope).pair (← q.parser? call scope)).map
        fun (a, b) => .pair a b
  | .seqRight p q => return (← p.parser? call scope).seqRight (← q.parser? call scope)
  | .sequence p ps =>
      return (← Grammar.parsers? call scope ps).foldl .seqRight (← p.parser? call scope)
  | .bind name p k =>
      return (← p.parser? call scope).andThen fun value =>
        (k.parser? call (scope.bindValue name value)).getD .never
  | .switch on branches => branches.parser? call scope (on.eval scope.values)
  | .orElse p q => return (← p.parser? call scope).orElse (← q.parser? call scope)
  | .choice ps => return .choice (← Grammar.parsers? call scope ps)
  | .many p => return (← p.parser? call scope).many.map .list
  | .notFollowedBy p => return (← p.parser? call scope).notFollowedBy.map fun _ => .unit
  | .attempt p => return (← p.parser? call scope).attempt
  | .lookAhead p => return (← p.parser? call scope).lookAhead
  | .filter p accept message =>
      return (← p.parser? call scope).filter
        (fun value => (accept.apply scope.values value).isTrue) (message.text scope.values)
  | .filterMap p f message =>
      return (← p.parser? call scope).filterMap
        (fun value => (f.apply scope.values value).asOption) (message.text scope.values)
  | .compact p => return ((← p.parser? call scope).map Value.asOption).compact
  | .separate p side =>
      return side.of ((← p.parser? call scope).map Value.asExcept).separate
  | .partition p accept side =>
      return side.of ((← p.parser? call scope).partition fun value =>
        (accept.apply scope.values value).isTrue)
  | .partitionMap p classify side =>
      return side.of ((← p.parser? call scope).partitionMap fun value =>
        (classify.apply scope.values value).asExcept)
  | .mapError p f => return (← p.parser? call scope).mapError (f.reviseError scope.values)
  | .withMessage p message =>
      return (← p.parser? call scope).withMessage (message.text scope.values)
  | .atStart p => return (← p.parser? call scope).atStart
  | .withSpan p =>
      return (← p.parser? call scope).withSpan.map fun (a, span) => .pair a (.span span)
  | .delay p => some (.delay fun _ => (p.parser? call scope).getD .never)
  | .recursive name p =>
      some (.recursive fun me => (p.parser? call (scope.bindParser name me)).getD .never)
  | .ref name => scope.parsers.lookup name
  | .rule name args => some (call ⟨name, Expr.evalAll scope.values args⟩)
  | .nest wrapper times p => return wrapper.nest times (← p.parser? call scope)

/-- The parsers that grammars describe in the same scope, if each describes one. -/
def Grammar.parsers? (call : Call σ π → Parser m σ π (Value σ π)) (scope : Scope m σ π) :
    List (Grammar σ π) → Option (List (Parser m σ π (Value σ π)))
  | [] => some []
  | p :: ps => return (← p.parser? call scope) :: (← Grammar.parsers? call scope ps)

/-- The parser of the first branch that a value selects; the others are not built. -/
def Branches.parser? (call : Call σ π → Parser m σ π (Value σ π)) (scope : Scope m σ π) :
    Branches σ π → Value σ π → Option (Parser m σ π (Value σ π))
  | .otherwise p, _ => p.parser? call scope
  | .case expected p rest, value =>
      if expected == value then p.parser? call scope else rest.parser? call scope value

end

/-! ## Rules -/

/-- A rule: the names of the values it is applied to, and its grammar, in which no other
names are in scope. -/
structure Rule (σ π : Type) where
  params : List String
  body : Grammar σ π

/-- Rules by name. -/
abbrev Rules (σ π : Type) :=
  List (String × Rule σ π)

namespace Rules

/-- The parser of one rule in terms of the parsers of all; a rule that is missing, or that
cannot be built, never replies. -/
def define (rules : Rules σ π) (call : Call σ π → Parser m σ π (Value σ π)) (c : Call σ π) :
    Parser m σ π (Value σ π) :=
  match rules.lookup c.name with
  | some rule => (rule.body.parser? call { values := rule.params.zip c.args }).getD .never
  | none => .never

/-- The parser that a grammar describes together with rules, if it can be built. -/
def parser? (rules : Rules σ π) (grammar : Grammar σ π) : Option (Parser m σ π (Value σ π)) :=
  grammar.parser? (Parser.rules rules.define) {}

end Rules

end Parser

end Descent
