import Descent.Grammar.Value

/-!
# Expressions of grammars

Expressions compute values from values that have names.  They always have a value:
an operation that does not fit its arguments gives unit.

Main definitions:

- `CharClass`, `UnaryOp`, `BinaryOp` and how they act on values.
- `Bindings`: the named values in scope, innermost first.
- `Expr`, `Expr.eval`, `Expr.text`.
-/

namespace Descent

/-! ## Classes of characters -/

/-- The classes of characters that an expression can ask for; letters and digits are
those of ASCII. -/
inductive CharClass where
  | digit
  | alpha
  | alnum
  | upper
  | lower
  | space
deriving DecidableEq, Repr

/-- Whether a character belongs to a class.  White space is the space, the tab, the line
feed and the carriage return. -/
def CharClass.contains (k : CharClass) (c : Char) : Bool :=
  match k with
  | digit => c.isDigit
  | alpha => c.isAlpha
  | alnum => c.isAlphanum
  | upper => c.isUpper
  | lower => c.isLower
  | space => c = ' ' || c = '\t' || c = '\n' || c = '\r'

/-- A position taken apart: a line and a column, or an offset. -/
class Coordinates (π : Type) where
  coordinates : π → LineColumn ⊕ Nat

instance : Coordinates LineColumn where
  coordinates := .inl

instance : Coordinates Nat where
  coordinates := .inr

/-! ## Operations -/

/-- Operations on one value. -/
inductive UnaryOp where
  | not
  | fst
  | snd
  | len
  | sum
  | upper
  | lower
  | code
  | digit
  | isIn (k : CharClass)
  | isOneOf (chars : String)
  | some
  | ok
  | err
  | get
  | line
  | column
  | offset
  | start
  | stop
  | position
  | consumed
deriving DecidableEq, Repr

/-- Operations on two values. -/
inductive BinaryOp where
  | add
  | sub
  | mul
  | mod
  | eq
  | lt
  | and
  | or
  | pair
  | cons
  | withConsumed
deriving DecidableEq, Repr

variable {σ π : Type}

namespace Value

/-- Adds up the numbers among values, wrapping around in 64 bits. -/
def sum (values : List (Value σ π)) : Int64 :=
  values.foldl (fun total value => match value with | int n => total + n | _ => total) 0

/-- The value of a decimal digit. -/
def digit : Value σ π → Value σ π
  | char c => if c.isDigit then some (ofNat (c.toNat - '0'.toNat)) else none
  | _ => none

/-- The number of a coordinate, if the position has it. -/
def ofCoordinate : Option Nat → Value σ π
  | .some n => ofNat n
  | .none => unit

end Value

/-- What an operation makes of its argument. -/
def UnaryOp.apply [Coordinates π] : UnaryOp → Value σ π → Value σ π
  | .not, v => .bool !v.isTrue
  | .fst, .pair a _ => a
  | .snd, .pair _ b => b
  | .len, .list values => .ofNat values.length
  | .len, .str s => .ofNat s.length
  | .sum, .list values => .int (Value.sum values)
  | .upper, .char c => .char c.toUpper
  | .upper, .str s => .str (s.map Char.toUpper)
  | .lower, .char c => .char c.toLower
  | .lower, .str s => .str (s.map Char.toLower)
  | .code, .char c => .ofNat c.toNat
  | .digit, v => v.digit
  | .isIn k, .char c => .bool (k.contains c)
  | .isIn _, _ => .bool false
  | .isOneOf chars, .char c => .bool (chars.toList.contains c)
  | .isOneOf _, _ => .bool false
  | .some, v => .some v
  | .ok, v => .ok v
  | .err, v => .err v
  | .get, .some v => v
  | .get, .ok v => v
  | .get, .err v => v
  | .line, .pos p => .ofCoordinate ((Coordinates.coordinates p).getLeft?.map (·.line))
  | .column, .pos p => .ofCoordinate ((Coordinates.coordinates p).getLeft?.map (·.column))
  | .offset, .pos p => .ofCoordinate (Coordinates.coordinates p).getRight?
  | .start, .span s => .pos s.start
  | .stop, .span s => .pos s.stop
  | .position, .state s => .pos s.position
  | .consumed, .state s => .bool s.consumed
  | _, _ => .unit

/-- What an operation makes of its arguments. -/
def BinaryOp.apply [BEq σ] [BEq π] [Ord π] : BinaryOp → Value σ π → Value σ π → Value σ π
  | .add, .int a, .int b => .int (a + b)
  | .sub, .int a, .int b => .int (a - b)
  | .mul, .int a, .int b => .int (a * b)
  | .mod, .int a, .int b =>
      if 0 < b.toInt then .int (Int64.ofInt (a.toInt % b.toInt)) else .unit
  | .eq, a, b => .bool (a == b)
  | .lt, .int a, .int b => .bool (a < b)
  | .lt, .char a, .char b => .bool (a < b)
  | .lt, .pos p, .pos q => .bool (compare p q).isLT
  | .and, a, b => .bool (a.isTrue && b.isTrue)
  | .or, a, b => .bool (a.isTrue || b.isTrue)
  | .pair, a, b => .pair a b
  | .cons, a, .list values => .list (a :: values)
  | .withConsumed, .state s, .bool b => .state (s.withConsumed b)
  | _, _, _ => .unit

/-! ## Expressions -/

/-- The named values in scope, the innermost first. -/
abbrev Bindings (σ π : Type) :=
  List (String × Value σ π)

/-- The name of the value that a function or a continuation is applied to. -/
def argumentName : String :=
  "it"

/-- The bindings inside of a function that is applied to a value. -/
def Bindings.withArgument (bindings : Bindings σ π) (value : Value σ π) : Bindings σ π :=
  (argumentName, value) :: bindings

/-- Expressions over named values. -/
inductive Expr (σ π : Type) where
  | lit (value : Value σ π)
  | var (name : String)
  | unary (op : UnaryOp) (e : Expr σ π)
  | binary (op : BinaryOp) (a b : Expr σ π)
  | ite (condition a b : Expr σ π)
  | list (es : List (Expr σ π))
  | cat (es : List (Expr σ π))

namespace Expr

variable [Position π] [Coordinates π] [BEq σ] [BEq π]

mutual

/-- The value of an expression. -/
def eval (bindings : Bindings σ π) : Expr σ π → Value σ π
  | lit value => value
  | var name => (bindings.lookup name).getD .unit
  | unary op e => op.apply (eval bindings e)
  | binary op a b => op.apply (eval bindings a) (eval bindings b)
  | ite condition a b =>
      if (eval bindings condition).isTrue then eval bindings a else eval bindings b
  | list es => .list (evalAll bindings es)
  | cat es => .str (Value.list (evalAll bindings es)).text

/-- The values of expressions in turn. -/
def evalAll (bindings : Bindings σ π) : List (Expr σ π) → List (Value σ π)
  | [] => []
  | e :: es => eval bindings e :: evalAll bindings es

end

/-- The text of the value of an expression. -/
def text (bindings : Bindings σ π) (e : Expr σ π) : String :=
  (e.eval bindings).text

/-- The function that an expression describes. -/
def apply (bindings : Bindings σ π) (f : Expr σ π) (value : Value σ π) : Value σ π :=
  f.eval (bindings.withArgument value)

end Expr

end Descent
