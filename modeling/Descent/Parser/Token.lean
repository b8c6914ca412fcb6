import Descent.Parser.Failure
import Descent.Text.Quoted

/-!
# Reading items

The parsers that look at the input: one item at a time, a whole literal, or the end.

Main definitions:

- `satisfy`, `anyItem`, `item`: one item.
- `literal`, `string`: a fixed run of items, all or nothing.
- `eof`: the end of the input.
-/

namespace Descent.Parser

variable {m : Type → Type} {σ τ π : Type} [Monad m] [Input σ τ π]

/-! ## Messages -/

/-- The message of a parser that met another item than the one it wants. -/
def expectedMessage (expected : String) : String :=
  "expected " ++ expected

/-- The message of a parser that wants an item and met the end. -/
def unexpectedEndMessage (expected : String) : String :=
  "unexpected end of input, " ++ expectedMessage expected

/-- The message of a parser that wants the end and met an item. -/
def expectedEndMessage : String :=
  expectedMessage "end of input"

/-! ## One item -/

/-- Reads one item that a predicate accepts; `expected` describes such items. -/
def satisfy (accept : τ → Bool) (expected : String) : Parser m σ π τ :=
  ⟨fun _ s => Pure.pure <|
    match s.next? with
    | some (x, rest) =>
        if accept x then .ok x rest else .errorHere (expectedMessage expected) s
    | none => .errorHere (unexpectedEndMessage expected) s⟩

/-- Reads one item, whatever it is. -/
def anyItem : Parser m σ π τ :=
  satisfy (fun _ => true) "any item"

/-- Reads the given item. -/
def item [BEq τ] [Quoted τ] (wanted : τ) : Parser m σ π τ :=
  satisfy (· == wanted) (Quoted.quoted wanted)

/-! ## Several items -/

/-- Reads the given items one after the other, or fails where it started without having
read any of them.  Reading no items at all does not count as reading. -/
def literal [BEq τ] (items : List τ) (expected : String) : Parser m σ π Unit :=
  ⟨fun _ s => Pure.pure <|
    match s.readAll? items with
    | some rest => .ok () rest
    | none => .errorHere (expectedMessage expected) s⟩

/-- Reads the characters of a string, or fails without having read any of them. -/
def string [Input σ Char π] (text : String) : Parser m σ π String :=
  (literal text.toList (Quoted.quoted text)).map fun _ => text

/-! ## The end -/

/-- Succeeds when nothing is left to read. -/
def eof : Parser m σ π Unit :=
  ⟨fun _ s => Pure.pure <|
    if Input.isExhausted s.input then .ok () s else .errorHere expectedEndMessage s⟩

end Descent.Parser
