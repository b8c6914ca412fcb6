import Descent.State
import Descent.Text.Quoted

/-!
# Values of grammars

A grammar that is given as data computes with one type of values, which holds
whatever a parser may give: items, positions, spans and states among them.

Main definitions:

- `Value`, with its equality.
- `Value.text`: the text that a value contributes to a message.
- `Value.asOption`, `Value.asExcept`: any value read as an option or a result.
- `Item`: the items that a grammar can read and name.
-/

namespace Descent

/-- The values that grammars compute with. -/
inductive Value (σ π : Type) where
  | unit
  | bool (b : Bool)
  | int (n : Int64)
  | char (c : Char)
  | str (s : String)
  | list (values : List (Value σ π))
  | pair (fst snd : Value σ π)
  | none
  | some (value : Value σ π)
  | ok (value : Value σ π)
  | err (value : Value σ π)
  | pos (position : π)
  | span (span : Span π)
  | state (state : State σ π)

namespace Value

variable {σ π : Type}

instance : Inhabited (Value σ π) :=
  ⟨unit⟩

/-! ## Equality -/

mutual

/-- Whether two values are the same. -/
def beq [BEq σ] [BEq π] : Value σ π → Value σ π → Bool
  | unit, unit => true
  | bool a, bool b => a == b
  | int a, int b => a == b
  | char a, char b => a == b
  | str a, str b => a == b
  | list as, list bs => beqAll as bs
  | pair a b, pair c d => beq a c && beq b d
  | none, none => true
  | some a, some b => beq a b
  | ok a, ok b => beq a b
  | err a, err b => beq a b
  | pos p, pos q => p == q
  | span ⟨p, q⟩, span ⟨p', q'⟩ => p == p' && q == q'
  | state s, state t =>
      s.consumed == t.consumed && s.position == t.position && s.input == t.input
  | _, _ => false

/-- Whether two lists hold the same values. -/
def beqAll [BEq σ] [BEq π] : List (Value σ π) → List (Value σ π) → Bool
  | [], [] => true
  | a :: as, b :: bs => beq a b && beqAll as bs
  | _, _ => false

end

instance [BEq σ] [BEq π] : BEq (Value σ π) where
  beq := beq

/-! ## Text -/

mutual

/-- Writes the text of a value behind what is already written. -/
def appendText [ToString π] (written : String) : Value σ π → String
  | bool b => written ++ toString b
  | int n => written ++ toString n.toInt
  | char c => written.push c
  | str s => written ++ s
  | list values => appendTexts written values
  | pair a b => appendText (appendText written a) b
  | some a => appendText written a
  | ok a => appendText written a
  | err a => appendText written a
  | pos p => written ++ toString p
  | span s => written ++ toString s
  | unit => written
  | none => written
  | state _ => written

/-- Writes the texts of values one after the other. -/
def appendTexts [ToString π] (written : String) : List (Value σ π) → String
  | [] => written
  | value :: values => appendTexts (appendText written value) values

end

/-- The text of a value: numbers, characters, strings, positions and spans as they are
shown, the parts of a list or a pair one after the other, and what is inside of an option
or a result.  Unit, a missing value and a state have no text. -/
def text [ToString π] (value : Value σ π) : String :=
  appendText "" value

/-! ## Readings -/

/-- A value as an option; one that is not an option counts as present. -/
def asOption : Value σ π → Option (Value σ π)
  | none => Option.none
  | some value => Option.some value
  | value => Option.some value

/-- A value as a result; one that is not a result counts as a good one. -/
def asExcept : Value σ π → Except (Value σ π) (Value σ π)
  | err value => .error value
  | ok value => .ok value
  | value => .ok value

/-- Whether a value is the truth value for true; every other value counts as false. -/
def isTrue : Value σ π → Bool
  | bool b => b
  | _ => false

/-- A count as a number; counts wrap around in 64 bits. -/
def ofNat (n : Nat) : Value σ π :=
  int (Int64.ofNat n)

end Value

/-! ## Items -/

/-- The items that a grammar can read are those that values can hold. -/
class Item (τ : Type) where
  /-- The value that holds an item. -/
  toValue {σ π : Type} : τ → Value σ π
  /-- The item that a value holds, if it holds one. -/
  ofValue? {σ π : Type} : Value σ π → Option τ
  /-- A value holds the item that it was made from. -/
  ofValue?_toValue {σ π : Type} (x : τ) : ofValue? (toValue x : Value σ π) = some x

instance : Item Char where
  toValue := .char
  ofValue?
    | .char c => some c
    | _ => none
  ofValue?_toValue _ := rfl

instance : Item Int64 where
  toValue := .int
  ofValue?
    | .int n => some n
    | _ => none
  ofValue?_toValue _ := rfl

instance : Item String where
  toValue := .str
  ofValue?
    | .str s => some s
    | _ => none
  ofValue?_toValue _ := rfl

end Descent
