import Descent.Text.Extending
import Descent.Text.Unprintable

/-!
# Quoted values

Error messages show the value that was expected in quotes: a character in single
quotes and a string in double quotes, with everything escaped that could not be
told apart on a page.  Numbers are shown as they are.

Main definitions:

- `escape`: one character as it stands inside quotes.
- `Quoted`: the types whose values can be shown in a message.
-/

namespace Descent

namespace Text

/-- The escape of a code point by number, in hexadecimal without padding. -/
def escapeCode (c : Char) : List Char :=
  ['\\', 'u', '{'] ++ Nat.toDigits 16 c.toNat ++ ['}']

/-- A character as it stands between the given quotes.  The quotes themselves, the
backslash, and the null, tab, carriage return and line feed characters have short
escapes; what else cannot be seen alone is escaped by number. -/
def escape (quote c : Char) : List Char :=
  if c = quote then ['\\', c]
  else match c with
    | '\x00' => ['\\', '0']
    | '\t' => ['\\', 't']
    | '\r' => ['\\', 'r']
    | '\n' => ['\\', 'n']
    | '\\' => ['\\', '\\']
    | c => if isExtending c || isUnprintable c then escapeCode c else [c]

@[simp]
theorem escape_quote (quote : Char) : escape quote quote = ['\\', quote] := by
  simp [escape]

/-- Puts characters between quotes. -/
def quote (quote : Char) (cs : List Char) : String :=
  String.ofList (quote :: cs.flatMap (escape quote) ++ [quote])

end Text

/-- A type whose values can be shown in a message. -/
class Quoted (τ : Type) where
  /-- The value as a message shows it. -/
  quoted : τ → String

instance : Quoted Char where
  quoted c := Text.quote '\'' [c]

instance : Quoted String where
  quoted s := Text.quote '"' s.toList

instance : Quoted Nat where
  quoted n := toString n

instance : Quoted Int where
  quoted n := toString n

instance : Quoted Int64 where
  quoted n := toString n.toInt

end Descent
