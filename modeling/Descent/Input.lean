import Descent.Position

/-!
# Inputs

An input hands out its items one after the other.  Inputs are plain values: reading
an item gives the item and what is left, and the old input can be kept to come
back to.

Main definitions:

- `Input`: what can be read item by item, and how positions move over its items.
- `Text`: characters with line and column positions.
- `ByteText`: characters with the offset of their encoding in bytes.
- Lists are inputs whose positions are indices.
-/

namespace Descent

/-- A type of inputs `σ` with items `τ` and positions `π`. -/
class Input (σ : Type) (τ π : outParam Type) where
  /-- The first item and the input after it, or nothing at the end. -/
  next? : σ → Option (τ × σ)
  /-- The position after an item that stands at the given position. -/
  advance : π → τ → π
  /-- Whether nothing is left to read. -/
  isExhausted : σ → Bool := fun input => (next? input).isNone

/-! ## Text -/

/-- The characters of a text that are left to read. -/
structure Text where
  chars : List Char
deriving DecidableEq, Inhabited, Repr

namespace Text

/-- The text that a string holds. -/
def ofString (s : String) : Text :=
  ⟨s.toList⟩

/-- The string of the characters that are left. -/
def toString (text : Text) : String :=
  String.ofList text.chars

end Text

/-- A text is read character by character, and keeps count of lines and columns. -/
instance : Input Text Char LineColumn where
  next?
    | ⟨[]⟩ => none
    | ⟨c :: cs⟩ => some (c, ⟨cs⟩)
  advance := LineColumn.advance
  isExhausted text := text.chars.isEmpty

/-! ## Sequences of items -/

/-- A list is read from its head, and its positions are indices. -/
instance {τ : Type} : Input (List τ) τ Nat where
  next?
    | [] => none
    | x :: xs => some (x, xs)
  advance index _ := index + 1
  isExhausted := List.isEmpty

/-! ## Text by bytes -/

/-- The characters that are left of a text whose positions are byte offsets. -/
structure ByteText where
  chars : List Char
deriving DecidableEq, Inhabited, Repr

namespace ByteText

/-- The text that a string holds. -/
def ofString (s : String) : ByteText :=
  ⟨s.toList⟩

/-- The string of the characters that are left. -/
def toString (text : ByteText) : String :=
  String.ofList text.chars

end ByteText

/-- A character moves the offset by the length of its UTF-8 encoding. -/
instance : Input ByteText Char Nat where
  next?
    | ⟨[]⟩ => none
    | ⟨c :: cs⟩ => some (c, ⟨cs⟩)
  advance offset c := offset + c.utf8Size

/-! ## Reading from the shipped inputs -/

@[simp]
theorem next?_text_nil : Input.next? (⟨[]⟩ : Text) = none :=
  rfl

@[simp]
theorem next?_text_cons (c : Char) (cs : List Char) :
    Input.next? (⟨c :: cs⟩ : Text) = some (c, (⟨cs⟩ : Text)) :=
  rfl

@[simp]
theorem next?_list_nil {τ : Type} : Input.next? ([] : List τ) = none :=
  rfl

@[simp]
theorem next?_list_cons {τ : Type} (x : τ) (xs : List τ) :
    Input.next? (x :: xs) = some (x, xs) :=
  rfl

@[simp]
theorem next?_byteText_nil : Input.next? (⟨[]⟩ : ByteText) = none :=
  rfl

@[simp]
theorem next?_byteText_cons (c : Char) (cs : List Char) :
    Input.next? (⟨c :: cs⟩ : ByteText) = some (c, (⟨cs⟩ : ByteText)) :=
  rfl

end Descent
