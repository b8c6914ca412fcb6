/-!
# Positions

A position says where in an input the next item stands.  Parsers only carry
positions along, compare them and print them; how a position moves over an item
is decided by the input (`Descent.Input`).

Main definitions:

- `Position`: an ordered, printable type with a first position.
- `LineColumn`: line and column, both counted from one, advanced over characters.
- `Span`: the stretch between two positions.
-/

namespace Descent

/-- A type of positions: ordered, printable, with the position that an input starts from. -/
class Position (π : Type) extends Ord π, ToString π where
  /-- The position of the first item of an input. -/
  initial : π

/-- Offsets count from zero. -/
instance : Position Nat where
  initial := 0

/-! ## Lines and columns -/

/-- A place in a text: its line and its column, each counted from one. -/
structure LineColumn where
  line : Nat
  column : Nat
deriving DecidableEq, Inhabited, Repr

namespace LineColumn

/-- Where the next character stands: a line feed opens the next line, and every other
character takes one column. -/
def advance (p : LineColumn) (c : Char) : LineColumn :=
  if c = '\n' then ⟨p.line + 1, 1⟩ else ⟨p.line, p.column + 1⟩

@[simp]
theorem advance_lineFeed (p : LineColumn) : p.advance '\n' = ⟨p.line + 1, 1⟩ :=
  rfl

@[simp]
theorem advance_of_ne (p : LineColumn) {c : Char} (h : c ≠ '\n') :
    p.advance c = ⟨p.line, p.column + 1⟩ := by
  simp [advance, h]

/-- The positions after each character of a text in turn. -/
def path (p : LineColumn) : List Char → List LineColumn
  | [] => []
  | c :: cs => p.advance c :: (p.advance c).path cs

/-- The position after a whole text. -/
def advanceOver (p : LineColumn) (cs : List Char) : LineColumn :=
  cs.foldl advance p

/-- Positions are ordered by line, and within a line by column. -/
instance : Ord LineColumn where
  compare p q := (compare p.line q.line).then (compare p.column q.column)

instance : ToString LineColumn where
  toString p := toString p.line ++ ":" ++ toString p.column

/-- A text starts on line one, column one. -/
instance : Position LineColumn where
  initial := ⟨1, 1⟩

/-- A text has one position after each of its characters. -/
@[simp]
theorem length_path (p : LineColumn) (cs : List Char) : (p.path cs).length = cs.length := by
  induction cs generalizing p with
  | nil => rfl
  | cons c cs ih => simp [path, ih]

/-- The path ends where the whole text does. -/
theorem getLast?_path (p : LineColumn) (c : Char) (cs : List Char) :
    (p.path (c :: cs)).getLast? = some (p.advanceOver (c :: cs)) := by
  induction cs generalizing p c with
  | nil => rfl
  | cons d ds ih =>
      have step := ih (p.advance c) d
      rw [path, List.getLast?_cons, step]
      rfl

end LineColumn

/-! ## Spans -/

/-- The stretch of an input from `start` up to, and not including, `stop`. -/
structure Span (π : Type) where
  start : π
  stop : π
deriving DecidableEq, Inhabited, Repr

namespace Span

variable {π : Type}

/-- A span is empty when it ends where it starts. -/
def isEmpty [DecidableEq π] (span : Span π) : Bool :=
  span.start = span.stop

@[simp]
theorem isEmpty_iff [DecidableEq π] (span : Span π) :
    span.isEmpty = true ↔ span.start = span.stop := by
  simp [isEmpty]

/-- The spans between neighbouring positions. -/
def between (positions : List π) : List (Span π) :=
  positions.zipWith Span.mk positions.tail

instance [ToString π] : ToString (Span π) where
  toString span := toString span.start ++ ".." ++ toString span.stop

end Span

end Descent
