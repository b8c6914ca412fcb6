import Descent.Position
import Mathlib.Data.List.DropRight

/-!
# Lines and columns behind a text

A line and a column are moved on character by character.  What this comes to over a whole text can
be read off the text: the line grows by the number of line feeds, and the column counts the
characters behind the last line feed, or goes on from the old column if there is none.

Main definitions:

- `LineColumn.lastLine`: the characters of a text behind its last line feed.

Main results:

- Theorem `LineColumn.line_advanceOver`: the line behind a text.
- Theorem `LineColumn.column_advanceOver`: the column behind a text.
-/

namespace Descent.LineColumn

/-- The characters behind the last line feed of a text, or all of them if there is none. -/
def lastLine (cs : List Char) : List Char :=
  cs.rtakeWhile (· ≠ '\n')

@[simp]
theorem lastLine_concat_lineFeed (cs : List Char) : lastLine (cs ++ ['\n']) = [] := by
  simp [lastLine]

@[simp]
theorem lastLine_concat_of_ne (cs : List Char) {c : Char} (h : c ≠ '\n') :
    lastLine (cs ++ [c]) = lastLine cs ++ [c] := by
  simp [lastLine, h]

@[simp]
theorem advanceOver_nil (p : LineColumn) : p.advanceOver [] = p :=
  rfl

@[simp]
theorem advanceOver_concat (p : LineColumn) (cs : List Char) (c : Char) :
    p.advanceOver (cs ++ [c]) = (p.advanceOver cs).advance c := by
  simp [advanceOver]

/-- Each line feed of a text opens a line. -/
theorem line_advanceOver (p : LineColumn) (cs : List Char) :
    (p.advanceOver cs).line = p.line + cs.count '\n' := by
  induction cs using List.reverseRecOn with
  | nil => simp
  | append_singleton cs c ih =>
      by_cases lineFeed : c = '\n'
      · simp [lineFeed, ih, Nat.add_assoc]
      · simp [lineFeed, ih]

/-- The column goes on over a text without a line feed, and else counts the last line. -/
theorem column_advanceOver (p : LineColumn) (cs : List Char) :
    (p.advanceOver cs).column =
      if '\n' ∈ cs then 1 + (lastLine cs).length else p.column + cs.length := by
  induction cs using List.reverseRecOn with
  | nil => simp
  | append_singleton cs c ih =>
      by_cases lineFeed : c = '\n'
      · simp [lineFeed]
      · have mem : '\n' ∈ cs ++ [c] ↔ '\n' ∈ cs := by simp [Ne.symm lineFeed]
        rw [advanceOver_concat, advance_of_ne _ lineFeed, lastLine_concat_of_ne cs lineFeed]
        by_cases earlier : '\n' ∈ cs
        · simp [ih, mem, earlier, Nat.add_assoc]
        · simp [ih, mem, earlier, Nat.add_assoc]

end Descent.LineColumn
