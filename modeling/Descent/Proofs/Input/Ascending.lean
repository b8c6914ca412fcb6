import Descent.Proofs.Input.Reading

/-!
# Positions grow

Positions are ordered, and each item moves the position on to a later one: a line feed to the next
line, any other character to the next column, an item of a list to the next index.  So a place
behind more items is a later place.

Main definitions:

- `AscendingInput`: inputs whose positions grow with each item.

Main results:

- Theorem `isLE_foldl_advance`: no items move a position back.
- Theorem `lt_foldl_advance`: at least one item moves it on.
- Theorem `eq_of_foldl_advance_eq`: the place behind a prefix tells the prefix.
-/

namespace Descent

variable {σ τ π : Type}

/-! ## Ordered positions -/

/-- Lines and columns are ordered by line and then by column. -/
theorem LineColumn.compare_eq_compareLex : (compare : LineColumn → LineColumn → Ordering) =
    compareLex (compareOn LineColumn.line) (compareOn LineColumn.column) :=
  rfl

instance : Std.TransOrd LineColumn := by
  have lexicographic : Std.TransCmp (compareLex (compareOn LineColumn.line)
      (compareOn LineColumn.column)) := inferInstance
  rw [← LineColumn.compare_eq_compareLex] at lexicographic
  exact lexicographic

/-- Inputs that move a position on with each item. -/
class AscendingInput (σ : Type) {τ π : outParam Type} [Input σ τ π] [Ord π] : Prop where
  trans : Std.TransOrd π
  advance_lt (position : π) (x : τ) : compare position (Input.advance σ position x) = .lt

/-- A line feed moves on to the next line, and every other character to the next column. -/
instance : AscendingInput Text where
  trans := inferInstance
  advance_lt position c := by
    have advance : Input.advance Text position c = position.advance c := rfl
    rw [advance, LineColumn.compare_eq_compareLex]
    by_cases lineFeed : c = '\n'
    · simp [lineFeed, compareLex, compareOn, Nat.compare_eq_lt.mpr (Nat.lt_succ_self _)]
    · simp [lineFeed, compareLex, compareOn, Nat.compare_eq_lt.mpr (Nat.lt_succ_self _)]

instance : AscendingInput (List τ) where
  trans := inferInstance
  advance_lt index _ := Nat.compare_eq_lt.mpr (Nat.lt_succ_self index)

/-- No character is encoded in no bytes. -/
instance : AscendingInput ByteText where
  trans := inferInstance
  advance_lt _ c := Nat.compare_eq_lt.mpr (Nat.lt_add_of_pos_right c.utf8Size_pos)

/-! ## Several items -/

variable [Input σ τ π] [Ord π] [AscendingInput σ]

/-- A place behind some items is not an earlier place. -/
theorem isLE_foldl_advance (xs : List τ) (position : π) :
    (compare position (xs.foldl (Input.advance σ) position)).isLE = true := by
  have trans : Std.TransOrd π := AscendingInput.trans σ
  induction xs generalizing position with
  | nil => exact Std.ReflCmp.isLE_rfl
  | cons x xs ih =>
      have next : (compare position (Input.advance σ position x)).isLE = true := by
        rw [AscendingInput.advance_lt]
        rfl
      exact Std.TransCmp.isLE_trans next (ih _)

/-- A place behind at least one item is a later place. -/
theorem lt_foldl_advance {xs : List τ} (some : xs ≠ []) (position : π) :
    compare position (xs.foldl (Input.advance σ) position) = .lt := by
  have trans : Std.TransOrd π := AscendingInput.trans σ
  cases xs with
  | nil => exact (some rfl).elim
  | cons x xs =>
      have later := isLE_foldl_advance (σ := σ) xs (Input.advance σ position x)
      exact Std.TransCmp.lt_of_lt_of_isLE (AscendingInput.advance_lt position x) later

/-- Only no items lead back to the place that they started from. -/
theorem foldl_advance_eq_iff (xs : List τ) (position : π) :
    xs.foldl (Input.advance σ) position = position ↔ xs = [] := by
  have trans : Std.TransOrd π := AscendingInput.trans σ
  cases xs with
  | nil => simp
  | cons x xs =>
      have later := lt_foldl_advance (σ := σ) (List.cons_ne_nil x xs) position
      constructor
      · intro back
        have same : compare position position = .eq := Std.ReflCmp.compare_self
        rw [back, same] at later
        cases later
      · intro none
        cases none

/-- Where one run of items continues another, the same place behind both means that nothing was
added. -/
theorem append_eq_of_foldl_advance_eq {xs ys : List τ} {position : π}
    (same : (xs ++ ys).foldl (Input.advance σ) position = xs.foldl (Input.advance σ) position) :
    xs ++ ys = xs := by
  rw [List.foldl_append, foldl_advance_eq_iff] at same
  simp [same]

/-- Two prefixes of one run of items that lead to the same place are the same. -/
theorem eq_of_foldl_advance_eq {xs ys whole : List τ} {position : π} (hxs : xs <+: whole)
    (hys : ys <+: whole)
    (same : xs.foldl (Input.advance σ) position = ys.foldl (Input.advance σ) position) :
    xs = ys := by
  rcases List.prefix_or_prefix_of_prefix hxs hys with ⟨more, rfl⟩ | ⟨more, rfl⟩
  · exact (append_eq_of_foldl_advance_eq (σ := σ) same.symm).symm
  · exact append_eq_of_foldl_advance_eq (σ := σ) same

end Descent
