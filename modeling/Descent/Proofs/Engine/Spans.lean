import Descent.Proofs.Engine.Invariant
import Descent.Proofs.Engine.PlacesAhead
import Descent.Proofs.Input.Ascending
import Descent.Proofs.Input.LineColumns
import Mathlib.Data.List.Chain

/-!
# Spans and what was read

The span of a parser begins where the parser was entered and ends where it stopped.  Between the
two lies what was read, because every run ends ahead of where it began, also where it went back and
read again, and whatever it did to the flag.  A repetition goes back to nothing but the end of its
last collected round, so the spans of its rounds follow each other without gaps.

Main definitions:

- `Span.Covers`: a span of lines and columns is the one of a given text.
- `Span.TiledBy`: a span is divided into parts that are not empty.

Main results:

- Theorem `withSpan_covers_read`: the span of a parser of texts is the one of what it read.
- Theorem `many_withSpan_tiledBy`: the spans of the rounds divide the span of a repetition.
-/

namespace Descent

variable {m : Type → Type} {σ τ π α β ε : Type}

/-! ## The span of a text -/

/-- The text leads from the start of the span to its stop.  The line grows by one with each line
feed, and the column counts the last line; the stop is not before the start, and it is the start
only if the text is empty. -/
structure Span.Covers (span : Span LineColumn) (w : List Char) : Prop where
  stop : span.stop = span.start.advanceOver w
  line : span.stop.line = span.start.line + w.count '\n'
  column : span.stop.column =
    if '\n' ∈ w then 1 + (LineColumn.lastLine w).length else span.start.column + w.length
  isLE : (compare span.start span.stop).isLE = true
  isEmpty : span.isEmpty = true ↔ w = []

/-- The span that is advanced over a text is the one of the text. -/
theorem Span.covers_advanceOver (p : LineColumn) (w : List Char) :
    (⟨p, p.advanceOver w⟩ : Span LineColumn).Covers w where
  stop := rfl
  line := LineColumn.line_advanceOver p w
  column := LineColumn.column_advanceOver p w
  isLE := isLE_foldl_advance (σ := Text) w p
  isEmpty := by
    rw [Span.isEmpty_iff, eq_comm]
    exact foldl_advance_eq_iff (σ := Text) w p

/-! ## Divided spans -/

/-- The parts follow each other from the start of the span to its stop, and each of them ends later
than it starts. -/
structure Span.TiledBy [Ord π] [DecidableEq π] (span : Span π) (parts : List (Span π)) :
    Prop where
  empty : parts = [] → span.isEmpty = true
  first : ∀ part ∈ parts.head?, part.start = span.start
  next : parts.IsChain fun part following => part.stop = following.start
  last : ∀ part ∈ parts.getLast?, part.stop = span.stop
  later : ∀ part ∈ parts, compare part.start part.stop = .lt

namespace Span.TiledBy

variable [Ord π] [DecidableEq π] {a b c : π} {parts : List (Span π)}

/-- An empty span has no parts. -/
theorem nil (a : π) : (⟨a, a⟩ : Span π).TiledBy [] where
  empty _ := by simp
  first := by simp
  next := .nil
  last := by simp
  later := by simp

/-- A part that starts at the stop of a divided span makes it longer. -/
theorem snoc (h : (⟨a, b⟩ : Span π).TiledBy parts) (later : compare b c = .lt) :
    (⟨a, c⟩ : Span π).TiledBy (parts ++ [⟨b, c⟩]) where
  empty none := by simp at none
  first := by
    cases parts with
    | nil =>
        have same : a = b := by simpa using h.empty rfl
        simp [same]
    | cons part parts => simpa using h.first
  next := by
    rw [List.isChain_append]
    refine ⟨h.next, .singleton _, fun part isLast following isNext => ?_⟩
    have follows : ⟨b, c⟩ = following := by simpa using isNext
    rw [← follows, h.last part isLast]
  last := by simp
  later part mem := by
    rcases List.mem_append.mp mem with earlier | new
    · exact h.later part earlier
    · rw [List.mem_singleton.mp new]
      exact later

end Span.TiledBy

namespace Parser

section

variable [Host m] [ImmediateHost m ε]

/-- The span of a value begins where its parser was entered and ends where it stopped. -/
theorem delivers_withSpan_ok {p : Parser m σ π α} {fuel : Nat} {s t : State σ π} {a : α}
    {span : Span π} :
    p.withSpan.Delivers fuel s (.ok (a, span) t) ↔
      p.Delivers fuel s (.ok a t) ∧ span = ⟨s.position, t.position⟩ := by
  refine delivers_revise.trans ⟨?_, ?_⟩
  · rintro ⟨reply, delivers, same⟩
    cases reply with
    | ok b u =>
        obtain ⟨pair, rfl⟩ := Reply.ok_inj.mp same
        obtain ⟨rfl, rfl⟩ := Prod.mk.inj pair
        exact ⟨delivers, rfl⟩
    | error e u => cases same
  · rintro ⟨delivers, rfl⟩
    exact ⟨_, delivers, rfl⟩

/-! ## Spans of texts -/

/-- A run on a text reads some of its characters, and its end is advanced over these. -/
theorem exists_chars_read {p : Parser m Text LineColumn α}
    (hp : p.Composed (.without [.putState])) {fuel : Nat} {s : State Text LineColumn}
    {r : Reply Text LineColumn α} (h : p.Delivers fuel s r) :
    ∃ w, s.input.chars = w ++ r.state.input.chars ∧
      r.state.position = s.position.advanceOver w := by
  rcases hp.induction closedUnder_endsAhead fuel s r h with ⟨w, passes⟩
  exact ⟨w, passes.input.items_eq, passes.position⟩

/-- A parser with its span succeeds as the parser itself does.  The span begins at the start and
ends at the end of the run, and it is the span of the characters between: its line grows by the
line feeds among them, its column counts those behind the last line feed or goes on from the old
column, it does not go back, and it is empty exactly if nothing was read.  The positions behind any
two different prefixes of a text differ. -/
theorem withSpan_covers_read {p : Parser m Text LineColumn α}
    (hp : p.Composed (.without [.putState])) :
    (∀ fuel (s t : State Text LineColumn) (a : α) (span : Span LineColumn),
      p.withSpan.Delivers fuel s (.ok (a, span) t) →
        p.Delivers fuel s (.ok a t) ∧ span.start = s.position ∧ span.stop = t.position ∧
          ∃ w, s.input.chars = w ++ t.input.chars ∧ span.Covers w) ∧
    ∀ (s : State Text LineColumn) (xs ys : List Char), xs <+: s.input.chars →
      ys <+: s.input.chars → xs ≠ ys → s.position.advanceOver xs ≠ s.position.advanceOver ys := by
  constructor
  · intro fuel s t a span h
    obtain ⟨delivers, rfl⟩ := delivers_withSpan_ok.mp h
    rcases exists_chars_read hp delivers with ⟨w, split, position⟩
    refine ⟨delivers, rfl, rfl, w, split, ?_⟩
    have covers := Span.covers_advanceOver s.position w
    rw [← position] at covers
    exact covers
  · intro s xs ys hxs hys different same
    exact different (eq_of_foldl_advance_eq (σ := Text) hxs hys same)

end

/-- A letter and a line break, or else two letters after all. -/
def letterBreak : Parser (Except String) Text LineColumn Char :=
  (anyItem.seqRight (item '\n')).attempt.orElse (anyItem.seqRight anyItem)

/-- The first run ends on the next line, at the column of its only letter there; the second one
reads its first letter twice. -/
theorem withSpan_covers_read_letterBreak :
    letterBreak.Composed (.without [.putState]) ∧
      (letterBreak.withSpan.Delivers 0 ⟨⟨['a', '\n', 'b']⟩, ⟨3, 5⟩, false⟩
        (.ok ('\n', ⟨⟨3, 5⟩, ⟨4, 1⟩⟩) ⟨⟨['b']⟩, ⟨4, 1⟩, true⟩) ∧
      ∃ w, ['a', '\n', 'b'] = w ++ ['b'] ∧ (⟨⟨3, 5⟩, ⟨4, 1⟩⟩ : Span LineColumn).Covers w) ∧
      (letterBreak.withSpan.Delivers 0 ⟨⟨['a', 'b', 'c']⟩, ⟨3, 5⟩, true⟩
        (.ok ('b', ⟨⟨3, 5⟩, ⟨3, 7⟩⟩) ⟨⟨['c']⟩, ⟨3, 7⟩, true⟩) ∧
      ∃ w, ['a', 'b', 'c'] = w ++ ['c'] ∧ (⟨⟨3, 5⟩, ⟨3, 7⟩⟩ : Span LineColumn).Covers w) ∧
      (⟨3, 5⟩ : LineColumn).advanceOver ['a', '\n'] ≠ (⟨3, 5⟩ : LineColumn).advanceOver ['a'] := by
  have composed : letterBreak.Composed (.without [.putState]) := by
    refine .orElse (by simp) (.attempt (by simp) ?_) ?_
    · exact .seqRight .anyItem (.item '\n')
    · exact .seqRight .anyItem .anyItem
  have covers := withSpan_covers_read composed
  have broken : letterBreak.withSpan.Delivers 0 ⟨⟨['a', '\n', 'b']⟩, ⟨3, 5⟩, false⟩
      (.ok ('\n', ⟨⟨3, 5⟩, ⟨4, 1⟩⟩) ⟨⟨['b']⟩, ⟨4, 1⟩, true⟩) := rfl
  have unbroken : letterBreak.withSpan.Delivers 0 ⟨⟨['a', 'b', 'c']⟩, ⟨3, 5⟩, true⟩
      (.ok ('b', ⟨⟨3, 5⟩, ⟨3, 7⟩⟩) ⟨⟨['c']⟩, ⟨3, 7⟩, true⟩) := rfl
  have different := covers.2 ⟨⟨['a', '\n', 'b']⟩, ⟨3, 5⟩, false⟩ ['a', '\n'] ['a']
    (by simp) (by simp) (by simp)
  exact ⟨composed, ⟨broken, (covers.1 _ _ _ _ _ broken).2.2.2⟩,
    ⟨unbroken, (covers.1 _ _ _ _ _ unbroken).2.2.2⟩, different⟩

/-! ## Spans of repetitions -/

section

variable [Host m] [ImmediateHost m ε] [Input σ τ π] [Ord π] [AscendingInput σ]

/-- A round that is collected ends later than it began. -/
theorem Advances.later_of_consumed {p : Parser m σ π α} (hp : Advances α p) {fuel : Nat}
    {u t : State σ π} {a : α} (delivers : p.Delivers fuel (u.withConsumed false) (.ok a t))
    (consumed : t.consumed = true) : compare u.position t.position = .lt := by
  rcases hp fuel _ _ delivers with ⟨items, reads⟩
  have some : items ≠ [] := by simpa using reads.consumed consumed
  have position : t.position = items.foldl (Input.advance σ) u.position := reads.position
  rw [position]
  exact lt_foldl_advance some u.position

variable [DecidableEq π]

/-- The spans of collected rounds divide the stretch between their start and their end. -/
theorem Advances.tiledBy_of_collects {p : Parser m σ π α} (hp : Advances α p) {fuel : Nat}
    {s u : State σ π} {items : List (α × Span π)} (h : p.withSpan.Collects fuel s items u) :
    (⟨s.position, u.position⟩ : Span π).TiledBy (items.map Prod.snd) := by
  induction h with
  | start => exact .nil s.position
  | @round values u t item before delivers consumed ih =>
      rcases item with ⟨a, span⟩
      obtain ⟨inner, rfl⟩ := delivers_withSpan_ok.mp delivers
      rw [List.map_append]
      exact ih.snoc (hp.later_of_consumed inner consumed)

/-- Where a repetition succeeds, its span leads from its start to its end, and the spans of its
rounds divide it: without rounds it is empty, and else the first of them starts where it does, each
starts where the one before stopped, the last one stops where it does, and each of them stops later
than it starts. -/
theorem many_withSpan_tiledBy {p : Parser m σ π α}
    (hp : p.Composed (.without [.putState, .setConsumed true])) {fuel : Nat} {s t : State σ π}
    {items : List (α × Span π)} {outer : Span π}
    (h : p.withSpan.many.withSpan.Delivers fuel s (.ok (items, outer) t)) :
    outer.start = s.position ∧ outer.stop = t.position ∧
      outer.TiledBy (items.map Prod.snd) := by
  obtain ⟨ends, rfl⟩ := delivers_withSpan_ok.mp h
  refine ⟨rfl, rfl, ?_⟩
  have advances : Advances α p := hp.induction closedUnder_advances
  rcases delivers_many ends with ⟨values, u, collects, stops⟩
  obtain ⟨rfl, rfl, -⟩ := stops.ok_cases
  exact advances.tiledBy_of_collects collects

end

/-- A line with the line feed that ends it, or nothing of it. -/
def wholeLine : Parser (Except String) Text LineColumn (List Char) :=
  ((satisfy (· ≠ '\n') "character").many.pair (item '\n')).attempt.map Prod.fst

/-- Two lines are collected, each with its line feed; the third one is read too, but it does not
end, and the repetition stops where that line begins. -/
theorem many_withSpan_tiledBy_wholeLine :
    wholeLine.Composed (.without [.putState, .setConsumed true]) ∧
      wholeLine.withSpan.many.withSpan.Delivers 5
        ⟨⟨['a', 'b', '\n', 'c', '\n', 'd']⟩, ⟨1, 1⟩, false⟩
        (.ok ([(['a', 'b'], ⟨⟨1, 1⟩, ⟨2, 1⟩⟩), (['c'], ⟨⟨2, 1⟩, ⟨3, 1⟩⟩)], ⟨⟨1, 1⟩, ⟨3, 1⟩⟩)
          ⟨⟨['d']⟩, ⟨3, 1⟩, true⟩) ∧
      (⟨⟨1, 1⟩, ⟨3, 1⟩⟩ : Span LineColumn).TiledBy
        [⟨⟨1, 1⟩, ⟨2, 1⟩⟩, ⟨⟨2, 1⟩, ⟨3, 1⟩⟩] := by
  have composed : wholeLine.Composed (.without [.putState, .setConsumed true]) := by
    refine .map _ (.attempt (by simp) (.pair ?_ (.item '\n')))
    exact .many (by simp) (.satisfy _ _)
  have delivers : wholeLine.withSpan.many.withSpan.Delivers 5
      ⟨⟨['a', 'b', '\n', 'c', '\n', 'd']⟩, ⟨1, 1⟩, false⟩
      (.ok ([(['a', 'b'], ⟨⟨1, 1⟩, ⟨2, 1⟩⟩), (['c'], ⟨⟨2, 1⟩, ⟨3, 1⟩⟩)], ⟨⟨1, 1⟩, ⟨3, 1⟩⟩)
        ⟨⟨['d']⟩, ⟨3, 1⟩, true⟩) := rfl
  exact ⟨composed, delivers, (many_withSpan_tiledBy composed delivers).2.2⟩

end Parser

end Descent
