import Descent.Parser.Lookahead
import Descent.Parser.Report
import Descent.Parser.Token
import Descent.Proofs.Input.Reading
import Descent.Proofs.Laws.Sequence
import Mathlib.Data.List.Induction

/-!
# Literals and their items

A literal is read as a whole or not at all.  It succeeds exactly where its items are the next ones
of the input, and then behind all of them; everywhere else it fails in the state that it was
entered with, however many of its items were there.  Reading the items one by one would fail in the
middle.  Made all or nothing, by looking ahead for all of them first, and with the error of the
literal, this is the literal.

Main definitions:

- `Parser.Matches`: a parser succeeds where a run of items can be read, and behind it.
- `Parser.oneByOne`: items that are read one after the other.

Main results:

- Theorem `Matches.map_literal_eq`: a literal is any parser for its items, made all or nothing.
- Theorem `string_all_or_nothing`: the same for strings, with what they do on every input.
-/

namespace Descent

variable {m : Type → Type} {σ τ π α β : Type}

namespace Parser

section

variable [Monad m] [Input σ τ π] [BEq τ]

/-! ## Parsers that match a run of items -/

/-- From every state, a parser succeeds where a run of items can be read, behind the last one of
them, and fails everywhere else. -/
def Matches (p : Parser m σ π α) (items : List τ) : Prop :=
  ∀ (fuel : Nat) (s : State σ π),
    (∃ a t, s.readAll? items = some t ∧ p.parse fuel s = Pure.pure (.ok a t)) ∨
      s.readAll? items = none ∧ ∃ e t, p.parse fuel s = Pure.pure (.error e t)

section Lawful

variable [LawfulMonad m]

/-- A sequence matches the items of its first part and then those of its second part. -/
theorem Matches.seqRight {p : Parser m σ π α} {q : Parser m σ π β} {xs ys : List τ}
    (hp : p.Matches xs) (hq : q.Matches ys) : (p.seqRight q).Matches (xs ++ ys) := by
  intro fuel s
  rw [State.readAll?_append, Parser.seqRight, parse_andThen]
  rcases hp fuel s with ⟨a, t, read, run⟩ | ⟨unread, e, t, run⟩
  · rw [read, run, Option.bind_some, pure_bind]
    exact hq fuel t
  · rw [unread, run, Option.bind_none, pure_bind]
    exact .inr ⟨rfl, e, t, rfl⟩

/-- Looking ahead for a run of items before reading them fails where it began. -/
theorem Matches.parse_allOrNothing {p : Parser m σ π α} {items : List τ} (h : p.Matches items)
    (fuel : Nat) (s : State σ π) :
    (∃ a t, s.readAll? items = some t ∧
        (p.lookAhead.seqRight p).parse fuel s = Pure.pure (.ok a t)) ∨
      s.readAll? items = none ∧
        ∃ e, (p.lookAhead.seqRight p).parse fuel s = Pure.pure (.error e s) := by
  rw [Parser.seqRight, parse_andThen, lookAhead, parse_revise]
  rcases h fuel s with ⟨a, t, read, run⟩ | ⟨unread, e, t, run⟩
  · rw [run, map_pure, pure_bind]
    exact .inl ⟨a, t, read, run⟩
  · rw [run, map_pure, pure_bind]
    exact .inr ⟨unread, e, rfl⟩

/-- A literal is what any parser for its items becomes when it is made all or nothing, and fails
with the error of the literal. -/
theorem Matches.map_literal_eq {p : Parser m σ π α} {items : List τ} (h : p.Matches items)
    (value : β) (expected : String) :
    ((literal items expected).map fun _ => value : Parser m σ π β) =
      (((p.lookAhead.seqRight p).map fun _ => value).withMessage
        (expectedMessage expected)).atStart := by
  ext fuel s
  rw [parse_map, literal, map_pure, atStart, parse_revise, withMessage, mapError, parse_revise,
    parse_map]
  rcases h.parse_allOrNothing fuel s with ⟨a, t, read, run⟩ | ⟨unread, e, run⟩
  · rw [read, run, map_pure, map_pure, map_pure]
    rfl
  · rw [unread, run, map_pure, map_pure, map_pure]
    rfl

end Lawful

/-! ## Items one by one -/

variable [Quoted τ]

/-- Reads the given items one after the other, and gives the last one. -/
def oneByOne (x : τ) (xs : List τ) : Parser m σ π τ :=
  xs.foldl (fun p y => p.seqRight (item y)) (item x)

theorem matches_item (x : τ) : (item x : Parser m σ π τ).Matches [x] := by
  intro fuel s
  cases next : s.next? with
  | none =>
      refine .inr ⟨State.readAll?_cons_of_none next,
        ⟨unexpectedEndMessage (Quoted.quoted x), s.position⟩, s, ?_⟩
      simp only [item, satisfy, next]
      rfl
  | some found =>
      rcases found with ⟨y, t⟩
      rw [State.readAll?_cons_of_some next]
      cases same : y == x with
      | true =>
          refine .inl ⟨y, t, rfl, ?_⟩
          simp only [item, satisfy, next, same]
          rfl
      | false =>
          refine .inr ⟨rfl, ⟨expectedMessage (Quoted.quoted x), s.position⟩, s, ?_⟩
          simp only [item, satisfy, next, same]
          rfl

theorem matches_oneByOne [LawfulMonad m] (x : τ) (xs : List τ) :
    (oneByOne x xs : Parser m σ π τ).Matches (x :: xs) := by
  induction xs using List.reverseRecOn with
  | nil => exact matches_item x
  | append_singleton xs y ih =>
      have last : (oneByOne x (xs ++ [y]) : Parser m σ π τ) =
          (oneByOne x xs).seqRight (item y) := by
        rw [oneByOne, List.foldl_append]
        rfl
      rw [last, ← List.cons_append]
      exact ih.seqRight (matches_item y)

end

/-! ## Strings -/

theorem parse_string [Monad m] [LawfulMonad m] [Input σ Char π] (text : String) (fuel : Nat)
    (s : State σ π) :
    (string text : Parser m σ π String).parse fuel s =
      Pure.pure (match s.readAll? text.toList with
        | some t => .ok text t
        | none => .errorHere (expectedMessage (Quoted.quoted text)) s) := by
  rw [string, parse_map, literal, map_pure]
  cases s.readAll? text.toList with
  | none => rfl
  | some t => rfl

/-- A string succeeds where the characters that are left start with its own: behind exactly these,
with the position advanced over each of them in order, and with the flag set unless it is empty,
in which case the state is untouched.  Everywhere else it fails at the place and in the state that
it was entered with.  A string with characters is the sequence of these characters, made all or
nothing, with this error. -/
theorem string_all_or_nothing [Monad m] [LawfulMonad m] [Input σ Char π] [FiniteInput σ]
    (text : String) :
    (∀ (fuel : Nat) (s : State σ π), text.toList <+: FiniteInput.items s.input →
      ∃ t : State σ π, Input.Reads s.input text.toList t.input ∧
        FiniteInput.items s.input = text.toList ++ FiniteInput.items t.input ∧
        t.position = text.toList.foldl (Input.advance σ) s.position ∧
        (text ≠ "" → t.consumed = true) ∧ (text = "" → t = s) ∧
        (string text : Parser m σ π String).parse fuel s = Pure.pure (.ok text t)) ∧
    (∀ (fuel : Nat) (s : State σ π), ¬text.toList <+: FiniteInput.items s.input →
      (string text : Parser m σ π String).parse fuel s =
        Pure.pure (.error ⟨"expected " ++ Quoted.quoted text, s.position⟩ s)) ∧
    ∀ (c : Char) (cs : List Char), text.toList = c :: cs →
      (string text : Parser m σ π String) =
        ((((oneByOne c cs).lookAhead.seqRight (oneByOne c cs)).map fun _ => text).withMessage
          ("expected " ++ Quoted.quoted text)).atStart := by
  refine ⟨fun fuel s starts => ?_, fun fuel s differs => ?_, fun c cs chars => ?_⟩
  · rcases State.exists_readAll?_iff.mpr starts with ⟨t, read⟩
    rcases State.readAll?_eq_some_iff.mp read with ⟨reads, position, consumed⟩
    refine ⟨t, reads, reads.items_eq, position, ?_, ?_, ?_⟩
    · intro some
      rw [consumed]
      simp [some]
    · rintro rfl
      exact (Option.some.inj read).symm
    · rw [parse_string, read]
  · have unread : s.readAll? text.toList = none := by
      refine Option.eq_none_iff_forall_ne_some.mpr fun t read => ?_
      exact differs (State.exists_readAll?_iff.mp ⟨t, read⟩)
    rw [parse_string, unread]
    rfl
  · rw [string, chars]
    exact (matches_oneByOne c cs).map_literal_eq text (Quoted.quoted text)

/-- Over a line break the string is read to the second line.  Where only its first two characters
are there it fails before both of them, with the flag as it was; so do the characters one by one,
if they are looked ahead for. -/
theorem string_all_or_nothing_brokenLine :
    ("a\nb".toList <+: ['a', '\n', 'b', 'c'] ∧
      ∃ t : State Text LineColumn,
        Input.Reads (⟨['a', '\n', 'b', 'c']⟩ : Text) "a\nb".toList t.input ∧
        t.position = "a\nb".toList.foldl (Input.advance Text) ⟨1, 1⟩ ∧ t.consumed = true ∧
        (string "a\nb" : Parser Id Text LineColumn String).parse 0
          ⟨⟨['a', '\n', 'b', 'c']⟩, ⟨1, 1⟩, false⟩ = Pure.pure (.ok "a\nb" t)) ∧
    (¬"a\nb".toList <+: ['a', '\n', 'c'] ∧
      (string "a\nb" : Parser Id Text LineColumn String).parse 0
          ⟨⟨['a', '\n', 'c']⟩, ⟨1, 1⟩, true⟩ =
        Pure.pure (.error ⟨"expected " ++ Quoted.quoted "a\nb", ⟨1, 1⟩⟩
          ⟨⟨['a', '\n', 'c']⟩, ⟨1, 1⟩, true⟩)) ∧
    (string "a\nb" : Parser Id Text LineColumn String) =
      ((((oneByOne 'a' ['\n', 'b']).lookAhead.seqRight
        (oneByOne 'a' ['\n', 'b'])).map fun _ => "a\nb").withMessage
          ("expected " ++ Quoted.quoted "a\nb")).atStart := by
  rcases string_all_or_nothing (m := Id) (σ := Text) "a\nb" with ⟨whole, nothing, chars⟩
  have starts : "a\nb".toList <+: ['a', '\n', 'b', 'c'] := by decide
  have differs : ¬"a\nb".toList <+: ['a', '\n', 'c'] := by decide
  rcases whole 0 ⟨⟨['a', '\n', 'b', 'c']⟩, ⟨1, 1⟩, false⟩ starts with
    ⟨t, reads, -, position, flag, -, run⟩
  refine ⟨⟨starts, t, reads, position, flag (by decide), run⟩, ⟨differs, ?_⟩, chars 'a' _ rfl⟩
  exact nothing 0 ⟨⟨['a', '\n', 'c']⟩, ⟨1, 1⟩, true⟩ differs

end Parser

end Descent
