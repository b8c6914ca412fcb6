import Descent.Proofs.Engine.EntryFlag
import Descent.Proofs.Laws.Choice

/-!
# Choices without an alternative

In front of a parser, the choice between no alternatives changes nothing: it fails without reading
and leaves everything to the parser.  Behind a parser it does two things.  It takes the place of a
failure that has read nothing, and it makes the parser a first branch, which is entered with the
flag cleared.  So a success can lose the flag that it was to hand through.  It loses nothing else,
because the flag of the entry decides nothing.

Main results:

- Theorem `IgnoresFlag.exists_delivers`: from one place, a parser ends in one way, with any flag.
- Theorems `delivers_orElse_empty_ok` and `delivers_orElse_empty_of_error`: the replies of a parser
  with no alternative behind it.
- Theorem `empty_orElse_and_orElse_empty`: on which side there is an identity, and up to what.
-/

namespace Descent.Parser

variable {m n : Type → Type} {σ τ π α ε : Type}

section

variable [Host n] [ImmediateHost n ε] {p : Parser n σ π α} {fuel : Nat} {s : State σ π}

/-! ## No alternative behind a parser -/

/-- The choice succeeds where its only branch does, and as it does. -/
theorem delivers_orElse_empty_ok {a : α} {t : State σ π} :
    (p.orElse empty).Delivers fuel s (.ok a t) ↔
      p.Delivers fuel (s.withConsumed false) (.ok a t) := by
  rw [delivers_orElse]
  constructor
  · rintro (⟨b, u, succeeds, reply⟩ | ⟨e, u, -, -, reply⟩ | ⟨e, u, -, -, alternative⟩)
    · rwa [reply] at succeeds
    · simp at reply
    · have reply := delivers_fail.mp alternative
      simp [Reply.errorHere] at reply
  · intro succeeds
    exact .inl ⟨a, t, succeeds, rfl⟩

/-- A failure of the only branch is the failure of the choice if it has read something, and
otherwise the choice fails for want of an alternative. -/
theorem delivers_orElse_empty_of_error {e : ParseError π} {t : State σ π}
    (fails : p.Delivers fuel (s.withConsumed false) (.error e t)) :
    (p.orElse empty).Delivers fuel s
      (if t.consumed then .error e t else .errorHere noAlternative s) := by
  by_cases consumed : t.consumed = true
  · rw [if_pos consumed]
    exact outcome_orElse_of_consumed fails consumed empty
  · have clear : t.consumed = false := by simpa using consumed
    rw [if_neg consumed, Delivers, outcome_orElse_of_clear fails clear]
    exact delivers_fail.mpr rfl

/-! ## The flag of the entry -/

variable [Input σ τ π]

/-- A parser that ignores the flag ends from the same place in the same way, whatever flag it is
entered with; only the flag that it ends with may be another one. -/
theorem IgnoresFlag.exists_delivers (h : IgnoresFlag α p) {r : Reply σ π α}
    (ends : p.Delivers fuel s r) (entry : Bool) :
    ∃ flag, p.Delivers fuel (s.withConsumed entry) ⟨r.result, r.state.withConsumed flag⟩ := by
  obtain ⟨scheme, instances⟩ := h fuel s
  have own : scheme.map (·.close s.consumed) = .delivered r :=
    (instances s.consumed).symm.trans ends
  obtain ⟨o, rfl, rfl⟩ := Outcome.map_eq_delivered.mp own
  exact ⟨o.flag.getD entry, instances entry⟩

/-- With the flag cleared, a parser that ignores the flag ends exactly if it ends as it stands. -/
theorem IgnoresFlag.exists_delivers_cleared_iff (h : IgnoresFlag α p) :
    (∃ r, p.Delivers fuel (s.withConsumed false) r) ↔ ∃ r, p.Delivers fuel s r := by
  constructor
  · rintro ⟨r, ends⟩
    obtain ⟨flag, ends⟩ := h.exists_delivers ends s.consumed
    exact ⟨_, ends⟩
  · rintro ⟨r, ends⟩
    obtain ⟨flag, ends⟩ := h.exists_delivers ends false
    exact ⟨_, ends⟩

/-- The choice ends exactly if its only branch does. -/
theorem IgnoresFlag.exists_delivers_orElse_empty_iff (h : IgnoresFlag α p) :
    (∃ r, (p.orElse empty).Delivers fuel s r) ↔ ∃ r, p.Delivers fuel s r := by
  rw [← h.exists_delivers_cleared_iff]
  constructor
  · rintro ⟨r, ends⟩
    rcases delivers_orElse.mp ends with ⟨a, t, first, -⟩ | ⟨e, t, first, -⟩ | ⟨e, t, first, -⟩
    · exact ⟨_, first⟩
    · exact ⟨_, first⟩
    · exact ⟨_, first⟩
  · rintro ⟨r, ends⟩
    cases r with
    | ok a t => exact ⟨_, delivers_orElse_empty_ok.mpr ends⟩
    | error e t => exact ⟨_, delivers_orElse_empty_of_error ends⟩

/-- Up to its flag, the choice has the successes of its only branch. -/
theorem IgnoresFlag.exists_flag_orElse_empty_iff (h : IgnoresFlag α p) {a : α} {t : State σ π} :
    (∃ flag, (p.orElse empty).Delivers fuel s (.ok a (t.withConsumed flag))) ↔
      ∃ flag, p.Delivers fuel s (.ok a (t.withConsumed flag)) := by
  simp only [delivers_orElse_empty_ok]
  constructor
  · rintro ⟨flag, succeeds⟩
    exact h.exists_delivers succeeds s.consumed
  · rintro ⟨flag, succeeds⟩
    exact h.exists_delivers succeeds false

/-- In every lawful host the choice between no alternatives is an identity on the left.  On the
right, for parsers that do not get hold of the state: the choice ends whenever the parser does, and
it succeeds whenever the parser does, with the same value, the same input and the same position; if
the flag was clear, with the same flag too.  Where the parser fails, it does so with the flag
cleared as well, in the same place and with the same error; if that leaves the flag set, this is
the failure of the choice, and otherwise the choice fails where it was entered, in the very state
that it was entered with. -/
theorem empty_orElse_and_orElse_empty [Monad m] [LawfulMonad m] :
    (∀ p : Parser m σ π α, empty.orElse p = p) ∧
      ∀ p : Parser n σ π α, p.Composed (.without [.getState]) → ∀ (fuel : Nat) (s : State σ π),
        ((∃ r, (p.orElse empty).Delivers fuel s r) ↔ ∃ r, p.Delivers fuel s r) ∧
        (∀ a input position,
          (∃ flag, (p.orElse empty).Delivers fuel s (.ok a ⟨input, position, flag⟩)) ↔
            ∃ flag, p.Delivers fuel s (.ok a ⟨input, position, flag⟩)) ∧
        (s.consumed = false → ∀ a t,
          (p.orElse empty).Delivers fuel s (.ok a t) ↔ p.Delivers fuel s (.ok a t)) ∧
        ∀ e t, p.Delivers fuel s (.error e t) →
          ∃ flag, p.Delivers fuel (s.withConsumed false) (.error e (t.withConsumed flag)) ∧
            (p.orElse empty).Delivers fuel s
              (if flag then .error e (t.withConsumed flag)
                else .error ⟨"No alternative", s.position⟩ s) := by
  refine ⟨empty_orElse, fun p composed fuel s => ?_⟩
  have ignores : IgnoresFlag α p := composed.induction closedUnder_ignoresFlag
  refine ⟨ignores.exists_delivers_orElse_empty_iff, fun a input position => ?_,
    fun clear a t => ?_, fun e t fails => ?_⟩
  · exact ignores.exists_flag_orElse_empty_iff (t := ⟨input, position, false⟩)
  · have entry : s.withConsumed false = s := by rw [← clear, State.withConsumed_self]
    rw [delivers_orElse_empty_ok, entry]
  · obtain ⟨flag, cleared⟩ := ignores.exists_delivers fails false
    exact ⟨flag, cleared, delivers_orElse_empty_of_error cleared⟩

end

/-- A letter that another one has to follow, or else the end of the input. -/
def letterPairOrEnd : Parser Id Text LineColumn Char :=
  ((item 'a').seqRight (item 'b')).orElse (eof.map fun _ => '!')

/-- At the end of the input the parser hands its flag through, and with no alternative behind it
the flag is lost.  A letter without the other one is an error that commits both; before another
letter the parser has an error of its own, and the choice has that of no alternative. -/
theorem empty_orElse_and_orElse_empty_letterPairOrEnd :
    letterPairOrEnd.Composed (.without [.getState]) ∧
      empty.orElse letterPairOrEnd = letterPairOrEnd ∧
      (letterPairOrEnd.Delivers 0 ⟨⟨[]⟩, ⟨3, 1⟩, true⟩ (.ok '!' ⟨⟨[]⟩, ⟨3, 1⟩, true⟩) ∧
        ∃ flag, (letterPairOrEnd.orElse empty).Delivers 0 ⟨⟨[]⟩, ⟨3, 1⟩, true⟩
          (.ok '!' ⟨⟨[]⟩, ⟨3, 1⟩, flag⟩)) ∧
      (letterPairOrEnd.orElse empty).Delivers 0 ⟨⟨['a', 'b']⟩, ⟨1, 1⟩, false⟩
        (.ok 'b' ⟨⟨[]⟩, ⟨1, 3⟩, true⟩) ∧
      (letterPairOrEnd.orElse empty).Delivers 0 ⟨⟨['a', 'c']⟩, ⟨1, 1⟩, true⟩
        (.error ⟨expectedMessage (Quoted.quoted 'b'), ⟨1, 2⟩⟩ ⟨⟨['c']⟩, ⟨1, 2⟩, true⟩) ∧
      (letterPairOrEnd.orElse empty).Delivers 0 ⟨⟨['c']⟩, ⟨1, 2⟩, true⟩
        (.error ⟨"No alternative", ⟨1, 2⟩⟩ ⟨⟨['c']⟩, ⟨1, 2⟩, true⟩) := by
  have composed : letterPairOrEnd.Composed (.without [.getState]) :=
    .orElse (by simp) (.seqRight (.item 'a') (.item 'b')) (.map _ .eof)
  obtain ⟨left, right⟩ := empty_orElse_and_orElse_empty (m := Id) (n := Id) (σ := Text)
    (π := LineColumn) (α := Char)
  have atEnd := (right letterPairOrEnd composed 0 ⟨⟨[]⟩, ⟨3, 1⟩, true⟩).2.1 '!' ⟨[]⟩ ⟨3, 1⟩
  have bothLetters := (right letterPairOrEnd composed 0 ⟨⟨['a', 'b']⟩, ⟨1, 1⟩, false⟩).2.2.1
  obtain ⟨read, behindLetter, committed⟩ :=
    (right letterPairOrEnd composed 0 ⟨⟨['a', 'c']⟩, ⟨1, 1⟩, true⟩).2.2.2 _ _ rfl
  obtain ⟨unread, beforeLetter, recovered⟩ :=
    (right letterPairOrEnd composed 0 ⟨⟨['c']⟩, ⟨1, 2⟩, true⟩).2.2.2 _ _ rfl
  -- With the flag cleared, the first failure sets the flag and the second one leaves it clear.
  obtain rfl : read = true := congrArg (·.state.consumed) (behindLetter.unique rfl)
  obtain rfl : unread = false := congrArg (·.state.consumed) (beforeLetter.unique rfl)
  exact ⟨composed, left letterPairOrEnd, ⟨rfl, atEnd.mpr ⟨true, rfl⟩⟩,
    (bothLetters rfl 'b' _).mpr rfl, committed, recovered⟩

end Descent.Parser
