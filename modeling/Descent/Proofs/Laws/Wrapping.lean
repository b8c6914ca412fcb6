import Descent.Proofs.Laws.Choice

/-!
# Wrappers around choices

A wrapper changes the reply of its parser, and may look at the state that the parser was entered
with.  Some wrappers only relabel: another value, another error, but the same state, and never a
success for a failure.  A choice looks at nothing that they change.  So it makes no difference
whether such a wrapper is put around a choice or around each of its branches: the errors that it
changes in a branch that recovers are thrown away, and every branch starts from the same place.

Main definitions:

- `Parser.Transparent`: wrappers that only relabel, and do not look at the flag of the entry.

Main results:

- Theorem `revise_revise`: two wrappers, one around the other, are one wrapper.
- Theorem `Transparent.revise_choice`: a transparent wrapper goes through a choice.
- Theorem `choice_relabelled`: mapped values, mapped errors and spans of choices.
-/

namespace Descent.Parser

variable {m : Type → Type} {σ π α β γ : Type} [Monad m]

/-! ## One wrapper around another -/

section Lawful

variable [LawfulMonad m]

/-- A wrapper that changes no reply is not there. -/
theorem revise_eq_self {change : State σ π → Reply σ π α → Reply σ π α} (p : Parser m σ π α)
    (h : ∀ s reply, change s reply = reply) : p.revise change = p := by
  ext fuel s
  have unchanged : change s = id := funext (h s)
  rw [parse_revise, unchanged, id_map]

/-- Two wrappers, one around the other, are one: both know the same entry. -/
theorem revise_revise (p : Parser m σ π α) (inner : State σ π → Reply σ π α → Reply σ π β)
    (outer : State σ π → Reply σ π β → Reply σ π γ) :
    (p.revise inner).revise outer = p.revise fun s reply => outer s (inner s reply) := by
  ext fuel s
  simp only [parse_revise, Functor.map_map]

/-- Two wrappers are another one if they make the same of every reply. -/
theorem revise_revise_eq {inner : State σ π → Reply σ π α → Reply σ π β}
    {outer : State σ π → Reply σ π β → Reply σ π γ} {whole : State σ π → Reply σ π α → Reply σ π γ}
    (p : Parser m σ π α) (h : ∀ s reply, outer s (inner s reply) = whole s reply) :
    (p.revise inner).revise outer = p.revise whole := by
  have same : (fun s reply => outer s (inner s reply)) = whole :=
    funext fun s => funext fun reply => h s reply
  rw [revise_revise, same]

end Lawful

/-! ## Transparent wrappers -/

/-- A wrapper that only relabels, and that looks at the place of the entry but not at its flag. -/
structure Transparent (change : State σ π → Reply σ π α → Reply σ π β) : Prop where
  relabels : Relabels change
  place (s : State σ π) (entry : Bool) (reply : Reply σ π α) :
    change (s.withConsumed entry) reply = change s reply

theorem transparent_map (f : α → β) :
    Transparent fun (_ : State σ π) (reply : Reply σ π α) => reply.map f where
  relabels := relabels_map f
  place _ _ _ := rfl

/-- The function may depend on where the parser was entered. -/
theorem transparent_mapError (f : State σ π → ParseError π → ParseError π)
    (place : ∀ s entry, f (s.withConsumed entry) = f s) :
    Transparent fun (s : State σ π) (reply : Reply σ π α) => reply.mapError (f s) where
  relabels := relabels_mapError f
  place s entry reply := by rw [place]

/-- A span begins at the position of the entry. -/
theorem transparent_withSpan :
    Transparent fun (s : State σ π) (reply : Reply σ π α) =>
      reply.map (·, (⟨s.position, reply.state.position⟩ : Span π)) where
  relabels := relabels_withSpan
  place _ _ _ := rfl

/-- A relabelled reply recovers if the reply does. -/
theorem Relabels.isRecoverable_eq {change : State σ π → Reply σ π α → Reply σ π β}
    (h : Relabels change) (s : State σ π) (reply : Reply σ π α) :
    (change s reply).isRecoverable = reply.isRecoverable := by
  cases reply with
  | ok a t =>
      obtain ⟨b, relabelled⟩ := h.1 s a t
      simp [relabelled]
  | error e t =>
      obtain ⟨f, relabelled⟩ := h.2 s e t
      simp [relabelled]

namespace Transparent

variable [LawfulMonad m] {change : State σ π → Reply σ π α → Reply σ π β}

/-- Around a choice, a transparent wrapper is around both of its branches. -/
theorem revise_orElse (h : Transparent change) (p q : Parser m σ π α) :
    (p.orElse q).revise change = (p.revise change).orElse (q.revise change) := by
  ext fuel s
  simp only [parse_revise, parse_orElse, map_bind, bind_map_left]
  refine bind_congr fun reply => ?_
  -- The wrapped first branch is entered with the flag cleared, and asked instead of the bare one.
  rw [h.relabels.isRecoverable_eq, h.place]
  by_cases recoverable : reply.isRecoverable = true
  · simp [recoverable]
  · simp [recoverable]

/-- Around a choice between many parsers, a transparent wrapper is around each of them. -/
theorem revise_choice (h : Transparent change) {ps : List (Parser m σ π α)} (some : ps ≠ []) :
    (choice ps).revise change = choice (ps.map (·.revise change)) := by
  cases ps with
  | nil => exact (some rfl).elim
  | cons p ps =>
      have branch (p q : Parser m σ π α) :
          (p.revise change).orElse (q.revise change) = (p.orElse q).revise change :=
        (h.revise_orElse p q).symm
      rw [List.map_cons, choice_cons, choice_cons, List.foldl_map]
      exact (List.foldl_hom (fun p : Parser m σ π α => p.revise change) branch).symm

end Transparent

/-- A function of the value, a function of the error, another message, the position of the entry
and a span go through every choice, provided that there are parsers to choose from: a choice
between none has an error of its own, which a wrapper around it would change. -/
theorem choice_relabelled [LawfulMonad m] {ps : List (Parser m σ π α)} (some : ps ≠ [])
    (f : α → β) (g : ParseError π → ParseError π) (message : String) :
    (choice ps).map f = choice (ps.map fun p => p.map f) ∧
      (choice ps).mapError g = choice (ps.map fun p => p.mapError g) ∧
      (choice ps).withMessage message = choice (ps.map fun p => p.withMessage message) ∧
      (choice ps).atStart = choice (ps.map fun p => p.atStart) ∧
      (choice ps).withSpan = choice (ps.map fun p => p.withSpan) := by
  refine ⟨?_, ?_, ?_, ?_, ?_⟩
  · exact (transparent_map f).revise_choice some
  · exact (transparent_mapError (fun _ => g) fun _ _ => rfl).revise_choice some
  · exact (transparent_mapError (fun _ e => e.reword message) fun _ _ => rfl).revise_choice some
  · exact (transparent_mapError (fun s e => e.relocate s.position) fun _ _ => rfl).revise_choice
      some
  · exact transparent_withSpan.revise_choice some

/-- The second parser fails behind the letter that it read, and says so at the place where it
started, also if it says so as a branch.  At the end of the input the third parser gives its value,
with a span that is empty and begins where the choice was entered. -/
theorem choice_relabelled_alternatives :
    alternatives ≠ [] ∧
      (choice (alternatives.map fun p => p.atStart)).Delivers 0 ⟨⟨['b', 'c']⟩, ⟨2, 5⟩, true⟩
        (.error ⟨"unwanted", ⟨2, 5⟩⟩ ⟨⟨['c']⟩, ⟨2, 6⟩, true⟩) ∧
      (choice (alternatives.map fun p => p.withSpan)).Delivers 0 ⟨⟨[]⟩, ⟨2, 5⟩, true⟩
        (.ok ('!', ⟨⟨2, 5⟩, ⟨2, 5⟩⟩) ⟨⟨[]⟩, ⟨2, 5⟩, true⟩) := by
  have some : alternatives ≠ [] := List.cons_ne_nil _ _
  obtain ⟨-, -, -, start, span⟩ := choice_relabelled some id id "unwanted"
  have behindLetter : (choice alternatives).atStart.Delivers 0 ⟨⟨['b', 'c']⟩, ⟨2, 5⟩, true⟩
      (.error ⟨"unwanted", ⟨2, 5⟩⟩ ⟨⟨['c']⟩, ⟨2, 6⟩, true⟩) := rfl
  have atEnd : (choice alternatives).withSpan.Delivers 0 ⟨⟨[]⟩, ⟨2, 5⟩, true⟩
      (.ok ('!', ⟨⟨2, 5⟩, ⟨2, 5⟩⟩) ⟨⟨[]⟩, ⟨2, 5⟩, true⟩) := rfl
  exact ⟨some, start ▸ behindLetter, span ▸ atEnd⟩

end Descent.Parser
