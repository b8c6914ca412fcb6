import Descent.Proofs.Phrase.Execution

/-!
# The effects of a host happen once, in order

A grammar may lift computations of its host anywhere, also inside branches that are given up,
look-aheads and rejected values.  Parsing goes back to earlier states, but never takes back what
the host has done: a run performs the lifted computations that it reaches, each as often as it
reaches it, in the order of the rules by which phrases are run.  So one list of labels says what
the run does in every host: which failure a host that may fail ends with, whatever choices and
attempts are around it, how often a host that may suspend does so, and what a host that keeps a
log has written in the end.

Main definitions:

- `Label`: what hosts know of a lifted computation.
- `Handler.failing`, `Handler.suspending`: what hosts make of a label.
- `throwing`, `suspending`: what they make of a whole log.

Main results:

- Theorem `complete_suspending`: how often a log suspends.
- Theorem `Phrase.performs_once_in_order`: one list of labels for all hosts.
-/

namespace Descent

variable {σ τ π μ ε α : Type}

/-! ## Labels in several hosts -/

/-- What hosts know of a lifted computation beside its value: a mark to tell it by, how often it
suspends, and the failure that it throws, if any. -/
structure Label (μ ε : Type) where
  mark : μ
  suspensions : Nat
  failure : Option ε

namespace Handler

/-- Throws the failure of the label, or else gives the value. -/
def failing : Handler (Except ε) (Label μ ε) :=
  fun _ label value =>
    match label.failure with
    | some e => .error e
    | none => .ok value

/-- Suspends as often as the label says, and gives the value. -/
def suspending : Handler Resumption (Label μ ε) :=
  fun _ label value => Resumption.suspend label.suspensions >>= fun _ => pure value

end Handler

/-- Throws the first failure that has been logged. -/
def throwing : Translation (Logged (Label μ ε)) (Except ε) where
  apply x :=
    match x.log.findSome? Label.failure with
    | some e => .error e
    | none => .ok x.value
  apply_pure _ := rfl
  apply_bind x f := by
    rw [Logged.log_bind, Logged.value_bind, List.findSome?_append]
    cases x.log.findSome? Label.failure with
    | none => rfl
    | some e => rfl

/-- Suspends as often as all labels say that have been logged. -/
def suspending : Translation (Logged (Label μ ε)) Resumption where
  apply x := Parser.waiting.apply ⟨x.log.map Label.suspensions, x.value⟩
  apply_pure _ := rfl
  apply_bind x f := by
    rw [Logged.log_bind, Logged.value_bind, List.map_append]
    exact Parser.waiting.apply_bind ⟨x.log.map Label.suspensions, x.value⟩ fun a =>
      ⟨(f a).log.map Label.suspensions, (f a).value⟩

theorem complete_suspending (labels : List (Label μ ε)) (a : α) :
    (suspending.apply ⟨labels, a⟩).complete = ((labels.map Label.suspensions).sum, a) := by
  have run : suspending.apply ⟨labels, a⟩ =
      Resumption.suspend (labels.map Label.suspensions).sum >>= fun _ => pure a := rfl
  rw [run, Resumption.complete_bind, Resumption.complete_suspend]
  rfl

namespace Phrase

variable [Input σ τ π]

/-! ## The same phrase in these hosts -/

theorem translated_failing (g : Phrase σ τ π (Label μ ε) [] α) :
    (g.parser .logging).Translated throwing (g.parser .failing) := by
  refine g.translated fun α label value => ?_
  have single : throwing.apply (Handler.logging α label value) =
      match [label].findSome? Label.failure with
      | some e => .error e
      | none => .ok value := rfl
  rw [single, List.findSome?_singleton]
  rfl

theorem translated_suspending (g : Phrase σ τ π (Label μ ε) [] α) :
    (g.parser .logging).Translated suspending (g.parser .suspending) :=
  g.translated fun _ _ _ => rfl

/-! ## Runs in these hosts -/

/-- Of every grammar and every state from which the run ends in which each lifted computation just
gives its value, there is one list of labels: those of the computations that are performed by the
rules, in order.  In the host that may fail the run ends with the first failure in the list, and
with the same reply if there is none; in the host that may suspend it ends with the same reply
after just as many suspensions as the list says; and in the host that keeps a log it ends with the
same reply and has logged the list. -/
theorem performs_once_in_order (g : Phrase σ τ π (Label μ ε) [] α) (s : State σ π) {fuel : Nat}
    {r : Reply σ π α} (ends : (g.parser .plain).Delivers fuel s r) :
    ∃ labels, (∀ labels' r', Performs .none g s labels' r' ↔ labels' = labels ∧ r' = r) ∧
      (g.parser .failing).Yields s
        (match labels.findSome? Label.failure with
        | some e => .error e
        | none => .ok r) ∧
      (∃ x, (g.parser .suspending).Yields s x ∧
        x.complete = ((labels.map Label.suspensions).sum, r)) ∧
      (g.parser .logging).Yields s ⟨labels, r⟩ := by
  rcases exists_performs_of_delivers ends with ⟨labels, performs⟩
  have logged := yields_of_performs performs
  refine ⟨labels, fun labels' r' => ⟨?_, ?_⟩, ?_, ⟨suspending.apply ⟨labels, r⟩, ?_, ?_⟩, logged⟩
  · exact fun performs' => performs'.unique performs
  · rintro ⟨rfl, rfl⟩
    exact performs
  · exact g.translated_failing.yields logged
  · exact g.translated_suspending.yields logged
  · exact complete_suspending labels r

/-! ## A grammar with effects everywhere -/

/-- A lift in a branch that is given up, one that fails in what must not follow, and one in each
round of a repetition, of which the last round is given up too. -/
def busy : Phrase Text Char LineColumn (Label Char String) [] (List Char) :=
  .orElse (.seqRight (.lift ⟨'p', 1, none⟩ ()) (.primitive (.fail "given up")))
    (.seqRight
      (.wrap .notFollowedBy (.seqRight (.lift ⟨'q', 2, some "lost"⟩ ()) (.item 'x')))
      (.many (.seqRight (.lift ⟨'r', 3, some "late"⟩ ()) (.item 'a'))))

/-- On one letter: all four computations are performed, in order, and the host that may fail does
so with the first failure although it is thrown in a negative look-ahead. -/
theorem performs_once_in_order_busy :
    (busy.parser .plain).Delivers 2 ⟨⟨['a']⟩, ⟨1, 1⟩, false⟩ (.ok ['a'] ⟨⟨[]⟩, ⟨1, 2⟩, true⟩) ∧
      (busy.parser .failing).Yields ⟨⟨['a']⟩, ⟨1, 1⟩, false⟩ (.error "lost") ∧
      (∃ x, (busy.parser .suspending).Yields ⟨⟨['a']⟩, ⟨1, 1⟩, false⟩ x ∧
        x.complete = (9, .ok ['a'] ⟨⟨[]⟩, ⟨1, 2⟩, true⟩)) ∧
      (busy.parser .logging).Yields ⟨⟨['a']⟩, ⟨1, 1⟩, false⟩
        ⟨[⟨'p', 1, none⟩, ⟨'q', 2, some "lost"⟩, ⟨'r', 3, some "late"⟩, ⟨'r', 3, some "late"⟩],
          .ok ['a'] ⟨⟨[]⟩, ⟨1, 2⟩, true⟩⟩ := by
  have ends : (busy.parser .plain).Delivers 2 ⟨⟨['a']⟩, ⟨1, 1⟩, false⟩
      (.ok ['a'] ⟨⟨[]⟩, ⟨1, 2⟩, true⟩) := rfl
  have logs : (busy.parser .logging).Logs 2 ⟨⟨['a']⟩, ⟨1, 1⟩, false⟩
      [⟨'p', 1, none⟩, ⟨'q', 2, some "lost"⟩, ⟨'r', 3, some "late"⟩, ⟨'r', 3, some "late"⟩]
      (.ok ['a'] ⟨⟨[]⟩, ⟨1, 2⟩, true⟩) := rfl
  rcases performs_once_in_order busy _ ends with ⟨labels, only, fails, suspends, logged⟩
  rcases (only _ _).mp (performs_of_parser_logs logs) with ⟨rfl, -⟩
  exact ⟨ends, fails, suspends, logged⟩

end Phrase

end Descent
