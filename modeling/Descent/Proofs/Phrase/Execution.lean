import Descent.Proofs.Parser.Logging
import Descent.Proofs.Phrase.Basic

/-!
# How phrases are run

What a run of a phrase does is said here without a host and without fuel: which part is run from
which state, how the replies are put together, and which labelled computations are performed on
the way, each as often as it is reached, whatever becomes of the reply.  These rules are exact: in
the host that keeps a log, a run that ends follows them, and what they say is what every run with
enough fuel does.

Main definitions:

- `Definitions`: the definitions of the rules in scope.
- `Performs`: the rules by which a phrase is run.
- `Unfolds`: parsers for the rules in scope that unfold their definitions deep enough.
- `Reached`: what every run does that has enough fuel.

Main results:

- Theorem `Phrase.performs_of_logs`: a run that ends follows the rules.
- Theorem `Performs.exists_logs`: what the rules say is what every run with enough fuel does.
- Theorem `Performs.unique`: the rules determine the labels and the reply.
- Theorem `Phrase.exists_performs_of_delivers`: runs without effects follow the rules too.
-/

namespace Descent

variable {σ τ π ω α : Type} {Γ : Families}

/-! ## The rules -/

/-- The definitions of the rules in scope, innermost family first. -/
inductive Definitions (σ τ π ω : Type) : Families → Type 1 where
  | none : Definitions σ τ π ω []
  | family {Γ : Families} {ι α : Type} (outer : Definitions σ τ π ω Γ)
      (define : ι → Phrase σ τ π ω ((ι, α) :: Γ) α) : Definitions σ τ π ω ((ι, α) :: Γ)

/-- Run from a state, the phrase performs the computations with these labels, in this order, and
ends in this reply. -/
inductive Performs [Input σ τ π] : {Γ : Families} → Definitions σ τ π ω Γ → {α : Type} →
    Phrase σ τ π ω Γ α → State σ π → List ω → Reply σ π α → Prop where
  | primitive {Γ : Families} {defs : Definitions σ τ π ω Γ} {α : Type}
      (p : Primitive σ τ π α) (s : State σ π) : Performs defs (.primitive p) s [] (p.reply s)
  | getState {Γ : Families} {defs : Definitions σ τ π ω Γ} (s : State σ π) :
      Performs defs .getState s [] (.ok s s)
  | lift {Γ : Families} {defs : Definitions σ τ π ω Γ} {α : Type} (label : ω) (value : α)
      (s : State σ π) : Performs defs (.lift label value) s [label] (.ok value s)
  | wrap {Γ : Families} {defs : Definitions σ τ π ω Γ} {α β : Type} {g : Phrase σ τ π ω Γ α}
      {s : State σ π} {labels : List ω} {r : Reply σ π α} (w : Wrapping σ π α β)
      (inner : Performs defs g s labels r) : Performs defs (.wrap w g) s labels (w.change s r)
  | andThen {Γ : Families} {defs : Definitions σ τ π ω Γ} {α β : Type}
      {g : Phrase σ τ π ω Γ α} {k : α → Phrase σ τ π ω Γ β} {s t : State σ π}
      {before after : List ω} {a : α} {r : Reply σ π β}
      (first : Performs defs g s before (.ok a t)) (second : Performs defs (k a) t after r) :
      Performs defs (.andThen g k) s (before ++ after) r
  | andThenError {Γ : Families} {defs : Definitions σ τ π ω Γ} {α β : Type}
      {g : Phrase σ τ π ω Γ α} {k : α → Phrase σ τ π ω Γ β} {s t : State σ π}
      {labels : List ω} {e : ParseError π} (first : Performs defs g s labels (.error e t)) :
      Performs defs (.andThen g k) s labels (.error e t)
  | orElseFirst {Γ : Families} {defs : Definitions σ τ π ω Γ} {α : Type}
      {g h : Phrase σ τ π ω Γ α} {s : State σ π} {labels : List ω} {r : Reply σ π α}
      (first : Performs defs g (s.withConsumed false) labels r)
      (kept : r.isRecoverable = false) : Performs defs (.orElse g h) s labels r
  | orElseSecond {Γ : Families} {defs : Definitions σ τ π ω Γ} {α : Type}
      {g h : Phrase σ τ π ω Γ α} {s : State σ π} {before after : List ω}
      {r r' : Reply σ π α} (first : Performs defs g (s.withConsumed false) before r)
      (recoverable : r.isRecoverable = true) (second : Performs defs h s after r') :
      Performs defs (.orElse g h) s (before ++ after) r'
  | many {Γ : Families} {defs : Definitions σ τ π ω Γ} {α : Type} {g : Phrase σ τ π ω Γ α}
      {s : State σ π} {rounds : List (Round σ π ω α)} {r : Reply σ π (List α)}
      (each : ∀ x ∈ rounds, Performs defs g (x.entry.withConsumed false) x.labels x.reply)
      (gathers : Gathers [] s rounds r) :
      Performs defs (.many g) s (rounds.flatMap Round.labels) r
  | rules {Γ : Families} {defs : Definitions σ τ π ω Γ} {ι α : Type}
      {define : ι → Phrase σ τ π ω ((ι, α) :: Γ) α} {i : ι} {s : State σ π}
      {labels : List ω} {r : Reply σ π α}
      (body : Performs (defs.family define) (define i) s labels r) :
      Performs defs (.rules define i) s labels r
  | here {Γ : Families} {defs : Definitions σ τ π ω Γ} {ι α : Type}
      {define : ι → Phrase σ τ π ω ((ι, α) :: Γ) α} {i : ι} {s : State σ π}
      {labels : List ω} {r : Reply σ π α}
      (body : Performs (defs.family define) (define i) s labels r) :
      Performs (defs.family define) (.call (.here i)) s labels r
  | there {Γ : Families} {defs : Definitions σ τ π ω Γ} {ι α β : Type}
      {define : ι → Phrase σ τ π ω ((ι, α) :: Γ) α} {name : RuleName Γ β} {s : State σ π}
      {labels : List ω} {r : Reply σ π β} (outer : Performs defs (.call name) s labels r) :
      Performs (defs.family define) (.call (.there name)) s labels r

/-! ## Runs follow the rules -/

/-- Performs a labelled computation by writing its label. -/
def Handler.logging : Handler (Logged ω) ω :=
  fun _ label value => ⟨[label], value⟩

variable [Input σ τ π]

/-- A run that ends follows the rules, provided that the runs of the rules in scope do. -/
theorem Phrase.performs_of_logs (g : Phrase σ τ π ω Γ α) {defs : Definitions σ τ π ω Γ}
    {callees : Callees (Logged ω) σ π Γ} {fuel : Nat}
    (known : ∀ β name s labels r, (callees β name).Logs fuel s labels r →
      Performs defs (.call name) s labels r)
    {s : State σ π} {labels : List ω} {r : Reply σ π α}
    (h : (g.parserIn .logging callees).Logs fuel s labels r) : Performs defs g s labels r := by
  induction g generalizing s labels with
  | primitive p =>
      rw [parserIn, Primitive.parser_eq] at h
      rcases Parser.logs_compute.mp h with ⟨rfl, rfl⟩
      exact .primitive p s
  | getState =>
      rcases Parser.logs_compute.mp h with ⟨rfl, rfl⟩
      exact .getState s
  | lift label value =>
      rcases Parser.logs_lift.mp h with ⟨rfl, rfl⟩
      exact .lift label value s
  | wrap w g ih =>
      rw [parserIn, Wrapping.around_eq] at h
      rcases Parser.logs_revise.mp h with ⟨r, inner, rfl⟩
      exact .wrap w (ih known inner)
  | andThen g k ihg ihk =>
      rcases Parser.logs_andThen.mp h with
        ⟨a, t, before, after, first, second, rfl⟩ | ⟨e, t, first, rfl⟩
      · exact .andThen (ihg known first) (ihk a known second)
      · exact .andThenError (ihg known first)
  | orElse g h ihg ihh =>
      rcases Parser.logs_orElse.mp h with
        ⟨first, kept⟩ | ⟨r', before, after, first, recoverable, second, rfl⟩
      · exact .orElseFirst (ihg known first) kept
      · exact .orElseSecond (ihg known first) recoverable (ihh known second)
  | many g ih =>
      rcases Parser.logs_many.mp h with ⟨rounds, -, each, gathers, rfl⟩
      exact .many (fun x hx => ih known (each x hx)) gathers
  | rules define i ih =>
      -- Each approximation follows the rules, because it calls the one before.
      have approximations : ∀ depth i s labels r,
          (Parser.approxRules (fun callee i => (define i).parserIn .logging
            (callees.bind callee)) depth i).Logs fuel s labels r →
          Performs (defs.family define) (define i) s labels r := by
        intro depth
        induction depth with
        | zero => exact fun _ _ _ _ none => (Logged.not_ends_failure none).elim
        | succ depth before =>
            intro i s labels r h
            refine ih i (fun β name s labels r logs => ?_) h
            cases name with
            | here i => exact .here (before i s labels r logs)
            | there name => exact .there (known β name s labels r logs)
      exact .rules (approximations fuel i s labels r h)
  | call name => exact known _ name s labels r h

/-! ## Enough fuel -/

/-- Parsers for the rules in scope that unfold the definitions at least so often. -/
inductive Unfolds (least : Nat) :
    {Γ : Families} → Definitions σ τ π ω Γ → Callees (Logged ω) σ π Γ → Prop where
  | none : Unfolds least .none .none
  | family {Γ : Families} {ι α : Type} {defs : Definitions σ τ π ω Γ}
      {callees : Callees (Logged ω) σ π Γ} {define : ι → Phrase σ τ π ω ((ι, α) :: Γ) α}
      (outer : Unfolds least defs callees) {depth : Nat} (deep : least ≤ depth) :
      Unfolds least (defs.family define) (callees.bind (Parser.approxRules
        (fun callee i => (define i).parserIn .logging (callees.bind callee)) depth))

theorem Unfolds.mono {defs : Definitions σ τ π ω Γ} {callees : Callees (Logged ω) σ π Γ}
    {least least' : Nat} (h : Unfolds least' defs callees) (le : least ≤ least') :
    Unfolds least defs callees := by
  induction h with
  | none => exact .none
  | family outer deep ih => exact .family ih (Nat.le_trans le deep)

/-- With this much fuel, and with definitions unfolded this often, every run logs these labels and
ends in this reply. -/
def Reached (defs : Definitions σ τ π ω Γ) (g : Phrase σ τ π ω Γ α) (s : State σ π)
    (labels : List ω) (r : Reply σ π α) (least : Nat) : Prop :=
  ∀ fuel, least ≤ fuel → ∀ callees, Unfolds least defs callees →
    (g.parserIn .logging callees).Logs fuel s labels r

theorem Reached.mono {defs : Definitions σ τ π ω Γ} {g : Phrase σ τ π ω Γ α} {s : State σ π}
    {labels : List ω} {r : Reply σ π α} {least least' : Nat}
    (h : Reached defs g s labels r least) (le : least ≤ least') :
    Reached defs g s labels r least' :=
  fun fuel enough callees unfolds => h fuel (Nat.le_trans le enough) callees (unfolds.mono le)

/-- There is enough fuel for all of finitely many runs. -/
theorem exists_reached_forall {defs : Definitions σ τ π ω Γ} {g : Phrase σ τ π ω Γ α}
    {rounds : List (Round σ π ω α)}
    (each : ∀ x ∈ rounds, ∃ least,
      Reached defs g (x.entry.withConsumed false) x.labels x.reply least) :
    ∃ least, ∀ x ∈ rounds,
      Reached defs g (x.entry.withConsumed false) x.labels x.reply least := by
  induction rounds with
  | nil => exact ⟨0, nofun⟩
  | cons x rounds ih =>
      rcases List.forall_mem_cons.mp each with ⟨⟨least, first⟩, each⟩
      rcases ih each with ⟨least', rest⟩
      refine ⟨max least least', List.forall_mem_cons.mpr ⟨first.mono (Nat.le_max_left _ _), ?_⟩⟩
      exact fun y hy => (rest y hy).mono (Nat.le_max_right _ _)

/-- What the rules say is what every run does that has enough fuel. -/
theorem Performs.exists_reached {defs : Definitions σ τ π ω Γ} {g : Phrase σ τ π ω Γ α}
    {s : State σ π} {labels : List ω} {r : Reply σ π α} (h : Performs defs g s labels r) :
    ∃ least, Reached defs g s labels r least := by
  induction h with
  | primitive p s =>
      refine ⟨0, fun fuel _ callees _ => ?_⟩
      rw [Phrase.parserIn, Primitive.parser_eq]
      exact Parser.logs_compute.mpr ⟨rfl, rfl⟩
  | getState s => exact ⟨0, fun fuel _ callees _ => Parser.logs_compute.mpr ⟨rfl, rfl⟩⟩
  | lift label value s =>
      exact ⟨0, fun fuel _ callees _ => Parser.logs_lift.mpr ⟨rfl, rfl⟩⟩
  | wrap w _ ih =>
      rcases ih with ⟨least, inner⟩
      refine ⟨least, fun fuel enough callees unfolds => ?_⟩
      rw [Phrase.parserIn, Wrapping.around_eq]
      exact Parser.logs_revise.mpr ⟨_, inner fuel enough callees unfolds, rfl⟩
  | andThen _ _ ihg ihk =>
      rcases ihg with ⟨least, first⟩
      rcases ihk with ⟨least', second⟩
      have first := first.mono (Nat.le_max_left least least')
      have second := second.mono (Nat.le_max_right least least')
      refine ⟨max least least', fun fuel enough callees unfolds => ?_⟩
      exact Parser.logs_andThen.mpr (.inl ⟨_, _, _, _, first fuel enough callees unfolds,
        second fuel enough callees unfolds, rfl⟩)
  | andThenError _ ih =>
      rcases ih with ⟨least, first⟩
      refine ⟨least, fun fuel enough callees unfolds => ?_⟩
      exact Parser.logs_andThen.mpr (.inr ⟨_, _, first fuel enough callees unfolds, rfl⟩)
  | orElseFirst _ kept ih =>
      rcases ih with ⟨least, first⟩
      refine ⟨least, fun fuel enough callees unfolds => ?_⟩
      exact Parser.logs_orElse.mpr (.inl ⟨first fuel enough callees unfolds, kept⟩)
  | orElseSecond _ recoverable _ ihg ihh =>
      rcases ihg with ⟨least, first⟩
      rcases ihh with ⟨least', second⟩
      have first := first.mono (Nat.le_max_left least least')
      have second := second.mono (Nat.le_max_right least least')
      refine ⟨max least least', fun fuel enough callees unfolds => ?_⟩
      exact Parser.logs_orElse.mpr (.inr ⟨_, _, _, first fuel enough callees unfolds,
        recoverable, second fuel enough callees unfolds, rfl⟩)
  | many _ gathers ih =>
      rename_i rounds r _
      rcases exists_reached_forall ih with ⟨least, each⟩
      -- The fuel also bounds the number of rounds.
      refine ⟨max least rounds.length, fun fuel enough callees unfolds => ?_⟩
      have few : rounds.length ≤ fuel := Nat.le_trans (Nat.le_max_right _ _) enough
      refine Parser.logs_many.mpr ⟨rounds, few, ?_, gathers, rfl⟩
      exact fun x hx => (each x hx).mono (Nat.le_max_left _ _) fuel enough callees unfolds
  | rules _ ih =>
      rcases ih with ⟨least, body⟩
      refine ⟨least + 1, fun fuel enough callees unfolds => ?_⟩
      obtain ⟨depth, rfl⟩ := Nat.exists_eq_add_of_le' (Nat.one_le_of_lt enough)
      exact body (depth + 1) (Nat.le_of_succ_le enough) _
        ((unfolds.mono (Nat.le_succ least)).family (Nat.le_of_succ_le_succ enough))
  | here _ ih =>
      rcases ih with ⟨least, body⟩
      refine ⟨least + 1, fun fuel enough callees unfolds => ?_⟩
      cases unfolds with
      | family outer deep =>
          obtain ⟨depth, rfl⟩ := Nat.exists_eq_add_of_le' (Nat.one_le_of_lt deep)
          exact body fuel (Nat.le_of_succ_le enough) _
            ((outer.mono (Nat.le_succ least)).family (Nat.le_of_succ_le_succ deep))
  | there _ ih =>
      rcases ih with ⟨least, outer⟩
      refine ⟨least, fun fuel enough callees unfolds => ?_⟩
      cases unfolds with
      | family unfolds deep => exact outer fuel enough _ unfolds

/-- Definitions can be unfolded as often as wanted. -/
theorem exists_unfolds (defs : Definitions σ τ π ω Γ) (least : Nat) :
    ∃ callees : Callees (Logged ω) σ π Γ, Unfolds least defs callees := by
  induction defs with
  | none => exact ⟨.none, .none⟩
  | family outer define ih =>
      rcases ih with ⟨callees, unfolds⟩
      exact ⟨_, unfolds.family (Nat.le_refl least)⟩

/-- The rules determine the labels and the reply. -/
theorem Performs.unique {defs : Definitions σ τ π ω Γ} {g : Phrase σ τ π ω Γ α} {s : State σ π}
    {labels labels' : List ω} {r r' : Reply σ π α} (h : Performs defs g s labels r)
    (h' : Performs defs g s labels' r') : labels = labels' ∧ r = r' := by
  rcases h.exists_reached with ⟨least, reached⟩
  rcases h'.exists_reached with ⟨least', reached'⟩
  rcases exists_unfolds defs (max least least') with ⟨callees, unfolds⟩
  have run := reached.mono (Nat.le_max_left _ _) _ (Nat.le_refl _) callees unfolds
  have run' := reached'.mono (Nat.le_max_right _ _) _ (Nat.le_refl _) callees unfolds
  rcases Logged.mk.inj (run.symm.trans run') with ⟨rfl, value⟩
  exact ⟨rfl, Option.some.inj value⟩

/-! ## Phrases that need no rules from outside -/

variable {g : Phrase σ τ π ω [] α} {s : State σ π} {labels : List ω} {r : Reply σ π α}

/-- A run that ends follows the rules. -/
theorem Phrase.performs_of_parser_logs {fuel : Nat}
    (h : (g.parser .logging).Logs fuel s labels r) : Performs .none g s labels r :=
  g.performs_of_logs (fun _ name => nomatch name) h

/-- What the rules say is what every run with enough fuel does. -/
theorem Performs.exists_logs (h : Performs .none g s labels r) :
    ∃ least, ∀ fuel, least ≤ fuel → (g.parser .logging).Logs fuel s labels r := by
  rcases h.exists_reached with ⟨least, reached⟩
  exact ⟨least, fun fuel enough => reached fuel enough .none .none⟩

/-! ## Runs without effects -/

/-- Performs a labelled computation by giving its value. -/
def Handler.plain : Handler Id ω :=
  fun _ _ value => value

/-- Forgets what has been logged. -/
def forgetting : Translation (Logged ω) Id where
  apply x := x.value
  apply_pure _ := rfl
  apply_bind _ _ := rfl

namespace Phrase

/-- The run without effects is the run that keeps a log, with the log forgotten. -/
theorem translated_plain (g : Phrase σ τ π ω [] α) :
    (g.parser .logging).Translated forgetting (g.parser .plain) :=
  g.translated fun _ _ _ => rfl

/-- Where the run without effects ends, the run that keeps a log ends in the same reply. -/
theorem exists_logs_of_delivers {fuel : Nat} (h : (g.parser .plain).Delivers fuel s r) :
    ∃ labels, (g.parser .logging).Logs fuel s labels r := by
  have forgotten : ((g.parser .plain).parse fuel s).run =
      ((g.parser .logging).parse fuel s).run.value := g.translated_plain.run_eq fuel s
  rcases logged : ((g.parser .logging).parse fuel s).run with ⟨labels, value⟩
  rw [logged] at forgotten
  refine ⟨labels, logged.trans (congrArg (Logged.mk labels) ?_)⟩
  have ends : Outcome.ofExcept (.ok ((g.parser .plain).parse fuel s).run) =
    (.delivered r : Outcome Empty (Reply σ π α)) := h
  rw [forgotten] at ends
  cases value with
  | none => cases ends
  | some r' => exact congrArg some (Outcome.delivered.inj ends)

/-- Where the run without effects ends, it follows the rules. -/
theorem exists_performs_of_delivers {fuel : Nat} (h : (g.parser .plain).Delivers fuel s r) :
    ∃ labels, Performs .none g s labels r := by
  rcases exists_logs_of_delivers h with ⟨labels, logs⟩
  exact ⟨labels, performs_of_parser_logs logs⟩

/-- What the rules say is what every run that keeps a log comes to. -/
theorem yields_of_performs (h : Performs .none g s labels r) :
    (g.parser .logging).Yields s ⟨labels, r⟩ := by
  rcases h.exists_logs with ⟨least, logs⟩
  refine ⟨least, fun fuel enough => (logs fuel enough).trans ?_⟩
  exact congrArg (Logged.mk · (some r)) (List.append_nil labels).symm

end Phrase

end Descent
