import Descent.Proofs.Phrase.Trail
import Mathlib.Logic.ExistsUnique

/-!
# Every run leaves one trail

Only runs leave trails, and a run leaves at most one.  In a fragment of the library that neither
puts states in place nor sets the flag, every run that succeeds leaves its trail.  The runs that
fail do so too, except that an attempt takes the flag back without going back itself, and that a
repetition does not keep the flag for what it has collected.

Main definitions:

- `Leaves.Parts`: what a run with its trail is made of.
- `Definitions.Within`: definitions that are built from a fragment of the library.
- `Fragment.Follows`: the replies whose runs leave trails.

Main results:

- Theorem `Leaves.unique`: a run leaves one trail.
- Theorem `Performs.exists_leaves`: runs leave trails.
- Theorem `Phrase.existsUnique_leaves`: where a run without effects ends, it leaves its trail.
- Theorem `Leaves.not_isStale`: only choices make reset points.
-/

namespace Descent

variable {σ τ π ω α β : Type} {Γ : Families} {s : State σ π}

section

variable [Input σ τ π] {defs : Definitions σ τ π ω Γ}

/-! ## Trails are left by runs -/

/-- The rounds that gather a list also gather it behind what was collected earlier. -/
theorem Gathers.behind {items values : List α} {s t : State σ π} {rounds : List (Round σ π ω α)}
    (h : Gathers items s rounds (.ok values t)) (earlier : List α) :
    Gathers (items ++ earlier) s rounds (.ok (earlier.reverse ++ values) t) := by
  generalize reply : Reply.ok values t = r at h
  induction h with
  | stop stops =>
      rcases reply with rfl
      rcases Parser.nextRound_eq_done_ok stops with ⟨⟨e, u, rfl, clear⟩, rfl, rfl⟩
      refine .stop ?_
      rw [Reply.nextRound_error_of_not_consumed _ _ _ clear, List.reverse_append]
  | next goesOn _ ih =>
      rcases Parser.nextRound_eq_next goesOn with ⟨a, u, rfl, consumed, seed⟩
      rcases Prod.mk.inj seed with ⟨rfl, rfl⟩
      exact .next (Reply.nextRound_ok_of_consumed _ _ a consumed) (ih reply)

/-- The rounds of a phrase that is a repetition.  This is told from the phrase, and not from its
type: that two types of lists are the same does not make their items the same. -/
def Phrase.HasRounds (defs : Definitions σ τ π ω Γ) :
    {α : Type} → Phrase σ τ π ω Γ α → State σ π → Reply σ π α → Prop
  | _, .many g, s, r => ∃ rounds : List (Round σ π ω _),
      (∀ x ∈ rounds, Performs defs g (x.entry.withConsumed false) x.labels x.reply) ∧
        Gathers [] s rounds r
  | _, _, _, _ => True

namespace Performs

variable {g : Phrase σ τ π ω Γ α}

/-- A repetition goes through rounds. -/
theorem exists_rounds {labels : List ω} {r : Reply σ π (List α)}
    (h : Performs defs (.many g) s labels r) : ∃ rounds : List (Round σ π ω α),
      (∀ x ∈ rounds, Performs defs g (x.entry.withConsumed false) x.labels x.reply) ∧
        Gathers [] s rounds r := by
  have inverted {β : Type} {h : Phrase σ τ π ω Γ β} {r : Reply σ π β}
      (performs : Performs defs h s labels r) : h.HasRounds defs s r := by
    cases performs with
    | many each gathers => exact ⟨_, each, gathers⟩
    | _ => trivial
  exact inverted h

/-- A round that fails without reading ends a repetition where the round began. -/
theorem manyStop {labels : List ω} {t : State σ π} {e : ParseError π}
    (round : Performs defs g (s.withConsumed false) labels (.error e t))
    (clear : t.consumed = false) : ∃ labels, Performs defs (.many g) s labels (.ok [] s) := by
  let rounds : List (Round σ π ω α) := [⟨s, labels, .error e t⟩]
  have each : ∀ x ∈ rounds, Performs defs g (x.entry.withConsumed false) x.labels x.reply :=
    List.forall_mem_singleton.mpr round
  exact ⟨_, .many each (.stop (Reply.nextRound_error_of_not_consumed [] s e clear))⟩

/-- A round that succeeds after reading comes before the rounds of the repetition behind it. -/
theorem manyNext {before after : List ω} {t u : State σ π} {a : α} {values : List α}
    (round : Performs defs g (s.withConsumed false) before (.ok a t))
    (consumed : t.consumed = true) (rest : Performs defs (.many g) t after (.ok values u)) :
    ∃ labels, Performs defs (.many g) s labels (.ok (a :: values) u) := by
  rcases rest.exists_rounds with ⟨rounds, each, gathers⟩
  let first : Round σ π ω α := ⟨s, before, .ok a t⟩
  have each : ∀ x ∈ first :: rounds,
      Performs defs g (x.entry.withConsumed false) x.labels x.reply :=
    List.forall_mem_cons.mpr ⟨round, each⟩
  have goesOn := Reply.nextRound_ok_of_consumed [] s a consumed
  exact ⟨_, .many each (.next goesOn (gathers.behind [a]))⟩

end Performs

namespace Leaves

variable {g : Phrase σ τ π ω Γ α} {r : Reply σ π α} {x : Trail τ}

/-- Only runs leave trails. -/
theorem performs (h : Leaves defs g s r x) : ∃ labels, Performs defs g s labels r := by
  induction h with
  | primitive p s _ => exact ⟨_, .primitive p s⟩
  | getState s => exact ⟨_, .getState s⟩
  | lift label value s => exact ⟨_, .lift label value s⟩
  | wrap w _ _ ih =>
      rcases ih with ⟨labels, inner⟩
      exact ⟨_, .wrap w inner⟩
  | wrapBack w inner _ => exact ⟨_, .wrap w inner⟩
  | andThen _ _ ihg ihk =>
      rcases ihg with ⟨before, first⟩
      rcases ihk with ⟨after, second⟩
      exact ⟨_, .andThen first second⟩
  | andThenError _ ih =>
      rcases ih with ⟨labels, first⟩
      exact ⟨_, .andThenError first⟩
  | orElseFirst _ kept ih =>
      rcases ih with ⟨labels, first⟩
      exact ⟨_, .orElseFirst first kept⟩
  | orElseSecond first recoverable _ ih =>
      rcases ih with ⟨labels, second⟩
      exact ⟨_, .orElseSecond first recoverable second⟩
  | manyStop round clear => exact round.manyStop clear
  | manyNext _ consumed _ ihg ihr =>
      rcases ihg with ⟨before, round⟩
      rcases ihr with ⟨after, rest⟩
      exact round.manyNext consumed rest
  | rules _ ih =>
      rcases ih with ⟨labels, body⟩
      exact ⟨_, .rules body⟩
  | here _ ih =>
      rcases ih with ⟨labels, body⟩
      exact ⟨_, .here body⟩
  | there _ ih =>
      rcases ih with ⟨labels, outer⟩
      exact ⟨_, .there outer⟩

/-- What a phrase leaves a trail with is what it performs. -/
theorem eq_of_performs {labels : List ω} {r' : Reply σ π α} (h : Leaves defs g s r x)
    (performs : Performs defs g s labels r') : r = r' := by
  rcases h.performs with ⟨_, own⟩
  exact (own.unique performs).2

/-- What a run with its trail is made of, told from the phrase as in `Phrase.HasRounds`. -/
def Parts : {Γ : Families} → Definitions σ τ π ω Γ → {α : Type} → Phrase σ τ π ω Γ α →
    State σ π → Reply σ π α → Trail τ → Prop
  | _, _, _, .primitive p, s, _, x => x = .sinceEntry (p.itemsRead s)
  | _, _, _, .getState, _, _, x => x = .sinceEntry []
  | _, _, _, .lift _ _, _, _, x => x = .sinceEntry []
  | _, defs, _, .wrap w g, s, _, x =>
      (∃ r, Leaves defs g s r x ∧ w.Keeps r) ∨
        ∃ labels r, Performs defs g s labels r ∧ w.Undoes r ∧ x = .sinceEntry []
  | _, defs, _, .andThen g k, s, r, x =>
      (∃ a t y z, Leaves defs g s (.ok a t) y ∧ Leaves defs (k a) t r z ∧ x = y.append z) ∨
        ∃ e t, Leaves defs g s (.error e t) x
  | _, defs, _, .orElse g h, s, r, x =>
      (∃ y, Leaves defs g (s.withConsumed false) r y ∧ r.isRecoverable = false ∧ x = y.restart) ∨
        ∃ labels r', Performs defs g (s.withConsumed false) labels r' ∧
          r'.isRecoverable = true ∧ Leaves defs h s r x
  | _, defs, _, .many g, s, _, x =>
      (∃ labels e t, Performs defs g (s.withConsumed false) labels (.error e t) ∧
        x = .sinceEntry []) ∨
        ∃ a t values u y z, Leaves defs g (s.withConsumed false) (.ok a t) y ∧
          Leaves defs (.many g) t (.ok values u) z ∧ x = y.append z
  | _, defs, _, .rules define i, s, r, x => Leaves (defs.family define) (define i) s r x
  | _, .family outer define, _, .call (.here i), s, r, x =>
      Leaves (outer.family define) (define i) s r x
  | _, .family outer _, _, .call (.there name), s, r, x => Leaves outer (.call name) s r x

theorem parts (h : Leaves defs g s r x) : Parts defs g s r x := by
  cases h with
  | primitive p _ _ => rfl
  | getState => rfl
  | lift => rfl
  | wrap w inner keeps => exact .inl ⟨_, inner, keeps⟩
  | wrapBack w inner undoes => exact .inr ⟨_, _, inner, undoes, rfl⟩
  | andThen first second => exact .inl ⟨_, _, _, _, first, second, rfl⟩
  | andThenError first => exact .inr ⟨_, _, first⟩
  | orElseFirst first kept => exact .inl ⟨_, first, kept, rfl⟩
  | orElseSecond first recoverable second => exact .inr ⟨_, _, first, recoverable, second⟩
  | manyStop round _ => exact .inl ⟨_, _, _, round, rfl⟩
  | manyNext round _ rest => exact .inr ⟨_, _, _, _, _, _, round, rest, rfl⟩
  | rules body => exact body
  | here body => exact body
  | there outer => exact outer

/-- A run leaves one trail. -/
theorem unique {r' : Reply σ π α} {x' : Trail τ} (h : Leaves defs g s r x)
    (h' : Leaves defs g s r' x') : x = x' := by
  replace h' := h'.parts
  induction h generalizing x' with
  | primitive => exact h'.symm
  | getState => exact h'.symm
  | lift => exact h'.symm
  | wrap w inner keeps ih =>
      rcases h' with ⟨r, inner', -⟩ | ⟨labels, r, inner', undoes, -⟩
      · exact ih inner'.parts
      · rcases inner.eq_of_performs inner' with rfl
        exact (undoes.not_keeps keeps).elim
  | wrapBack w inner undoes =>
      rcases h' with ⟨r, inner', keeps⟩ | ⟨labels, r, inner', -, rfl⟩
      · rcases inner'.eq_of_performs inner with rfl
        exact (undoes.not_keeps keeps).elim
      · rfl
  | andThen first _ ihg ihk =>
      rcases first.performs with ⟨_, performs⟩
      rcases h' with ⟨a, t, y, z, first', second', rfl⟩ | ⟨e, t, first'⟩
      · rcases Reply.ok_inj.mp (first'.eq_of_performs performs) with ⟨rfl, rfl⟩
        rw [ihg first'.parts, ihk second'.parts]
      · cases first'.eq_of_performs performs
  | andThenError first ih =>
      rcases first.performs with ⟨_, performs⟩
      rcases h' with ⟨a, t, y, z, first', -, -⟩ | ⟨e, t, first'⟩
      · cases first'.eq_of_performs performs
      · exact ih first'.parts
  | orElseFirst first kept ih =>
      rcases h' with ⟨y, first', -, rfl⟩ | ⟨labels, r', first', recoverable, -⟩
      · rw [ih first'.parts]
      · rw [first.eq_of_performs first', recoverable] at kept
        cases kept
  | orElseSecond first recoverable _ ih =>
      rcases h' with ⟨y, first', kept, -⟩ | ⟨labels, r', -, -, second'⟩
      · rw [first'.eq_of_performs first, recoverable] at kept
        cases kept
      · exact ih second'.parts
  | manyStop round _ =>
      rcases h' with ⟨labels, e, t, -, rfl⟩ | ⟨a, t, values, u, y, z, round', -, -⟩
      · rfl
      · cases round'.eq_of_performs round
  | manyNext round _ _ ihg ihr =>
      rcases round.performs with ⟨_, performs⟩
      rcases h' with ⟨labels, e, t, round', -⟩ | ⟨a, t, values, u, y, z, round', rest', rfl⟩
      · cases (performs.unique round').2
      · rcases Reply.ok_inj.mp (round'.eq_of_performs performs) with ⟨rfl, rfl⟩
        rw [ihg round'.parts, ihr rest'.parts]
  | rules _ ih => exact ih h'.parts
  | here _ ih => exact ih h'.parts
  | there _ ih => exact ih h'.parts

end Leaves

end

/-! ## Fragments -/

/-- All definitions in scope are built from the fragment. -/
def Definitions.Within (F : Fragment) : {Γ : Families} → Definitions σ τ π ω Γ → Prop
  | _, .none => True
  | _, .family outer define => outer.Within F ∧ ∀ i, (define i).Within F

/-- A fragment that neither puts states in place nor sets the flag. -/
structure Fragment.KeepsFlag (F : Fragment) : Prop where
  putState : ¬F.allows .putState
  setConsumed (consumed : Bool) : ¬F.allows (.setConsumed consumed)

variable {F : Fragment}

theorem Primitive.Within.not_isSetter {p : Primitive σ τ π α} (h : p.Within F)
    (keepsFlag : F.KeepsFlag) : ¬p.IsSetter := by
  cases p with
  | putState replacement => exact (keepsFlag.putState h).elim
  | setConsumed consumed => exact (keepsFlag.setConsumed consumed h).elim
  | _ => exact not_false

/-- The reply is one whose run leaves a trail: any success, and any failure in a fragment in which
failures are handed on with their flags. -/
def Fragment.Follows (F : Fragment) (r : Reply σ π α) : Prop :=
  (∃ a t, r = .ok a t) ∨ ¬F.allows .attempt ∧ ¬F.allows .many

theorem Fragment.Follows.of_error {e f : ParseError π} {s t : State σ π}
    (h : F.Follows (.error e s : Reply σ π α)) : F.Follows (.error f t : Reply σ π β) := by
  rcases h with ⟨a, u, succeeds⟩ | followed
  · cases succeeds
  · exact .inr followed

/-- A combinator whose reply is followed puts its parser back, or hands on a reply that is followed
too. -/
theorem Wrapping.Within.undoes_or_keeps {w : Wrapping σ π α β} {s : State σ π} {r : Reply σ π α}
    (h : w.Within F) (follows : F.Follows (w.change s r)) :
    w.Undoes r ∨ w.Keeps r ∧ F.Follows r := by
  by_cases undoes : w.Undoes r
  · exact .inl undoes
  · refine .inr ?_
    cases r with
    | ok a t =>
        refine ⟨?_, .inl ⟨a, t, rfl⟩⟩
        cases w with
        | notFollowedBy => exact (undoes trivial).elim
        | lookAhead => exact (undoes trivial).elim
        | attempt => exact ⟨a, t, rfl⟩
        | filterMap decide message => exact undoes
        | _ => trivial
    | error e t =>
        cases w with
        | notFollowedBy => exact (undoes trivial).elim
        | lookAhead => exact (undoes trivial).elim
        | attempt =>
            rcases follows with ⟨a, u, succeeds⟩ | ⟨noAttempt, -⟩
            · cases succeeds
            · exact (noAttempt h).elim
        | filterMap decide message => exact ⟨undoes, follows.of_error⟩
        | map f => exact ⟨trivial, follows.of_error⟩
        | mapError f => exact ⟨trivial, follows.of_error⟩
        | atStart => exact ⟨trivial, follows.of_error⟩
        | withSpan => exact ⟨trivial, follows.of_error⟩

variable [Input σ τ π] {defs : Definitions σ τ π ω Γ}

/-- The rounds of a repetition that succeeds leave their trails one behind the other. -/
theorem Gathers.exists_leaves {g : Phrase σ τ π ω Γ α} {items values : List α} {t : State σ π}
    {rounds : List (Round σ π ω α)} (h : Gathers items s rounds (.ok values t))
    (each : ∀ x ∈ rounds, Performs defs g (x.entry.withConsumed false) x.labels x.reply)
    (trails : ∀ x ∈ rounds, (∃ a u, x.reply = .ok a u) →
      ∃ y, Leaves defs g (x.entry.withConsumed false) x.reply y) :
    ∃ later y, values = items.reverse ++ later ∧ Leaves defs (.many g) s (.ok later t) y := by
  generalize reply : Reply.ok values t = r at h
  induction h with
  | stop stops =>
      rcases reply with rfl
      rcases Parser.nextRound_eq_done_ok stops with ⟨⟨e, u, rfl, clear⟩, rfl, rfl⟩
      have round := List.forall_mem_singleton.mp each
      exact ⟨[], _, (List.append_nil _).symm, .manyStop round clear⟩
  | next goesOn _ ih =>
      rcases Parser.nextRound_eq_next goesOn with ⟨a, u, rfl, consumed, seed⟩
      rcases Prod.mk.inj seed with ⟨rfl, rfl⟩
      rcases List.forall_mem_cons.mp each with ⟨-, each⟩
      rcases List.forall_mem_cons.mp trails with ⟨trail, trails⟩
      rcases trail ⟨a, u, rfl⟩ with ⟨x, round⟩
      rcases ih each trails reply with ⟨later, y, rfl, rest⟩
      refine ⟨a :: later, _, ?_, .manyNext round consumed rest⟩
      rw [List.reverse_cons, List.append_assoc, List.singleton_append]

/-- In a fragment that neither puts states in place nor sets the flag, every run that succeeds
leaves a trail, and so does every run that fails, but for attempts and repetitions. -/
theorem Performs.exists_leaves (keepsFlag : F.KeepsFlag) {g : Phrase σ τ π ω Γ α}
    {labels : List ω} {r : Reply σ π α} (h : Performs defs g s labels r) (known : defs.Within F)
    (within : g.Within F) (follows : F.Follows r) : ∃ x, Leaves defs g s r x := by
  induction h with
  | primitive p s => exact ⟨_, .primitive p s (within.not_isSetter keepsFlag)⟩
  | getState s => exact ⟨_, .getState s⟩
  | lift label value s => exact ⟨_, .lift label value s⟩
  | wrap w inner ih =>
      rcases within.1.undoes_or_keeps follows with undoes | ⟨keeps, follows⟩
      · exact ⟨_, .wrapBack w inner undoes⟩
      · rcases ih known within.2 follows with ⟨x, inner⟩
        exact ⟨x, .wrap w inner keeps⟩
  | andThen _ _ ihg ihk =>
      rcases ihg known within.1 (.inl ⟨_, _, rfl⟩) with ⟨x, first⟩
      rcases ihk known (within.2 _) follows with ⟨y, second⟩
      exact ⟨_, .andThen first second⟩
  | andThenError _ ih =>
      rcases ih known within.1 follows.of_error with ⟨x, first⟩
      exact ⟨x, .andThenError first⟩
  | orElseFirst _ kept ih =>
      rcases ih known within.2.1 follows with ⟨x, first⟩
      exact ⟨_, .orElseFirst first kept⟩
  | orElseSecond first recoverable _ _ ih =>
      rcases ih known within.2.2 follows with ⟨x, second⟩
      exact ⟨x, .orElseSecond first recoverable second⟩
  | many each gathers ih =>
      rcases follows with ⟨values, t, rfl⟩ | ⟨-, noMany⟩
      · have trails := gathers.exists_leaves each fun x hx succeeds =>
          ih x hx known within.2 (.inl succeeds)
        rcases trails with ⟨later, x, rfl, leaves⟩
        exact ⟨x, leaves⟩
      · exact (noMany within.1).elim
  | rules _ ih =>
      rcases ih ⟨known, within.2⟩ (within.2 _) follows with ⟨x, body⟩
      exact ⟨x, .rules body⟩
  | here _ ih =>
      rcases ih known (known.2 _) follows with ⟨x, body⟩
      exact ⟨x, .here body⟩
  | there _ ih =>
      rcases ih known.1 trivial follows with ⟨x, outer⟩
      exact ⟨x, .there outer⟩

/-- Where the run without effects of a phrase in such a fragment ends, it leaves its trail. -/
theorem Phrase.existsUnique_leaves {g : Phrase σ τ π ω [] α} (within : g.Within F)
    (keepsFlag : F.KeepsFlag) {fuel : Nat} {r : Reply σ π α}
    (h : (g.parser .plain).Delivers fuel s r) (follows : F.Follows r) :
    ∃! x, Leaves .none g s r x := by
  rcases exists_performs_of_delivers h with ⟨labels, performs⟩
  rcases performs.exists_leaves keepsFlag trivial within follows with ⟨x, leaves⟩
  exact ⟨x, leaves, fun y other => other.unique leaves⟩

/-- Without choices there are no reset points. -/
theorem Leaves.not_isStale (noChoice : ¬F.allows .orElse) {g : Phrase σ τ π ω Γ α}
    {r : Reply σ π α} {x : Trail τ} (h : Leaves defs g s r x) (known : defs.Within F)
    (within : g.Within F) : ¬x.IsStale := by
  have all : x = .sinceEntry x.items := by
    induction h with
    | primitive => rfl
    | getState => rfl
    | lift => rfl
    | wrap _ _ _ ih => exact ih known within.2
    | wrapBack => rfl
    | andThen _ _ ihg ihk =>
        rw [ihg known within.1, ihk known (within.2 _)]
        rfl
    | andThenError _ ih => exact ih known within.1
    | orElseFirst => exact (noChoice within.1).elim
    | orElseSecond => exact (noChoice within.1).elim
    | manyStop => rfl
    | manyNext _ _ _ ihg ihr =>
        rw [ihg known within.2, ihr known within]
        rfl
    | rules _ ih => exact ih ⟨known, within.2⟩ (within.2 _)
    | here _ ih => exact ih known (known.2 _)
    | there _ ih => exact ih known.1 trivial
  rw [all]
  exact nofun

end Descent
