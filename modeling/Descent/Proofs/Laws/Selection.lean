import Descent.Host.Resumption
import Descent.Proofs.Laws.Division

/-!
# Selections one after the other

Each selection of a chain goes back to the state that it was entered with itself.  But all of them
are entered with one state, because a selection runs its parser first; and a rejection is a failure,
which the selections around it pass on.  So a chain of selections judges a value once, and what it
says of a rejected value is what the first stage that rejects it says.

Main definitions:

- `Stages`: selections that are made one after the other, and `Stages.chain`, their chain.
- `Stages.judge`: what all stages together make of a value.
- `Reply.examine`: what a judgement makes of a reply.

Main results:

- Theorem `Stages.chain_eq_revise`: a chain is one wrapper, which judges the value of its parser.
- Theorem `Stages.judge_eq_error_iff`: a rejected value is rejected by the first stage that does so.
- Theorem `Stages.chain_eq_filterMap`: stages that reject with one message are one selection.
- Theorem `chained_selections_collapse`: chains, and what else a selection can be put together with.
-/

namespace Descent

variable {m : Type → Type} {σ π α β γ δ : Type}

/-! ## Stages -/

/-- Selections that are made one after the other, each with the message of its rejections. -/
inductive Stages : Type → Type → Type 1 where
  | done {α : Type} : Stages α α
  | stage {α β γ : Type} (decide : α → Option β) (message : String) (later : Stages β γ) :
      Stages α γ

namespace Stages

/-- The value that the last stage keeps, or the message of the first stage that rejects. -/
def judge {α β : Type} : Stages α β → α → Except String β
  | done, value => .ok value
  | stage decide message later, value =>
      match decide value with
      | some kept => later.judge kept
      | none => .error message

@[simp]
theorem judge_done (value : α) : (done : Stages α α).judge value = .ok value :=
  rfl

theorem judge_stage_of_some {decide : α → Option β} {value : α} {kept : β}
    (h : decide value = some kept) (message : String) (later : Stages β γ) :
    (stage decide message later).judge value = later.judge kept := by
  simp [judge, h]

theorem judge_stage_of_none {decide : α → Option β} {value : α} (h : decide value = none)
    (message : String) (later : Stages β γ) :
    (stage decide message later).judge value = .error message := by
  simp [judge, h]

/-- The stages of the one and then those of the other. -/
def append {α β γ : Type} : Stages α β → Stages β γ → Stages α γ
  | done, after => after
  | stage decide message later, after => stage decide message (later.append after)

/-- What is kept by the first stages is judged by those behind them. -/
theorem judge_append_of_ok {before : Stages α β} {value : α} {kept : β}
    (h : before.judge value = .ok kept) (after : Stages β γ) :
    (before.append after).judge value = after.judge kept := by
  induction before with
  | done =>
      have same := Except.ok.inj h
      rw [append, same]
  | stage decide message later ih =>
      cases passed : decide value with
      | none => simp [judge_stage_of_none passed] at h
      | some next =>
          rw [judge_stage_of_some passed] at h
          rw [append, judge_stage_of_some passed]
          exact ih h after

/-- A value is rejected with the message of a stage that it comes to, past all stages before it, and
that rejects it. -/
theorem judge_eq_error_iff {stages : Stages α β} {value : α} {message : String} :
    stages.judge value = .error message ↔
      ∃ (γ δ : Type) (before : Stages α γ) (decide : γ → Option δ) (after : Stages δ β)
        (passed : γ), stages = before.append (stage decide message after) ∧
          before.judge value = .ok passed ∧ decide passed = none := by
  constructor
  · intro rejects
    -- The first stage rejects the value itself, or hands what it keeps to the stages behind it.
    induction stages with
    | done => simp at rejects
    | stage decide first later ih =>
        cases kept : decide value with
        | none =>
            rw [judge_stage_of_none kept] at rejects
            obtain rfl := Except.error.inj rejects
            exact ⟨_, _, done, decide, later, value, rfl, rfl, kept⟩
        | some next =>
            rw [judge_stage_of_some kept] at rejects
            obtain ⟨_, _, before, last, after, passed, rfl, passes, rejected⟩ := ih rejects
            refine ⟨_, _, stage decide first before, last, after, passed, rfl, ?_, rejected⟩
            rw [judge_stage_of_some kept, passes]
  · rintro ⟨_, _, before, decide, after, passed, rfl, passes, rejected⟩
    rw [judge_append_of_ok passes, judge_stage_of_none rejected]

/-- The selections around a parser, the first stage next to it. -/
def chain [Monad m] {α β : Type} : Stages α β → Parser m σ π α → Parser m σ π β
  | done, p => p
  | stage decide message later, p => later.chain (p.filterMap decide message)

end Stages

/-! ## Judged replies -/

/-- Judges the value of a reply; a rejected value is an error at the entry, and goes back there. -/
def Reply.examine (judge : α → Except String β) (entry : State σ π) (reply : Reply σ π α) :
    Reply σ π β :=
  match reply.result with
  | .error e => .error e reply.state
  | .ok value =>
      match judge value with
      | .ok kept => .ok kept reply.state
      | .error message => .errorHere message entry

namespace Reply

@[simp]
theorem examine_error (judge : α → Except String β) (entry s : State σ π) (e : ParseError π) :
    examine judge entry (error e s) = error e s :=
  rfl

theorem examine_ok_of_ok {judge : α → Except String β} {value : α} {kept : β}
    (h : judge value = .ok kept) (entry s : State σ π) :
    examine judge entry (ok value s) = ok kept s := by
  simp [examine, ok, h]

theorem examine_ok_of_error {judge : α → Except String β} {value : α} {message : String}
    (h : judge value = .error message) (entry s : State σ π) :
    examine judge entry (ok value s) = errorHere message entry := by
  simp [examine, ok, h]

/-- A judgement that keeps every value as it is changes nothing. -/
theorem examine_done (entry : State σ π) (reply : Reply σ π α) :
    examine Stages.done.judge entry reply = reply := by
  cases reply with
  | ok value t => exact examine_ok_of_ok (Stages.judge_done value) entry t
  | error e t => exact examine_error _ entry t e

/-- A value that the first stage keeps is left to the later ones, and its rejections are failures to
them; all of them go back to one entry. -/
theorem examine_select (decide : α → Option β) (message : String) (later : Stages β γ)
    (entry : State σ π) (reply : Reply σ π α) :
    examine later.judge entry (reply.select decide message entry) =
      examine (Stages.stage decide message later).judge entry reply := by
  cases reply with
  | error e t => simp
  | ok value t =>
      cases kept : decide value with
      | none =>
          have rejects := Stages.judge_stage_of_none kept message later
          rw [select_ok_of_none message entry t kept, examine_ok_of_error rejects]
          exact examine_error _ entry entry _
      | some next =>
          have passes := Stages.judge_stage_of_some kept message later
          rw [select_ok_of_some message entry t kept]
          cases judged : later.judge next with
          | ok last => rw [examine_ok_of_ok judged, examine_ok_of_ok (passes.trans judged)]
          | error first =>
              rw [examine_ok_of_error judged, examine_ok_of_error (passes.trans judged)]

/-- Judgements that reject with one message are a partial function with this message. -/
theorem examine_eq_select {judge : α → Except String β} {message : String}
    (one : ∀ value first, judge value = .error first → first = message) (entry : State σ π)
    (reply : Reply σ π α) :
    examine judge entry reply =
      reply.select (fun value => (judge value).toOption) message entry := by
  cases reply with
  | error e t => simp
  | ok value t =>
      cases judged : judge value with
      | ok kept =>
          rw [examine_ok_of_ok judged]
          simp [select, ok, judged, Except.toOption]
      | error first =>
          rw [examine_ok_of_error judged, one value first judged]
          simp [select, ok, judged, Except.toOption]

/-- Selecting from changed values is selecting from the values, changed before they are decided. -/
theorem select_map (f : α → β) (decide : β → Option γ) (message : String) (entry : State σ π)
    (reply : Reply σ π α) :
    (reply.map f).select decide message entry = reply.select (decide ∘ f) message entry := by
  cases reply with
  | error e t => simp
  | ok value t => rfl

end Reply

/-! ## Chains -/

section Lawful

variable [Monad m] [LawfulMonad m]

/-- A chain of selections judges the value of its parser, and goes back to where that one began. -/
theorem Stages.chain_eq_revise (stages : Stages α β) (p : Parser m σ π α) :
    stages.chain p = p.revise (Reply.examine stages.judge) := by
  induction stages with
  | done => exact (Parser.revise_eq_self p Reply.examine_done).symm
  | stage decide message later ih =>
      rw [chain, ih, Parser.filterMap]
      exact Parser.revise_revise_eq p (Reply.examine_select decide message later)

/-- A chain whose stages reject with one message is one selection. -/
theorem Stages.chain_eq_filterMap {stages : Stages α β} {message : String}
    (one : ∀ value first, stages.judge value = .error first → first = message)
    (p : Parser m σ π α) :
    stages.chain p = p.filterMap (fun value => (stages.judge value).toOption) message := by
  have same : Reply.examine stages.judge =
      (Reply.select (fun value => (stages.judge value).toOption) message :
        State σ π → Reply σ π α → Reply σ π β) :=
    funext fun entry => funext fun reply => Reply.examine_eq_select one entry reply
  rw [Stages.chain_eq_revise, same, Parser.filterMap]

namespace Parser

/-- A selection from mapped values. -/
theorem filterMap_map (f : α → β) (p : Parser m σ π α) (decide : β → Option γ) (message : String) :
    (p.map f).filterMap decide message = p.filterMap (decide ∘ f) message :=
  revise_revise_eq p (Reply.select_map f decide message)

/-- Two selections with one message. -/
theorem filterMap_filterMap (p : Parser m σ π α) (first : α → Option β) (second : β → Option γ)
    (message : String) :
    (p.filterMap first message).filterMap second message =
      p.filterMap (fun value => (first value).bind second) message := by
  let stages : Stages α γ := .stage first message (.stage second message .done)
  have judged (value : α) :
      stages.judge value = ((first value).bind second).elim (.error message) .ok := by
    cases kept : first value with
    | none => simp [stages, Stages.judge, kept]
    | some next =>
        cases last : second next with
        | none => simp [stages, Stages.judge, kept, last]
        | some value => simp [stages, Stages.judge, kept, last]
  have one (value : α) (other : String) (rejects : stages.judge value = .error other) :
      other = message := by
    rw [judged] at rejects
    cases kept : (first value).bind second with
    | none => simpa [kept, eq_comm] using rejects
    | some last => simp [kept] at rejects
  have composed : (fun value => (stages.judge value).toOption) =
      fun value => (first value).bind second := by
    funext value
    rw [judged]
    cases (first value).bind second with
    | none => rfl
    | some last => rfl
  have chained := stages.chain_eq_filterMap one p
  rw [composed] at chained
  exact chained

/-- A chain of selections passes the failures of its parser on, keeps a value that all stages keep
in the state that the parser reached, and rejects every other value where the parser began, with the
message of the first stage that rejects it; in particular the effects of the host are those of the
parser.  A predicate is a partial function that keeps the values it holds of, missing values are
rejected by the identity, mapped values can be mapped in the selection, before or after they are
decided, and two selections with one message are one. -/
theorem chained_selections_collapse :
    (∀ (stages : Stages α β) (p : Parser m σ π α) (fuel : Nat) (s : State σ π),
      (stages.chain p).parse fuel s =
        (fun reply : Reply σ π α =>
          match reply.result with
          | .error e => .error e reply.state
          | .ok value =>
              match stages.judge value with
              | .ok kept => .ok kept reply.state
              | .error message => .error ⟨message, s.position⟩ s) <$> p.parse fuel s) ∧
      (∀ (stages : Stages α β) (value : α) (message : String),
        stages.judge value = .error message ↔
          ∃ (γ δ : Type) (before : Stages α γ) (decide : γ → Option δ) (after : Stages δ β)
            (passed : γ), stages = before.append (.stage decide message after) ∧
              before.judge value = .ok passed ∧ decide passed = none) ∧
      (∀ (p : Parser m σ π α) (accept : α → Bool) (message : String),
        p.filter accept message = p.filterMap (Option.guard accept) message) ∧
      (∀ q : Parser m σ π (Option α),
        q.compact = q.filterMap id "compact: parsed value was absent") ∧
      (∀ (p : Parser m σ π α) (f : α → β) (decide : β → Option γ) (message : String),
        (p.map f).filterMap decide message = p.filterMap (decide ∘ f) message) ∧
      (∀ (p : Parser m σ π α) (decide : α → Option β) (f : β → γ) (message : String),
        (p.filterMap decide message).map f =
          p.filterMap (fun value => (decide value).map f) message) ∧
      ∀ (p : Parser m σ π α) (first : α → Option β) (second : β → Option γ) (message : String),
        (p.filterMap first message).filterMap second message =
          p.filterMap (fun value => (first value).bind second) message := by
  refine ⟨fun stages p fuel s => ?_, fun stages value message => Stages.judge_eq_error_iff,
    fun p accept message => rfl, fun q => rfl, fun p f decide => filterMap_map f p decide,
    fun p decide f => map_filterMap f p decide, filterMap_filterMap⟩
  rw [stages.chain_eq_revise]
  rfl

end Parser

end Lawful

namespace Parser

/-- An item, and another one behind two suspensions. -/
def pausedItems : Parser Resumption Text LineColumn Char :=
  anyItem.seqRight ((lift (Resumption.suspend 2)).seqRight anyItem)

/-- The number that a digit stands for. -/
def digit? (c : Char) : Option Nat :=
  if c.isDigit then some (c.toNat - '0'.toNat) else none

/-- The half of an even number. -/
def half? (n : Nat) : Option Nat :=
  if n % 2 = 0 then some (n / 2) else none

/-- A digit that stands for an even number, halved. -/
def halfDigit : Stages Char Nat :=
  .stage digit? "expected a digit" (.stage half? "expected an even number" .done)

/-- An odd digit passes the first stage and not the second one: after both suspensions the chain
fails before the two items, with the flag as it was.  An even digit is halved, and a letter does not
come to the second stage. -/
theorem chained_selections_collapse_halfDigit :
    ((halfDigit.chain pausedItems).parse 0 ⟨⟨['x', '7']⟩, ⟨1, 4⟩, true⟩).run.complete =
        (2, some (.error ⟨"expected an even number", ⟨1, 4⟩⟩ ⟨⟨['x', '7']⟩, ⟨1, 4⟩, true⟩)) ∧
      ((halfDigit.chain pausedItems).parse 0 ⟨⟨['x', '6']⟩, ⟨1, 4⟩, false⟩).run.complete =
        (2, some (.ok 3 ⟨⟨[]⟩, ⟨1, 6⟩, true⟩)) ∧
      ((halfDigit.chain pausedItems).parse 0 ⟨⟨['x', 'y']⟩, ⟨1, 4⟩, false⟩).run.complete =
        (2, some (.error ⟨"expected a digit", ⟨1, 4⟩⟩ ⟨⟨['x', 'y']⟩, ⟨1, 4⟩, false⟩)) := by
  have judged := (chained_selections_collapse (m := Resumption) (σ := Text) (π := LineColumn)
    (α := Char) (β := Nat) (γ := Nat)).1 halfDigit pausedItems 0
  rw [judged, judged, judged]
  exact ⟨rfl, rfl, rfl⟩

end Parser

end Descent
