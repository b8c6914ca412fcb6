import Descent.Proofs.Parser.Composition
import Descent.Proofs.Parser.Delivery

/-!
# Properties of where runs end

Many properties of parsers look only at the states that runs end in.  For these most of the
constructs are alike: a parser that stays where it is, a wrapper that only relabels the
replies of its parser, and a definition that is settled for each fuel need one argument each.

Main definitions:

- `ClosedOnStates`: what has to be shown of such a property.

Main results:

- Theorem `fuelwise_replies`: definitions keep what is said of each reply.
- Theorem `ClosedOnStates.closedUnder`: every construct keeps the property.
-/

namespace Descent

open Descent.Parser

variable {m : Type → Type} {σ τ π ε : Type} [Host m] [ImmediateHost m ε]

/-- What is said of each reply and of the state that its run began in is decided for each fuel. -/
theorem fuelwise_replies (Q : ∀ {α : Type}, State σ π → Reply σ π α → Prop) :
    Fuelwise fun (α : Type) (p : Parser m σ π α) => ∀ fuel s r, p.Delivers fuel s r → Q s r where
  never := fun _ _ _ h => (not_delivers_never h).elim
  fuelwise h fuel s r hr := by
    rcases h fuel with ⟨q, hq, same⟩
    have run : q.Delivers fuel s r := (delivers_congr (same s)).mp hr
    exact hq fuel s r run

variable [Input σ τ π]

/-- A property that holds of parsers that stay, is kept by wrappers that only relabel, and is
kept by each construct that does more. -/
structure ClosedOnStates (F : Fragment) (P : ParserProperty m σ π) : Prop where
  stays {α : Type} {p : Parser m σ π α} (h : p.Stays) : P α p
  putState (allowed : F.allows .putState) (replacement : State σ π) :
    P Unit (.putState replacement)
  setConsumed (consumed : Bool) (allowed : F.allows (.setConsumed consumed)) :
    P Unit (.setConsumed consumed)
  satisfy (accept : τ → Bool) (expected : String) : P τ (.satisfy accept expected)
  literal [BEq τ] (items : List τ) (expected : String) : P Unit (.literal items expected)
  relabel {α β : Type} {p : Parser m σ π α} {change : State σ π → Reply σ π α → Reply σ π β}
    (h : Relabels change) (hp : P α p) : P β (p.revise change)
  andThen {α β : Type} {p : Parser m σ π α} {k : α → Parser m σ π β} (hp : P α p)
    (hk : ∀ a, P β (k a)) : P β (p.andThen k)
  orElse {α : Type} {p q : Parser m σ π α} (allowed : F.allows .orElse) (hp : P α p)
    (hq : P α q) : P α (p.orElse q)
  many {α : Type} {p : Parser m σ π α} (allowed : F.allows .many) (hp : P α p) :
    P (List α) p.many
  attempt {α : Type} {p : Parser m σ π α} (allowed : F.allows .attempt) (hp : P α p) :
    P α p.attempt
  filterMap {α β : Type} {p : Parser m σ π α} (decide : α → Option β) (message : String)
    (hp : P α p) : P β (p.filterMap decide message)
  fuelwise : Fuelwise P

/-- Every construct keeps a property that is closed on states. -/
theorem ClosedOnStates.closedUnder {F : Fragment} {P : ParserProperty m σ π}
    (h : ClosedOnStates F P) : ClosedUnder F P where
  pure value := h.stays (stays_pure value)
  fail message := h.stays (stays_fail message)
  failAt _ message position := h.stays (stays_failAt message position)
  lift computation := h.stays (stays_lift computation)
  getState _ := h.stays stays_getState
  putState := h.putState
  position _ := h.stays stays_position
  setConsumed := h.setConsumed
  satisfy := h.satisfy
  literal := h.literal
  eof := h.stays stays_eof
  map f hp := h.relabel (relabels_map f) hp
  andThen := h.andThen
  orElse := h.orElse
  many := h.many
  notFollowedBy _ := h.stays (stays_notFollowedBy _)
  attempt := h.attempt
  lookAhead _ := h.stays (stays_lookAhead _)
  filterMap := h.filterMap
  mapError _ f hp := h.relabel (relabels_mapError fun _ => f) hp
  withMessage message hp := h.relabel (relabels_mapError fun _ e => e.reword message) hp
  atStart hp := h.relabel (relabels_mapError fun s e => e.relocate s.position) hp
  withSpan hp := h.relabel relabels_withSpan hp
  recursive _ body := h.fuelwise.recursive body
  rules _ body i := h.fuelwise.rules body i

end Descent
