import Descent.Grammar.Basic

/-!
# Sessions

A session walks one state through a list of commands: parsers that run on the current
state, direct changes to it, and snapshots that can be compared and gone back to.

Main definitions:

- `Parser.observe`: one run, seen from outside.
- `Command`, `Report`: what a session can do, and what it has to say besides its state.
- `Session.execute`: one command.
-/

namespace Descent

variable {m : Type → Type} {σ τ π : Type}

/-- Runs a parser on a state to the end: what can be seen of the host, and the reply,
unless the host failed or the fuel ran out. -/
def Parser.observe [Observable m] {α : Type} (p : Parser m σ π α) (fuel : Nat)
    (s : State σ π) : Trace × Option (Reply σ π α) :=
  let (trace, reply) := Observable.observe (p.parse fuel s).run
  (trace, reply.join)

/-- One command of a session. -/
inductive Command (σ π : Type) where
  /-- Runs a parser and goes on from the state it ended in. -/
  | parse (grammar : Grammar σ π)
  | setConsumed (consumed : Bool)
  | advance (input : σ) (position : π)
  /-- Reads one item. -/
  | next
  | isExhausted
  /-- Keeps the current state under a name. -/
  | save (name : String)
  /-- Goes back to the state that was last kept under a name. -/
  | restore (name : String)
  /-- Compares the current state with the one that was last kept under a name. -/
  | compare (name : String)
  /-- Takes the state apart and puts it together again, with nothing read. -/
  | rebuild

/-- What a command has to say besides the state it leads to. -/
inductive Report (σ π : Type) where
  | nothing
  | ran (trace : Trace) (result : Option (Except (ParseError π) (Value σ π)))
  | item (value : Option (Value σ π))
  | exhausted (answer : Bool)
  | same (answer : Bool)
  | parts (state : State σ π)

/-- The current state and the snapshots, the latest first. -/
structure Session (σ π : Type) where
  current : State σ π
  snapshots : List (String × State σ π) := []

namespace Session

/-- The same session in another state. -/
def moveTo (session : Session σ π) (state : State σ π) : Session σ π :=
  { session with current := state }

/-- Keeps the current state under a name. -/
def save (session : Session σ π) (name : String) : Session σ π :=
  { session with snapshots := (name, session.current) :: session.snapshots }

/-- The state that was last kept under a name. -/
def saved? (session : Session σ π) (name : String) : Option (State σ π) :=
  session.snapshots.lookup name

@[simp]
theorem saved?_save (session : Session σ π) (name : String) :
    (session.save name).saved? name = some session.current := by
  simp [save, saved?]

variable [Effects m] [Observable m] [Input σ τ π] [BEq τ] [Quoted τ] [Item τ]
variable [Position π] [Coordinates π] [BEq σ] [BEq π]

/-- Runs a parser on the current state; a host that fails leaves the state as it is. -/
def parse (session : Session σ π) (fuel : Nat) (p : Parser m σ π (Value σ π)) :
    Session σ π × Report σ π :=
  match p.observe fuel session.current with
  | (trace, some reply) => (session.moveTo reply.state, .ran trace (some reply.result))
  | (trace, none) => (session, .ran trace none)

/-- Executes one command; its parser, if it has one, runs in the host `m`, and one that
cannot be built never replies. -/
def execute (m : Type → Type) [Effects m] [Observable m] (fuel : Nat) (rules : Rules σ π)
    (session : Session σ π) : Command σ π → Session σ π × Report σ π
  | .parse grammar =>
      session.parse fuel ((rules.parser? grammar : Option (Parser m σ π (Value σ π))).getD .never)
  | .setConsumed consumed => (session.moveTo (session.current.withConsumed consumed), .nothing)
  | .advance input position =>
      (session.moveTo (session.current.advance input position), .nothing)
  | .next =>
      match session.current.next? with
      | some (x, state) => (session.moveTo state, .item (some (Item.toValue x)))
      | none => (session, .item none)
  | .isExhausted => (session, .exhausted (Input.isExhausted session.current.input))
  | .save name => (session.save name, .nothing)
  | .restore name =>
      (session.moveTo ((session.saved? name).getD session.current), .nothing)
  | .compare name =>
      (session, .same ((session.saved? name).any fun state =>
        (Value.state state : Value σ π) == .state session.current))
  | .rebuild =>
      (session.moveTo (State.resume session.current.input session.current.position),
        .parts session.current)

/-- Executes commands in turn: after each, the state and what the command had to say. -/
def executeAll (m : Type → Type) [Effects m] [Observable m] (fuel : Nat) (rules : Rules σ π) :
    Session σ π → List (Command σ π) → List (State σ π × Report σ π)
  | _, [] => []
  | session, command :: commands =>
      let (session, report) := session.execute m fuel rules command
      (session.current, report) :: session.executeAll m fuel rules commands

end Session

end Descent
