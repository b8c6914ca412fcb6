import Descent.Host.Logged
import Descent.Host.Resumption

/-!
# Effects of hosts

The four effects that a program of a grammar can ask its host for.  A host that lacks
one goes on without it.

Main definitions:

- `Effects`: failing and recovering, writing to a log, suspending.
- `Trace` and `Observable`: what can be seen of a computation besides its value.
-/

namespace Descent

/-- A host with the effects that programs can ask for.  By default failing, writing and
suspending do nothing, and there is nothing to recover from. -/
class Effects (m : Type → Type) extends Host m where
  /-- Fails with a text. -/
  throw : String → m Unit := fun _ => pure ()
  /-- Runs a computation, and another one, given the text, if the first one fails. -/
  recover {α : Type} : m α → (String → m α) → m α := fun computation _ => computation
  /-- Writes an entry to the log. -/
  tell : String → m Unit := fun _ => pure ()
  /-- Suspends the given number of times. -/
  suspend : Nat → m Unit := fun _ => pure ()

/-- The host without effects has none of them. -/
instance : Effects Id where

/-- A host that fails with texts. -/
instance : Effects (Except String) where
  throw := Except.error
  recover
    | .ok value, _ => .ok value
    | .error text, handler => handler text

/-- A host that fails without a text; recovery is given the empty one. -/
instance : Effects Option where
  throw _ := none
  recover
    | some value, _ => some value
    | none, handler => handler ""

/-- A host that suspends. -/
instance : Effects Resumption where
  suspend := Resumption.suspend

/-- A host that keeps a log. -/
instance : Effects (Logged String) where
  tell := Logged.tell

/-! ## Observations -/

/-- What can be seen of a finished computation besides its value. -/
inductive Trace where
  /-- Nothing at all. -/
  | silent
  /-- That it failed, with the text if there was one. -/
  | failed (text : Option String)
  /-- The entries it wrote, in order. -/
  | logged (entries : List String)
  /-- How often it was suspended. -/
  | suspended (times : Nat)
deriving DecidableEq, Repr

/-- A host whose computations can be run to the end from outside. -/
class Observable (m : Type → Type) where
  /-- What can be seen of a computation, and its value unless it failed. -/
  observe {α : Type} : m α → Trace × Option α

instance : Observable Id where
  observe x := (.silent, some x)

instance : Observable (Except String) where
  observe
    | .ok value => (.silent, some value)
    | .error text => (.failed (some text), none)

instance : Observable Option where
  observe
    | some value => (.silent, some value)
    | none => (.failed none, none)

instance : Observable Resumption where
  observe x :=
    let (times, value) := x.complete
    (.suspended times, some value)

instance : Observable (Logged String) where
  observe x := (.logged x.log, some x.value)

end Descent
