import Descent.Host

/-!
# Computations that suspend

A resumption either has its value or is pending; a pending one goes on when it is
resumed.  Nothing after a suspension runs before that.

Main definitions:

- `Resumption`, with its monad and its loop.
- `Resumption.suspend`: pending a given number of times.
- `Resumption.complete`: resumes to the end and counts the suspensions.
-/

namespace Descent

/-- A computation that may have to be resumed a number of times before its value is there. -/
inductive Resumption (α : Type) where
  | ready (value : α)
  | pending (resume : Unit → Resumption α)

namespace Resumption

variable {α β : Type}

/-- Runs a computation and goes on with its value. -/
def bind : Resumption α → (α → Resumption β) → Resumption β
  | ready value, f => f value
  | pending resume, f => pending fun _ => (resume ()).bind f

instance : Monad Resumption where
  pure := ready
  bind := bind

@[simp]
theorem pure_eq (a : α) : (Pure.pure a : Resumption α) = ready a :=
  rfl

@[simp]
theorem ready_bind (a : α) (f : α → Resumption β) : ready a >>= f = f a :=
  rfl

@[simp]
theorem pending_bind (resume : Unit → Resumption α) (f : α → Resumption β) :
    pending resume >>= f = pending fun _ => resume () >>= f :=
  rfl

theorem bind_ready (x : Resumption α) : x.bind ready = x := by
  induction x with
  | ready value => rfl
  | pending resume ih => exact congrArg pending (funext fun _ => ih ())

theorem bind_assoc {γ : Type} (x : Resumption α) (f : α → Resumption β)
    (g : β → Resumption γ) : (x.bind f).bind g = x.bind fun a => (f a).bind g := by
  induction x with
  | ready value => rfl
  | pending resume ih => exact congrArg pending (funext fun _ => ih ())

instance : LawfulMonad Resumption :=
  LawfulMonad.mk' Resumption bind_ready (fun _ _ => rfl) bind_assoc

/-- Pending the given number of times. -/
def suspend : Nat → Resumption Unit
  | 0 => ready ()
  | n + 1 => pending fun _ => suspend n

/-- Being pending for a while and then for another while is being pending for both. -/
theorem suspend_add_bind (a b : Nat) (f : Unit → Resumption α) :
    suspend (a + b) >>= f = suspend a >>= fun _ => suspend b >>= f := by
  induction a with
  | zero =>
      rw [Nat.zero_add]
      rfl
  | succ a ih =>
      rw [Nat.add_right_comm]
      exact congrArg pending (funext fun _ => ih)

/-- Repeats a step: rounds that are ready follow each other at once, and a pending round
suspends the loop. -/
def iterate : Nat → (α → Resumption (Flow α β)) → α → Resumption (Option β)
  | 0, _, _ => ready none
  | rounds + 1, step, seed =>
      match step seed with
      | ready (.next seed) => iterate rounds step seed
      | ready (.done result) => ready (some result)
      | pending resume =>
          pending fun _ =>
            (resume ()).bind fun
              | .next seed => iterate rounds step seed
              | .done result => ready (some result)

/-- A host that can suspend. -/
instance : Host Resumption where
  iterate := iterate

/-! ## Running to the end -/

/-- Resumes to the end: the suspensions met, on top of those already counted, and the value. -/
def completeFrom (count : Nat) : Resumption α → Nat × α
  | ready value => (count, value)
  | pending resume => (resume ()).completeFrom (count + 1)

/-- Resumes to the end: how many times the computation was pending, and its value. -/
def complete (x : Resumption α) : Nat × α :=
  x.completeFrom 0

@[simp]
theorem complete_ready (a : α) : (ready a).complete = (0, a) :=
  rfl

theorem completeFrom_eq (x : Resumption α) (count : Nat) :
    x.completeFrom count = (count + x.complete.1, x.complete.2) := by
  induction x generalizing count with
  | ready value => rfl
  | pending resume ih =>
      have whole : (pending resume).complete = (resume ()).completeFrom 1 := rfl
      rw [whole, completeFrom, ih (), ih () 1]
      simp [Nat.add_assoc]

/-- A sequence is pending as often as its parts are. -/
theorem complete_bind (x : Resumption α) (f : α → Resumption β) :
    (x >>= f).complete =
      (x.complete.1 + (f x.complete.2).complete.1, (f x.complete.2).complete.2) := by
  induction x with
  | ready value => simp
  | pending resume ih =>
      have whole {γ : Type} (resume : Unit → Resumption γ) :
          (pending resume).complete = (resume ()).completeFrom 1 := rfl
      rw [pending_bind, whole, whole, completeFrom_eq, completeFrom_eq (resume ()), ih ()]
      simp [Nat.add_assoc]

@[simp]
theorem complete_suspend (n : Nat) : (suspend n).complete = (n, ()) := by
  induction n with
  | zero => rfl
  | succ n ih =>
      have whole : (suspend (n + 1)).complete = (suspend n).completeFrom 1 := rfl
      rw [whole, completeFrom_eq, ih, Nat.add_comm]

end Resumption

end Descent
