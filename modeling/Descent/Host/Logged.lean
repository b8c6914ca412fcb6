import Descent.Host

/-!
# Computations that keep a log

A logged computation is a value together with the entries that were written on the
way to it, in order.
-/

namespace Descent

/-- A value and the entries written on the way to it. -/
structure Logged (ω α : Type) where
  log : List ω
  value : α
deriving Repr

namespace Logged

variable {ω α β : Type}

/-- Writes one entry. -/
def tell (entry : ω) : Logged ω Unit :=
  ⟨[entry], ()⟩

/-- Goes on with the value; its entries follow those already written. -/
def bind (x : Logged ω α) (f : α → Logged ω β) : Logged ω β :=
  let y := f x.value
  ⟨x.log ++ y.log, y.value⟩

instance : Monad (Logged ω) where
  pure value := ⟨[], value⟩
  bind := bind

@[simp]
theorem log_pure (a : α) : (pure a : Logged ω α).log = [] :=
  rfl

@[simp]
theorem value_pure (a : α) : (pure a : Logged ω α).value = a :=
  rfl

@[simp]
theorem log_bind (x : Logged ω α) (f : α → Logged ω β) :
    (x >>= f).log = x.log ++ (f x.value).log :=
  rfl

@[simp]
theorem value_bind (x : Logged ω α) (f : α → Logged ω β) :
    (x >>= f).value = (f x.value).value :=
  rfl

instance : LawfulMonad (Logged ω) :=
  LawfulMonad.mk' (Logged ω)
    (fun x => congrArg (Logged.mk · x.value) (List.append_nil x.log))
    (fun _ _ => rfl)
    (fun x f g =>
      congrArg (Logged.mk · (g (f x.value).value).value)
        (List.append_assoc x.log (f x.value).log (g (f x.value).value).log))

/-- A host that keeps a log. -/
instance : Host (Logged ω) where

end Logged

end Descent
