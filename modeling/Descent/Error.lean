import Descent.Position

/-!
# Parse errors

A parse error is a message and the position it is about.  Errors are ordered by
message first, so that a list of errors sorts by its texts.
-/

namespace Descent

/-- Why a parser failed, and the place that the failure is about. -/
structure ParseError (π : Type) where
  message : String
  position : π
deriving DecidableEq, Inhabited, Repr

namespace ParseError

variable {π : Type}

/-- The same message about another place. -/
def relocate (error : ParseError π) (position : π) : ParseError π :=
  { error with position }

@[simp]
theorem message_relocate (error : ParseError π) (position : π) :
    (error.relocate position).message = error.message :=
  rfl

@[simp]
theorem position_relocate (error : ParseError π) (position : π) :
    (error.relocate position).position = position :=
  rfl

/-- Another message about the same place. -/
def reword (error : ParseError π) (message : String) : ParseError π :=
  { error with message }

@[simp]
theorem message_reword (error : ParseError π) (message : String) :
    (error.reword message).message = message :=
  rfl

@[simp]
theorem position_reword (error : ParseError π) (message : String) :
    (error.reword message).position = error.position :=
  rfl

/-- Errors are ordered by message, character by character, and then by position. -/
instance [Ord π] : Ord (ParseError π) where
  compare e f := (compare e.message f.message).then (compare e.position f.position)

instance [ToString π] : ToString (ParseError π) where
  toString error := error.message ++ " at " ++ toString error.position

/-- Sorts errors by their order; equal errors keep their places. -/
def sort [Ord π] (errors : List (ParseError π)) : List (ParseError π) :=
  errors.mergeSort fun e f => (compare e f).isLE

end ParseError

end Descent
