/-!
# Settings

What is said about one setting of the emulator: nothing, in which case the
emulator chooses; that it has no value, which some settings cannot do with;
or its value.
-/

namespace Chip8

/-- A setting whose values are of type `α`. -/
inductive Setting (α : Type) where
  /-- The emulator chooses. -/
  | unset
  /-- There is to be no value. -/
  | empty
  | value (a : α)
  deriving DecidableEq, Repr

namespace Setting

variable {α : Type}

/-- The setting that a value makes, if there is one. -/
def ofOption : Option α → Setting α
  | none => unset
  | some a => value a

/-- The value of the setting, if it has one. -/
def toOption : Setting α → Option α
  | value a => some a
  | unset | empty => none

/-- A value, or none, comes back as it was put in. -/
@[simp] theorem toOption_ofOption (a : Option α) : (ofOption a).toOption = a := by
  cases a <;> rfl

/-- The value to use, `usual` where the emulator chooses; none if the setting has
no value. -/
def resolve (usual : α) : Setting α → Option α
  | unset => some usual
  | empty => none
  | value a => some a

end Setting
end Chip8
