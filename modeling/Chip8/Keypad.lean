import Chip8.Keymap
/-!
# The keypad

Which of the sixteen logical keys are held down, and the latch of a program
that waits for a key: the register that the next key press fills. The latch
holds whatever number it was given; it is looked at when a key arrives.
-/

namespace Chip8

/-- The keypad. -/
structure Keypad where
  keymap : Keymap
  pressed : Vector Bool 16
  latch : Option Int
  deriving DecidableEq, Repr

namespace Keypad

/-- A keypad with no key held and no wait. -/
def initial (keymap : Keymap) : Keypad :=
  ⟨keymap, Vector.replicate 16 false, none⟩

/-- Lets go of every key and ends the wait. -/
def reset (keypad : Keypad) : Keypad := initial keypad.keymap

/-- The logical key that a code stands for; no code stands for none. -/
def logical? (keypad : Keypad) (code : Option KeyCode) : Option (Fin 16) :=
  code.bind (·.logical? keypad.keymap)

/-- Holds a key down. -/
def press (key : Fin 16) (keypad : Keypad) : Keypad :=
  { keypad with pressed := keypad.pressed.setIfInBounds key true }

/-- Lets go of a key. -/
def release (key : Fin 16) (keypad : Keypad) : Keypad :=
  { keypad with pressed := keypad.pressed.setIfInBounds key false }

/-- The number names a logical key that is held down. -/
def isPressed (keypad : Keypad) (number : Int) : Bool :=
  (List.finRange 16).any fun key => (key.val : Int) == number && keypad.pressed.get key

/-- The keys held down, in order. -/
def held (keypad : Keypad) : List (Fin 16) :=
  (List.finRange 16).filter fun key => keypad.pressed.get key

/-- Waits for a key to fill a register. -/
def await (register : Int) (keypad : Keypad) : Keypad :=
  { keypad with latch := some register }

/-- Ends the wait. -/
def unlatch (keypad : Keypad) : Keypad :=
  { keypad with latch := none }

/-- A program waits for a key. -/
def isAwaiting (keypad : Keypad) : Bool := keypad.latch.isSome

end Keypad
end Chip8
