import Chip8.Text.Hex
/-!
# Faults

The causes for which an operation of the machine's parts can be refused.
`Fault.isHalting` singles out the three that stop a running program: an
access outside a memory bank, and a call stack that is full or empty. The
others are misuse by whoever drives the machine from outside.
-/

namespace Chip8

/-- Why a part of the machine refused an operation. -/
inductive Fault where
  /-- The location lies outside the memory bank. -/
  | outOfRange (location : Int)
  /-- The call stack is full. -/
  | stackOverflow
  /-- The call stack is empty. -/
  | stackUnderflow
  /-- A byte outside 0 to 255, or a block of the wrong length. -/
  | badValue
  /-- No register, or no colour, of that number. -/
  | badIndex
  /-- A coordinate was wrapped onto a side of length zero, or a tone asked for
  at a frequency of zero. -/
  | zeroDivisor
  /-- A number does not fit the 64-bit word or the double that is to hold
  it. -/
  | tooLarge
  /-- There is no room for so many cells. -/
  | outOfMemory
  /-- The display has nothing to show itself with. -/
  | unsupported
  deriving DecidableEq, Repr

namespace Fault

/-- The fault stops the program that is running. -/
def isHalting : Fault → Bool
  | outOfRange _ | stackOverflow | stackUnderflow => true
  | badValue | badIndex | zeroDivisor | tooLarge | outOfMemory | unsupported => false

/-- The wording of a fault. -/
def message : Fault → String
  | outOfRange location => "Memory access out of range: 0x" ++ Hex.padded 4 location
  | stackOverflow => "Stack overflow"
  | stackUnderflow => "Stack underflow"
  | badValue => "Value out of range"
  | badIndex => "Index out of range"
  | zeroDivisor => "Division by zero"
  | tooLarge => "Number too large"
  | outOfMemory => "Out of memory"
  | unsupported => "The display cannot be shown"

end Fault

/-- An operation on a state `σ`: it succeeds with a result or is refused
with a fault, and in both cases says what state it leaves. -/
abbrev Operation (σ α : Type) : Type := EStateM Fault σ α

/-- The operation that gives a result, or is refused, whatever the state, and
leaves the state as it is. -/
def Operation.ofExcept {σ α : Type} : Except Fault α → Operation σ α
  | .ok result => pure result
  | .error fault => throw fault

end Chip8
