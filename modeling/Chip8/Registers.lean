import Chip8.Memory
import Chip8.Numbering
import Chip8.Stack
/-!
# The register file

Sixteen 8-bit registers, the 16-bit index register, the program counter and
the call stack. The program counter is an integer without a bound: a jump
may leave it past the end of memory, where the next fetch fails. Advancing
it from the top of memory restarts in the program area instead.

Instructions name registers by `Fin 16`. Callers from outside name them by
an integer, of which `-1` to `-16` count from the last register downwards.
-/

namespace Chip8

/-- The register file. -/
structure Registers where
  v : Vector UInt8 16
  i : UInt16
  pc : Int
  stack : Stack
  deriving DecidableEq, Repr

namespace Registers

/-- How many calls can be nested. -/
def stackSize : Nat := 16

/-- The length of an instruction in bytes. -/
def instructionSize : Nat := 2

/-- The register that instructions put their flag in. -/
def flag : Fin 16 := 15

/-- The register file at the start of a program, over a given stack. -/
def initial (stack : Stack) : Registers :=
  ⟨Vector.replicate 16 0, 0, Memory.programStart, stack⟩

/-- Back to the start of a program. -/
def reset (registers : Registers) : Registers :=
  initial registers.stack.clear

/-- The register that an integer names. -/
def find? (number : Int) : Option (Fin 16) :=
  if 0 ≤ number ∧ number < 16 then some (Fin.ofNat 16 number.toNat)
  else if -16 ≤ number ∧ number < 0 then some (Fin.ofNat 16 (number + 16).toNat)
  else none

/-- The contents of a register. -/
def get (registers : Registers) (x : Fin 16) : UInt8 :=
  registers.v[x]

/-- Replaces the contents of a register. -/
def set (registers : Registers) (x : Fin 16) (value : UInt8) : Registers :=
  { registers with v := registers.v.set x value }

/-- A register holds what was put in it. -/
@[simp] theorem get_set_self (registers : Registers) (x : Fin 16) (value : UInt8) :
    (registers.set x value).get x = value := by
  simp [set, get]

/-- The other registers keep what they held. -/
theorem get_set_of_ne {registers : Registers} {x y : Fin 16} {value : UInt8} (h : x ≠ y) :
    (registers.set x value).get y = registers.get y := by
  simp [set, get, Fin.val_ne_of_ne h]

/-- The contents of the register that a number names. -/
def read (number : Int) : Operation Registers UInt8 := fun registers =>
  match find? number with
  | some x => .ok (registers.get x) registers
  | none => .error .badIndex registers

/-- Puts the low byte of a value in the register that a number names. -/
def write (number value : Int) : Operation Registers Unit := fun registers =>
  match find? number with
  | some x => .ok () (registers.set x (UInt8.ofInt value))
  | none => .error .badIndex registers

/-- Sets the index register to the low 16 bits of a value. -/
def setIndex (value : Int) (registers : Registers) : Registers :=
  { registers with i := UInt16.ofInt value }

/-- Sets the program counter. -/
def jump (target : Int) (registers : Registers) : Registers :=
  { registers with pc := target }

/-- The address after the instruction at `address`; past the top of memory
it is the start of the program area. -/
def next (address : Int) : Int :=
  if address + instructionSize ≥ Memory.size then Memory.programStart
  else address + instructionSize

/-- Moves the program counter on by one instruction. -/
def advance (registers : Registers) : Registers :=
  registers.jump (next registers.pc)

/-- An operation on the call stack. -/
def onStack {α : Type} (operation : Operation Stack α) : Operation Registers α :=
  fun ⟨v, i, pc, stack⟩ =>
    match operation stack with
    | .ok result stack => .ok result ⟨v, i, pc, stack⟩
    | .error fault stack => .error fault ⟨v, i, pc, stack⟩

/-- Saves the program counter and jumps. -/
def call (target : Int) : Operation Registers Unit := do
  onStack (Stack.push (← MonadState.get).pc)
  modify (jump target)

/-- Jumps back to the address saved last. -/
def ret : Operation Registers Unit := do
  let address ← onStack Stack.pop
  modify (jump address.toNat)

end Registers
end Chip8
