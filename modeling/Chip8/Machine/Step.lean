import Chip8.Machine.Dump
import Chip8.Machine.Execute
/-!
# Steps of the machine

A step runs one instruction: it fetches the word at the program counter,
moves the program counter on, and executes. While a key is awaited a step
does nothing. A memory or stack fault in a step halts the machine with a
report of its state; a machine that has halted can be stepped again, and
goes on from what the failed step left.
-/

namespace Chip8

/-- How an operation of the machine fails. -/
inductive Crash where
  /-- A fault ended the emulation, with the report made of it. -/
  | halted (cause : Fault) (report : String)
  /-- An operation was refused; no program is to blame. -/
  | refused (fault : Fault)
  deriving DecidableEq, Repr

namespace Machine

variable {δ α : Type}

/-- An operation of the machine that may crash. -/
abbrev Running (δ α : Type) : Type := EStateM Crash (Machine δ) α

/-- An operation outside an instruction: its faults are passed on as they
are. -/
def direct (operation : Operation (Machine δ) α) : Running δ α := fun machine =>
  match operation machine with
  | .ok result machine => .ok result machine
  | .error fault machine => .error (.refused fault) machine

/-- An operation within an instruction: memory and stack faults halt the
machine. -/
def guarded (operation : Operation (Machine δ) α) : Running δ α := fun machine =>
  match operation machine with
  | .ok result machine => .ok result machine
  | .error fault machine =>
    if fault.isHalting then .error (.halted fault (machine.crashReport fault)) machine
    else .error (.refused fault) machine

/-- The word at the program counter, high byte first. -/
def fetch : Operation (Machine δ) Nat := do
  let block ← onMemory (Bank.readBlock (← get).registers.pc Registers.instructionSize)
  return block.foldl (fun word byte => 256 * word + byte.toNat) 0

variable [Display δ]

/-- Executes the instruction that the opcode stands for, noting it first on
a machine that is traced. What is noted has the operands that the decoder
read; what is executed has those that the processor reads. -/
def decodeExecute : Running δ Unit := do
  let machine ← get
  let instruction := Instruction.decode machine.opcode
  if machine.traced then
    direct (note .debug (machine.dump instruction.mnemonic false))
  guarded (execute (instruction.withOperands machine.operands))

/-- Runs one instruction, unless a key is awaited. The result tells whether
an instruction was run. -/
def step : Running δ Bool := do
  if (← get).keypad.isAwaiting then return false
  modify fun machine => { machine with fetchedFrom := machine.registers.pc }
  let word ← guarded fetch
  modify fun machine => { machine with opcode := word }
  direct (updateRegisters Registers.advance)
  decodeExecute
  return true

/-- Runs so many steps, up to the first that crashes, and counts the
instructions that were run. -/
def steps : Nat → Running δ Nat
  | 0 => pure 0
  | n + 1 => do
    let ran ← step
    let count ← steps n
    return if ran then count + 1 else count

end Machine
end Chip8
