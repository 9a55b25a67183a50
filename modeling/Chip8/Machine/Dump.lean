import Chip8.Machine.Basic
/-!
# Dumps of the machine's state

The line that traces an instruction: the registers from the last to the
first, the index register, the timers, the address and the opcode, and a
text for the instruction. The verbose dump adds the call stack, oldest
address first, and the register that waits for a key. The crash report
frames a verbose dump with the name of the emulator and the fault.
-/

namespace Chip8

/-- The version of the emulator. -/
def applicationVersion : String := "1.0.0"

/-- The words that introduce the emulator. -/
def applicationIntro : String :=
  applicationName ++ " V" ++ applicationVersion ++ " -- "

namespace Machine

variable {δ : Type}

/-- The registers and the instruction, in one line. -/
def traceLine (machine : Machine δ) (instruction : String) : String :=
  "V: 0x" ++ String.join (machine.registers.v.toList.reverse.map fun b => Hex.padded 2 b.toNat)
    ++ " I: 0x" ++ Hex.padded 4 machine.registers.i.toNat
    ++ " DT: 0x" ++ Hex.padded 2 machine.timers.delay.toNat
    ++ " ST: 0x" ++ Hex.padded 2 machine.timers.sound.toNat
    ++ " PC: 0x" ++ Hex.padded 3 machine.fetchedFrom
    ++ " OP: 0x" ++ Hex.padded 4 machine.opcode
    ++ " IN: " ++ instruction

/-- The call stack, in one line. -/
def stackLine (machine : Machine δ) : String :=
  match machine.registers.stack.items with
  | [] => "Stack: (Empty)"
  | items => "Stack:" ++ String.join (items.map fun item => " 0x" ++ Hex.padded 3 item.toNat)

/-- The state of the machine: one line, or two or three if verbose. -/
def dump (machine : Machine δ) (instruction : String) (verbose : Bool) : String :=
  if verbose then
    machine.traceLine instruction ++ "\n" ++ machine.stackLine ++
      match machine.keypad.latch with
      | none => ""
      | some register => "\nKey: awaiting into V" ++ Hex.padded 1 register
  else machine.traceLine instruction

/-- The verbose dump with the instruction that the opcode stands for. -/
def crashDump (machine : Machine δ) : String :=
  machine.dump (Instruction.decode machine.opcode).mnemonic true

/-- What is said when a fault ends the emulation. -/
def crashReport (machine : Machine δ) (fault : Fault) : String :=
  "Emulation halted.\n\n" ++ applicationIntro ++ "Debug info:\n" ++ machine.crashDump
    ++ "\n\n" ++ fault.message ++ " (opcode 0x" ++ Hex.padded 4 machine.opcode
    ++ " at address 0x" ++ Hex.padded 3 machine.fetchedFrom ++ ")."

end Machine
end Chip8
