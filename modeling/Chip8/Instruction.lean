import Chip8.Numbering
import Chip8.Text.Hex
/-!
# Instructions

The instruction set as a type whose constructors carry the operands that the
instruction uses, and nothing else. An opcode is a 16-bit word of four
hexadecimal digits; the operand fields lie at fixed places in it:

* `x`, the second digit, and `y`, the third, name registers;
* `n`, the last digit, is the height of a sprite;
* `kk`, the last two digits, is a byte;
* `nnn`, the last three digits, is an address.

`decode` takes an integer of any size and looks at its low 16 bits only. It
reads the first digit, then as much of the rest as the instructions under
that digit need to be told apart; the last digit of `5xyn` and of `9xyn` is
not looked at.
-/

namespace Chip8

/-- The instructions, with the operands that each one uses. -/
inductive Instruction where
  /-- Clear the screen. -/
  | cls
  /-- Return from a subroutine. -/
  | ret
  /-- Jump to an address. -/
  | jp (nnn : Fin 4096)
  /-- Call a subroutine. -/
  | call (nnn : Fin 4096)
  /-- Skip the next instruction if a register equals a byte. -/
  | seByte (x : Fin 16) (kk : UInt8)
  /-- Skip the next instruction if a register differs from a byte. -/
  | sneByte (x : Fin 16) (kk : UInt8)
  /-- Skip the next instruction if two registers are equal. -/
  | seReg (x y : Fin 16)
  /-- Load a byte. -/
  | ldByte (x : Fin 16) (kk : UInt8)
  /-- Add a byte; the flag stays. -/
  | addByte (x : Fin 16) (kk : UInt8)
  /-- Copy a register. -/
  | ldReg (x y : Fin 16)
  /-- Bitwise or. -/
  | orReg (x y : Fin 16)
  /-- Bitwise and. -/
  | andReg (x y : Fin 16)
  /-- Bitwise exclusive or. -/
  | xorReg (x y : Fin 16)
  /-- Add; the flag is the carry. -/
  | addReg (x y : Fin 16)
  /-- Subtract the second from the first; the flag is the absence of a borrow. -/
  | sub (x y : Fin 16)
  /-- Shift right; the flag is the bit shifted out. -/
  | shr (x : Fin 16)
  /-- Subtract the first from the second; the flag is the absence of a borrow. -/
  | subn (x y : Fin 16)
  /-- Shift left; the flag is the bit shifted out. -/
  | shl (x : Fin 16)
  /-- Skip the next instruction if two registers differ. -/
  | sneReg (x y : Fin 16)
  /-- Load the index register. -/
  | ldI (nnn : Fin 4096)
  /-- Jump to an address plus the first register. -/
  | jpV0 (nnn : Fin 4096)
  /-- Load a random byte masked by a byte. -/
  | rnd (x : Fin 16) (kk : UInt8)
  /-- Draw a sprite of `n` rows; the flag tells whether a pixel was put out. -/
  | drw (x y n : Fin 16)
  /-- Skip the next instruction if a key is pressed. -/
  | skp (x : Fin 16)
  /-- Skip the next instruction if a key is not pressed. -/
  | sknp (x : Fin 16)
  /-- Read the delay timer. -/
  | ldVxDt (x : Fin 16)
  /-- Wait for a key. -/
  | ldVxK (x : Fin 16)
  /-- Set the delay timer. -/
  | ldDtVx (x : Fin 16)
  /-- Set the sound timer. -/
  | ldStVx (x : Fin 16)
  /-- Add to the index register. -/
  | addI (x : Fin 16)
  /-- Point the index register at a character of the font. -/
  | ldF (x : Fin 16)
  /-- Store the three decimal digits of a register. -/
  | ldB (x : Fin 16)
  /-- Store the registers up to one. -/
  | ldMemVx (x : Fin 16)
  /-- Load the registers up to one. -/
  | ldVxMem (x : Fin 16)
  /-- Not an instruction. -/
  | unknown
  deriving DecidableEq, Repr

/-! ## Operand fields -/

/-- The operand fields of an opcode. -/
structure Operands where
  x : Fin 16
  y : Fin 16
  n : Fin 16
  kk : UInt8
  nnn : Fin 4096
  deriving DecidableEq, Repr

namespace Opcode

/-- The low 16 bits of an opcode. -/
def word (opcode : Int) : Nat := (opcode % 65536).toNat

/-- The register that the second digit names. -/
def x (opcode : Int) : Fin 16 := Fin.ofNat 16 (word opcode / 256)

/-- The register that the third digit names. -/
def y (opcode : Int) : Fin 16 := Fin.ofNat 16 (word opcode / 16)

/-- The last digit. -/
def n (opcode : Int) : Fin 16 := Fin.ofNat 16 (word opcode)

/-- The last two digits. -/
def kk (opcode : Int) : UInt8 := UInt8.ofNat (word opcode)

/-- The last three digits. -/
def nnn (opcode : Int) : Fin 4096 := Fin.ofNat 4096 (word opcode)

end Opcode

namespace Instruction

open Opcode in
/-- The instruction that an opcode stands for. -/
def decode (opcode : Int) : Instruction :=
  match word opcode / 4096 with
  | 0x0 =>
    match word opcode with
    | 0x00E0 => cls
    | 0x00EE => ret
    | _ => unknown
  | 0x1 => jp (nnn opcode)
  | 0x2 => call (nnn opcode)
  | 0x3 => seByte (x opcode) (kk opcode)
  | 0x4 => sneByte (x opcode) (kk opcode)
  | 0x5 => seReg (x opcode) (y opcode)
  | 0x6 => ldByte (x opcode) (kk opcode)
  | 0x7 => addByte (x opcode) (kk opcode)
  | 0x8 =>
    match word opcode % 16 with
    | 0x0 => ldReg (x opcode) (y opcode)
    | 0x1 => orReg (x opcode) (y opcode)
    | 0x2 => andReg (x opcode) (y opcode)
    | 0x3 => xorReg (x opcode) (y opcode)
    | 0x4 => addReg (x opcode) (y opcode)
    | 0x5 => sub (x opcode) (y opcode)
    | 0x6 => shr (x opcode)
    | 0x7 => subn (x opcode) (y opcode)
    | 0xE => shl (x opcode)
    | _ => unknown
  | 0x9 => sneReg (x opcode) (y opcode)
  | 0xA => ldI (nnn opcode)
  | 0xB => jpV0 (nnn opcode)
  | 0xC => rnd (x opcode) (kk opcode)
  | 0xD => drw (x opcode) (y opcode) (n opcode)
  | 0xE =>
    match word opcode % 256 with
    | 0x9E => skp (x opcode)
    | 0xA1 => sknp (x opcode)
    | _ => unknown
  | 0xF =>
    match word opcode % 256 with
    | 0x07 => ldVxDt (x opcode)
    | 0x0A => ldVxK (x opcode)
    | 0x15 => ldDtVx (x opcode)
    | 0x18 => ldStVx (x opcode)
    | 0x1E => addI (x opcode)
    | 0x29 => ldF (x opcode)
    | 0x33 => ldB (x opcode)
    | 0x55 => ldMemVx (x opcode)
    | 0x65 => ldVxMem (x opcode)
    | _ => unknown
  | _ => unknown

/-! ## Instructions with other operands -/

/-- The instruction of the same kind whose operands are the fields given. -/
def withOperands (operands : Operands) : Instruction → Instruction
  | cls => cls
  | ret => ret
  | jp _ => jp operands.nnn
  | call _ => call operands.nnn
  | seByte _ _ => seByte operands.x operands.kk
  | sneByte _ _ => sneByte operands.x operands.kk
  | seReg _ _ => seReg operands.x operands.y
  | ldByte _ _ => ldByte operands.x operands.kk
  | addByte _ _ => addByte operands.x operands.kk
  | ldReg _ _ => ldReg operands.x operands.y
  | orReg _ _ => orReg operands.x operands.y
  | andReg _ _ => andReg operands.x operands.y
  | xorReg _ _ => xorReg operands.x operands.y
  | addReg _ _ => addReg operands.x operands.y
  | sub _ _ => sub operands.x operands.y
  | shr _ => shr operands.x
  | subn _ _ => subn operands.x operands.y
  | shl _ => shl operands.x
  | sneReg _ _ => sneReg operands.x operands.y
  | ldI _ => ldI operands.nnn
  | jpV0 _ => jpV0 operands.nnn
  | rnd _ _ => rnd operands.x operands.kk
  | drw _ _ _ => drw operands.x operands.y operands.n
  | skp _ => skp operands.x
  | sknp _ => sknp operands.x
  | ldVxDt _ => ldVxDt operands.x
  | ldVxK _ => ldVxK operands.x
  | ldDtVx _ => ldDtVx operands.x
  | ldStVx _ => ldStVx operands.x
  | addI _ => addI operands.x
  | ldF _ => ldF operands.x
  | ldB _ => ldB operands.x
  | ldMemVx _ => ldMemVx operands.x
  | ldVxMem _ => ldVxMem operands.x
  | unknown => unknown

/-! ## Names and mnemonics -/

/-- The name of an instruction, without its operands. -/
def name : Instruction → String
  | cls => "CLS"
  | ret => "RET"
  | jp _ => "JP"
  | call _ => "CALL"
  | seByte _ _ => "SE_BYTE"
  | sneByte _ _ => "SNE_BYTE"
  | seReg _ _ => "SE_REG"
  | ldByte _ _ => "LD_BYTE"
  | addByte _ _ => "ADD_BYTE"
  | ldReg _ _ => "LD_REG"
  | orReg _ _ => "OR"
  | andReg _ _ => "AND"
  | xorReg _ _ => "XOR"
  | addReg _ _ => "ADD_REG"
  | sub _ _ => "SUB"
  | shr _ => "SHR"
  | subn _ _ => "SUBN"
  | shl _ => "SHL"
  | sneReg _ _ => "SNE_REG"
  | ldI _ => "LD_I"
  | jpV0 _ => "JP_V0"
  | rnd _ _ => "RND"
  | drw _ _ _ => "DRW"
  | skp _ => "SKP"
  | sknp _ => "SKNP"
  | ldVxDt _ => "LD_VX_DT"
  | ldVxK _ => "LD_VX_K"
  | ldDtVx _ => "LD_DT_VX"
  | ldStVx _ => "LD_ST_VX"
  | addI _ => "ADD_I"
  | ldF _ => "LD_F"
  | ldB _ => "LD_B"
  | ldMemVx _ => "LD_MEM_VX"
  | ldVxMem _ => "LD_VX_MEM"
  | unknown => "UNKNOWN"

/-- A register as an operand. -/
def regText (x : Fin 16) : String := "V" ++ Hex.padded 1 x.val

/-- A byte as an operand. -/
def byteText (kk : UInt8) : String := "0x" ++ Hex.padded 2 kk.toNat

/-- An address as an operand. -/
def addressText (nnn : Fin 4096) : String := "0x" ++ Hex.padded 3 nnn.val

/-- The instruction as an assembler writes it. -/
def mnemonic : Instruction → String
  | cls => "CLS"
  | ret => "RET"
  | jp nnn => "JP " ++ addressText nnn
  | call nnn => "CALL " ++ addressText nnn
  | seByte x kk => "SE " ++ regText x ++ ", " ++ byteText kk
  | sneByte x kk => "SNE " ++ regText x ++ ", " ++ byteText kk
  | seReg x y => "SE " ++ regText x ++ ", " ++ regText y
  | ldByte x kk => "LD " ++ regText x ++ ", " ++ byteText kk
  | addByte x kk => "ADD " ++ regText x ++ ", " ++ byteText kk
  | ldReg x y => "LD " ++ regText x ++ ", " ++ regText y
  | orReg x y => "OR " ++ regText x ++ ", " ++ regText y
  | andReg x y => "AND " ++ regText x ++ ", " ++ regText y
  | xorReg x y => "XOR " ++ regText x ++ ", " ++ regText y
  | addReg x y => "ADD " ++ regText x ++ ", " ++ regText y
  | sub x y => "SUB " ++ regText x ++ ", " ++ regText y
  | shr x => "SHR " ++ regText x
  | subn x y => "SUBN " ++ regText x ++ ", " ++ regText y
  | shl x => "SHL " ++ regText x
  | sneReg x y => "SNE " ++ regText x ++ ", " ++ regText y
  | ldI nnn => "LD I, " ++ addressText nnn
  | jpV0 nnn => "JP V0, " ++ addressText nnn
  | rnd x kk => "RND " ++ regText x ++ ", " ++ byteText kk
  | drw x y n => "DRW " ++ regText x ++ ", " ++ regText y ++ ", 0x" ++ Hex.padded 1 n.val
  | skp x => "SKP " ++ regText x
  | sknp x => "SKNP " ++ regText x
  | ldVxDt x => "LD " ++ regText x ++ ", DT"
  | ldVxK x => "LD " ++ regText x ++ ", K"
  | ldDtVx x => "LD DT, " ++ regText x
  | ldStVx x => "LD ST, " ++ regText x
  | addI x => "ADD I, " ++ regText x
  | ldF x => "LD F, " ++ regText x
  | ldB x => "LD B, " ++ regText x
  | ldMemVx x => "LD [I], " ++ regText x
  | ldVxMem x => "LD " ++ regText x ++ ", [I]"
  | unknown => "???"

end Instruction
end Chip8
