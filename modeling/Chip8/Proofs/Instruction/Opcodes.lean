import Chip8.Machine.Execute
/-!
# The opcodes of an instruction

`Matches` is the table of the instruction set, read from the instruction to the
word: which digits the word has, and where in it the operands stand. An opcode
decodes to an instruction exactly where its low word matches (`decode_eq_iff`);
`unknown` is what is left.

The processor does not go by the operands that the decoder found, but masks and
shifts the opcode itself. Both come to the same (`operands_eq`), so that what is
executed is what was decoded (`decode_withOperands`).
-/

namespace Chip8
namespace Opcode

/-- A number of four digits is its own low word. -/
theorem word_of_lt {word : Nat} (lt : word < 65536) : Opcode.word word = word := by
  rw [Opcode.word]
  omega

/-! ## Forms of words -/

/-- A first digit, and an address. -/
def OnAddress (word first : Nat) (nnn : Fin 4096) : Prop :=
  word / 4096 = first ∧ nnn = Fin.ofNat 4096 word

/-- A first digit, a register and a byte. -/
def OnByte (word first : Nat) (x : Fin 16) (kk : UInt8) : Prop :=
  word / 4096 = first ∧ x = Fin.ofNat 16 (word / 256) ∧ kk = UInt8.ofNat word

/-- A first digit and two registers. -/
def OnPair (word first : Nat) (x y : Fin 16) : Prop :=
  word / 4096 = first ∧ x = Fin.ofNat 16 (word / 256) ∧ y = Fin.ofNat 16 (word / 16)

/-- The digit eight, two registers, and a last digit. -/
def Arithmetic (word last : Nat) (x y : Fin 16) : Prop :=
  word / 4096 = 0x8 ∧ word % 16 = last ∧ x = Fin.ofNat 16 (word / 256) ∧
    y = Fin.ofNat 16 (word / 16)

/-- A first digit, a register, and two last digits. -/
def OnRegister (word first last : Nat) (x : Fin 16) : Prop :=
  word / 4096 = first ∧ word % 256 = last ∧ x = Fin.ofNat 16 (word / 256)

end Opcode

namespace Instruction

open Opcode

/-- **The instruction set**: the word is one that the instruction is written
as. -/
def Matches (word : Nat) : Instruction → Prop
  | cls => word = 0x00E0
  | ret => word = 0x00EE
  | jp nnn => OnAddress word 0x1 nnn
  | call nnn => OnAddress word 0x2 nnn
  | seByte x kk => OnByte word 0x3 x kk
  | sneByte x kk => OnByte word 0x4 x kk
  | seReg x y => OnPair word 0x5 x y
  | ldByte x kk => OnByte word 0x6 x kk
  | addByte x kk => OnByte word 0x7 x kk
  | ldReg x y => Arithmetic word 0x0 x y
  | orReg x y => Arithmetic word 0x1 x y
  | andReg x y => Arithmetic word 0x2 x y
  | xorReg x y => Arithmetic word 0x3 x y
  | addReg x y => Arithmetic word 0x4 x y
  | sub x y => Arithmetic word 0x5 x y
  | shr x => word / 4096 = 0x8 ∧ word % 16 = 0x6 ∧ x = Fin.ofNat 16 (word / 256)
  | subn x y => Arithmetic word 0x7 x y
  | shl x => word / 4096 = 0x8 ∧ word % 16 = 0xE ∧ x = Fin.ofNat 16 (word / 256)
  | sneReg x y => OnPair word 0x9 x y
  | ldI nnn => OnAddress word 0xA nnn
  | jpV0 nnn => OnAddress word 0xB nnn
  | rnd x kk => OnByte word 0xC x kk
  | drw x y n => OnPair word 0xD x y ∧ n = Fin.ofNat 16 word
  | skp x => OnRegister word 0xE 0x9E x
  | sknp x => OnRegister word 0xE 0xA1 x
  | ldVxDt x => OnRegister word 0xF 0x07 x
  | ldVxK x => OnRegister word 0xF 0x0A x
  | ldDtVx x => OnRegister word 0xF 0x15 x
  | ldStVx x => OnRegister word 0xF 0x18 x
  | addI x => OnRegister word 0xF 0x1E x
  | ldF x => OnRegister word 0xF 0x29 x
  | ldB x => OnRegister word 0xF 0x33 x
  | ldMemVx x => OnRegister word 0xF 0x55 x
  | ldVxMem x => OnRegister word 0xF 0x65 x
  | unknown => True

/-- An opcode matches what it decodes to. -/
theorem matches_decode (opcode : Int) : (decode opcode).Matches (word opcode) := by
  unfold decode
  -- one case for each row of the decoder, with the digits that lead to it
  repeat' split
  all_goals first
    | assumption
    | exact trivial
    | exact ⟨by assumption, rfl⟩
    | exact ⟨by assumption, rfl, rfl⟩
    | exact ⟨by assumption, by assumption, rfl⟩
    | exact ⟨by assumption, by assumption, rfl, rfl⟩
    | exact ⟨⟨by assumption, rfl, rfl⟩, rfl⟩

/-- An opcode decodes to what it matches. -/
theorem decode_of_matches {opcode : Int} {i : Instruction} (known : i ≠ unknown)
    (written : i.Matches (word opcode)) : decode opcode = i := by
  unfold decode
  cases i with
  | unknown => exact absurd rfl known
  | cls | ret =>
    unfold Matches at written
    rw [written]
    rfl
  | jp | call | ldI | jpV0 =>
    obtain ⟨first, rfl⟩ := written
    rw [first]
    rfl
  | seByte | sneByte | ldByte | addByte | rnd | seReg | sneReg =>
    obtain ⟨first, rfl, rfl⟩ := written
    rw [first]
    rfl
  | drw =>
    obtain ⟨⟨first, rfl, rfl⟩, rfl⟩ := written
    rw [first]
    rfl
  | ldReg | orReg | andReg | xorReg | addReg | sub | subn =>
    obtain ⟨first, last, rfl, rfl⟩ := written
    rw [first, last]
    rfl
  | _ =>
    obtain ⟨first, last, rfl⟩ := written
    rw [first, last]
    rfl

/-- **The opcodes of an instruction** are those that match it. -/
theorem decode_eq_iff {opcode : Int} {i : Instruction} (known : i ≠ unknown) :
    decode opcode = i ↔ i.Matches (word opcode) := by
  constructor
  · rintro rfl
    exact matches_decode opcode
  · exact decode_of_matches known

end Instruction

/-! ## The operands of the processor -/

namespace Machine

open Opcode

variable {δ : Type} (machine : Machine δ)

/-- **The processor reads the operands that the decoder reads.** -/
theorem operands_eq :
    machine.operands =
      ⟨x machine.opcode, y machine.opcode, n machine.opcode, kk machine.opcode,
        nnn machine.opcode⟩ := by
  rw [operands, x, y, n, kk, nnn]
  generalize word machine.opcode = low
  -- a field that is masked and then shifted down is a quotient and a remainder
  have digit (k : Nat) : k &&& 0xF = k % 16 := Nat.and_two_pow_sub_one_eq_mod k 4
  have second : (low &&& 0xF00) >>> 8 = low / 256 % 16 := by
    rw [Nat.shiftRight_and_distrib, Nat.shiftRight_eq_div_pow]
    exact digit (low / 256)
  have third : (low &&& 0xF0) >>> 4 = low / 16 % 16 := by
    rw [Nat.shiftRight_and_distrib, Nat.shiftRight_eq_div_pow]
    exact digit (low / 16)
  have lastTwo : low &&& 0xFF = low % 256 := Nat.and_two_pow_sub_one_eq_mod low 8
  have lastThree : low &&& 0xFFF = low % 4096 := Nat.and_two_pow_sub_one_eq_mod low 12
  -- and the remainder is taken by the types of the fields
  have register (k : Nat) : Fin.ofNat 16 (k % 16) = Fin.ofNat 16 k := Fin.ext (Nat.mod_mod k 16)
  have address : Fin.ofNat 4096 (low % 4096) = Fin.ofNat 4096 low :=
    Fin.ext (Nat.mod_mod low 4096)
  rw [second, third, digit, lastTwo, lastThree, register, register, register, address,
    UInt8.ofNat_mod_size]

/-- The instruction decoded has the operands that the processor reads. -/
theorem decode_withOperands :
    (Instruction.decode machine.opcode).withOperands machine.operands =
      Instruction.decode machine.opcode := by
  rw [operands_eq]
  unfold Instruction.decode
  -- one case for each row of the decoder
  repeat' split
  all_goals rfl

end Machine
end Chip8
