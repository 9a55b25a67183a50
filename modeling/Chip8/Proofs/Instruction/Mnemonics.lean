import Mathlib.Data.List.Basic
import Chip8.Proofs.Instruction.Opcodes
import Chip8.Proofs.Text.Hex
/-!
# Mnemonics read back

`read?` is the reader that goes with the mnemonics: from the text of an instruction it
gives the instruction with its operands (`read?_mnemonic`). The forms of the mnemonics
share many of their beginnings, but no text has two of the forms, and in each of them the
operands stand in fields of one width. So the text shows which instruction it is, and all
that the instruction has for operands (`mnemonic_injective`).
-/

namespace Chip8
namespace Instruction

/-! ## The reader -/

/-- The register, or the height, of one digit. -/
def digitOf (digit : Char) : Fin 16 := Fin.ofNat 16 (Hex.value [digit])

/-- The byte of two digits. -/
def byteOf (high low : Char) : UInt8 := UInt8.ofNat (Hex.value [high, low])

/-- The address of three digits. -/
def addressOf (high middle low : Char) : Fin 4096 :=
  Fin.ofNat 4096 (Hex.value [high, middle, low])

/-- The instruction that a text is the mnemonic of. -/
def read? : List Char → Option Instruction
  | ['C', 'L', 'S'] => some cls
  | ['R', 'E', 'T'] => some ret
  | ['J', 'P', ' ', '0', 'x', a, b, c] => some (jp (addressOf a b c))
  | ['C', 'A', 'L', 'L', ' ', '0', 'x', a, b, c] => some (call (addressOf a b c))
  | ['S', 'E', ' ', 'V', x, ',', ' ', '0', 'x', a, b] => some (seByte (digitOf x) (byteOf a b))
  | ['S', 'N', 'E', ' ', 'V', x, ',', ' ', '0', 'x', a, b] =>
    some (sneByte (digitOf x) (byteOf a b))
  | ['S', 'E', ' ', 'V', x, ',', ' ', 'V', y] => some (seReg (digitOf x) (digitOf y))
  | ['L', 'D', ' ', 'V', x, ',', ' ', '0', 'x', a, b] => some (ldByte (digitOf x) (byteOf a b))
  | ['A', 'D', 'D', ' ', 'V', x, ',', ' ', '0', 'x', a, b] =>
    some (addByte (digitOf x) (byteOf a b))
  | ['L', 'D', ' ', 'V', x, ',', ' ', 'V', y] => some (ldReg (digitOf x) (digitOf y))
  | ['O', 'R', ' ', 'V', x, ',', ' ', 'V', y] => some (orReg (digitOf x) (digitOf y))
  | ['A', 'N', 'D', ' ', 'V', x, ',', ' ', 'V', y] => some (andReg (digitOf x) (digitOf y))
  | ['X', 'O', 'R', ' ', 'V', x, ',', ' ', 'V', y] => some (xorReg (digitOf x) (digitOf y))
  | ['A', 'D', 'D', ' ', 'V', x, ',', ' ', 'V', y] => some (addReg (digitOf x) (digitOf y))
  | ['S', 'U', 'B', ' ', 'V', x, ',', ' ', 'V', y] => some (sub (digitOf x) (digitOf y))
  | ['S', 'H', 'R', ' ', 'V', x] => some (shr (digitOf x))
  | ['S', 'U', 'B', 'N', ' ', 'V', x, ',', ' ', 'V', y] => some (subn (digitOf x) (digitOf y))
  | ['S', 'H', 'L', ' ', 'V', x] => some (shl (digitOf x))
  | ['S', 'N', 'E', ' ', 'V', x, ',', ' ', 'V', y] => some (sneReg (digitOf x) (digitOf y))
  | ['L', 'D', ' ', 'I', ',', ' ', '0', 'x', a, b, c] => some (ldI (addressOf a b c))
  | ['J', 'P', ' ', 'V', '0', ',', ' ', '0', 'x', a, b, c] => some (jpV0 (addressOf a b c))
  | ['R', 'N', 'D', ' ', 'V', x, ',', ' ', '0', 'x', a, b] => some (rnd (digitOf x) (byteOf a b))
  | ['D', 'R', 'W', ' ', 'V', x, ',', ' ', 'V', y, ',', ' ', '0', 'x', n] =>
    some (drw (digitOf x) (digitOf y) (digitOf n))
  | ['S', 'K', 'P', ' ', 'V', x] => some (skp (digitOf x))
  | ['S', 'K', 'N', 'P', ' ', 'V', x] => some (sknp (digitOf x))
  | ['L', 'D', ' ', 'V', x, ',', ' ', 'D', 'T'] => some (ldVxDt (digitOf x))
  | ['L', 'D', ' ', 'V', x, ',', ' ', 'K'] => some (ldVxK (digitOf x))
  | ['L', 'D', ' ', 'D', 'T', ',', ' ', 'V', x] => some (ldDtVx (digitOf x))
  | ['L', 'D', ' ', 'S', 'T', ',', ' ', 'V', x] => some (ldStVx (digitOf x))
  | ['A', 'D', 'D', ' ', 'I', ',', ' ', 'V', x] => some (addI (digitOf x))
  | ['L', 'D', ' ', 'F', ',', ' ', 'V', x] => some (ldF (digitOf x))
  | ['L', 'D', ' ', 'B', ',', ' ', 'V', x] => some (ldB (digitOf x))
  | ['L', 'D', ' ', '[', 'I', ']', ',', ' ', 'V', x] => some (ldMemVx (digitOf x))
  | ['L', 'D', ' ', 'V', x, ',', ' ', '[', 'I', ']'] => some (ldVxMem (digitOf x))
  | ['?', '?', '?'] => some unknown
  | _ => none

/-! ## Operands -/

theorem exists_digit (n : Fin 16) :
    ∃ c, (Hex.padded 1 n.val).toList = [c] ∧ digitOf c = n := by
  have fills : (Hex.padded 1 n.val).toList.length = 1 :=
    Hex.length_padded (by decide) (by omega)
  obtain ⟨c, shown⟩ := List.length_eq_one_iff.1 fills
  refine ⟨c, shown, ?_⟩
  rw [digitOf, ← shown, Hex.value_padded]
  exact Fin.ofNat_val_eq_self n

theorem exists_regText (x : Fin 16) :
    ∃ c, (regText x).toList = ['V', c] ∧ digitOf c = x := by
  obtain ⟨c, shown, same⟩ := exists_digit x
  refine ⟨c, ?_, same⟩
  rw [regText, String.toList_append, shown]
  rfl

theorem exists_byteText (kk : UInt8) :
    ∃ a b, (byteText kk).toList = ['0', 'x', a, b] ∧ byteOf a b = kk := by
  have fills : (Hex.padded 2 kk.toNat).toList.length = 2 :=
    Hex.length_padded (by decide) kk.toNat_lt
  obtain ⟨a, b, shown⟩ := List.length_eq_two.1 fills
  refine ⟨a, b, ?_, ?_⟩
  · rw [byteText, String.toList_append, shown]
    rfl
  · rw [byteOf, ← shown, Hex.value_padded]
    exact UInt8.ofNat_toNat

theorem exists_addressText (nnn : Fin 4096) :
    ∃ a b c, (addressText nnn).toList = ['0', 'x', a, b, c] ∧ addressOf a b c = nnn := by
  have fills : (Hex.padded 3 nnn.val).toList.length = 3 :=
    Hex.length_padded (by decide) (by omega)
  obtain ⟨a, b, c, shown⟩ := List.length_eq_three.1 fills
  refine ⟨a, b, c, ?_, ?_⟩
  · rw [addressText, String.toList_append, shown]
    rfl
  · rw [addressOf, ← shown, Hex.value_padded]
    exact Fin.ofNat_val_eq_self nnn

/-! ## Whole texts -/

/-- **A mnemonic reads back**: it shows the instruction and all of its operands. -/
theorem read?_mnemonic (i : Instruction) : read? i.mnemonic.toList = some i := by
  -- one case for each form of operands; within it the forms differ in their letters
  cases i with
  | cls | ret | unknown => rfl
  | jp nnn | call nnn | ldI nnn | jpV0 nnn =>
    obtain ⟨a, b, c, shown, rfl⟩ := exists_addressText nnn
    rw [mnemonic, String.toList_append, shown]
    rfl
  | seByte x kk | sneByte x kk | ldByte x kk | addByte x kk | rnd x kk =>
    obtain ⟨c, register, rfl⟩ := exists_regText x
    obtain ⟨a, b, byte, rfl⟩ := exists_byteText kk
    rw [mnemonic, String.toList_append, String.toList_append, String.toList_append, register,
      byte]
    rfl
  | seReg x y | ldReg x y | orReg x y | andReg x y | xorReg x y | addReg x y | sub x y
  | subn x y | sneReg x y =>
    obtain ⟨c, first, rfl⟩ := exists_regText x
    obtain ⟨d, second, rfl⟩ := exists_regText y
    rw [mnemonic, String.toList_append, String.toList_append, String.toList_append, first,
      second]
    rfl
  | drw x y n =>
    obtain ⟨c, first, rfl⟩ := exists_regText x
    obtain ⟨d, second, rfl⟩ := exists_regText y
    obtain ⟨e, height, rfl⟩ := exists_digit n
    rw [mnemonic, String.toList_append, String.toList_append, String.toList_append,
      String.toList_append, String.toList_append, first, second, height]
    rfl
  | shr x | shl x | skp x | sknp x | ldDtVx x | ldStVx x | addI x | ldF x | ldB x | ldMemVx x =>
    obtain ⟨c, register, rfl⟩ := exists_regText x
    rw [mnemonic, String.toList_append, register]
    rfl
  | ldVxDt x | ldVxK x | ldVxMem x =>
    obtain ⟨c, register, rfl⟩ := exists_regText x
    rw [mnemonic, String.toList_append, String.toList_append, register]
    rfl

/-- **No two instructions look the same.** -/
theorem mnemonic_injective : Function.Injective mnemonic := by
  intro i j same
  have both : some i = some j := by
    rw [← read?_mnemonic i, ← read?_mnemonic j, same]
  exact Option.some.inj both

end Instruction
end Chip8
