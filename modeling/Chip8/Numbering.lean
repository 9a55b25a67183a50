/-!
# Numbering

Registers and keys are numbered by the numbers below sixteen, and the addresses that an
instruction can name by those below 4096. A larger number is read modulo the count of
the numbers, for which the count must not be zero.
-/

namespace Chip8

instance neZero_sixteen : @NeZero Nat Zero.ofOfNat0 16 := ⟨by decide⟩

instance neZero_addresses : @NeZero Nat Zero.ofOfNat0 4096 := ⟨by decide⟩

end Chip8
