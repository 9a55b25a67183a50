/-!
# Hexadecimal text

Addresses, opcodes and registers are shown in lower-case hexadecimal with a
least width. The sign of a negative number comes first and counts towards
the width; a number wider than the field is shown whole. Blocks of bytes are
shown as two digits a byte, without separators, and can be read back
(`parseBlock?_flatMap_byte`).
-/

namespace Chip8
namespace Hex

/-- The number `n` in at least `width` characters, zeros after the sign. -/
def padded (width : Nat) (n : Int) : String :=
  let sign := if n < 0 then ['-'] else []
  let digits := Nat.toDigits 16 n.natAbs
  String.ofList (sign ++ List.replicate (width - sign.length - digits.length) '0' ++ digits)

/-- One hexadecimal digit, for `n` below 16. -/
def digit (n : Nat) : Char :=
  (Nat.toDigits 16 (n % 16)).headD '0'

/-- A byte as its two digits. -/
def byte (b : UInt8) : List Char :=
  [digit (b.toNat / 16), digit b.toNat]

/-- A block of bytes, two digits each. -/
def block (bytes : List UInt8) : String :=
  String.ofList (bytes.flatMap byte)

/-- The value of a hexadecimal digit of either case. -/
def digitValue? (c : Char) : Option Nat :=
  if '0' ≤ c ∧ c ≤ '9' then some (c.toNat - '0'.toNat)
  else if 'a' ≤ c ∧ c ≤ 'f' then some (c.toNat - 'a'.toNat + 10)
  else if 'A' ≤ c ∧ c ≤ 'F' then some (c.toNat - 'A'.toNat + 10)
  else none

/-- Reads a block of bytes back from its digits. -/
def parseBlock? : List Char → Option (List UInt8)
  | [] => some []
  | [_] => none
  | hi :: lo :: rest => do
    let h ← digitValue? hi
    let l ← digitValue? lo
    return UInt8.ofNat (16 * h + l) :: (← parseBlock? rest)

/-- A digit has the value that it was made for. -/
theorem digitValue?_digit (n : Nat) : digitValue? (digit n) = some (n % 16) := by
  have each : ∀ k < 16, digitValue? ((Nat.toDigits 16 k).headD '0') = some k := by decide
  exact each (n % 16) (Nat.mod_lt n (by decide))

/-- **Blocks read back.** The digits of a block stand for that block. -/
theorem parseBlock?_flatMap_byte (bytes : List UInt8) :
    parseBlock? (bytes.flatMap byte) = some bytes := by
  induction bytes with
  | nil => rfl
  | cons b rest ih =>
    have whole : 16 * (b.toNat / 16 % 16) + b.toNat % 16 = b.toNat := by
      have := b.toNat_lt
      omega
    have same : UInt8.ofNat (16 * (b.toNat / 16 % 16) + b.toNat % 16) = b := by
      rw [whole, UInt8.ofNat_toNat]
    simp only [List.flatMap_cons, byte, List.cons_append, List.nil_append, parseBlock?,
      digitValue?_digit, ih, Option.bind_eq_bind, Option.bind_some, same]
    rfl

end Hex
end Chip8
