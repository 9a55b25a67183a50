/-!
# Ranges of code points

Properties of characters are tables of inclusive ranges of code points, in
increasing order.
-/

namespace Chip8
namespace Text

/-- An inclusive range of code points. -/
abbrev Range : Type := Nat × Nat

/-- The character lies in one of the ranges. -/
def inRanges (table : List Range) (c : Char) : Bool :=
  table.any fun (first, last) => first ≤ c.toNat && c.toNat ≤ last

end Text
end Chip8
