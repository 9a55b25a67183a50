import Chip8.Text.Range
/-!
# Blank characters

The characters that do not count at the two ends of a name: those that
Unicode lists as white space, and the four information separators.
-/

namespace Chip8
namespace Text

/-- The blank characters. -/
def blankRanges : List Range := [
  (0x9, 0xD), (0x1C, 0x20), (0x85, 0x85), (0xA0, 0xA0), (0x1680, 0x1680), (0x2000, 0x200A),
  (0x2028, 0x2029), (0x202F, 0x202F), (0x205F, 0x205F), (0x3000, 0x3000)]

/-- The character is blank. -/
def isBlank (c : Char) : Bool := inRanges blankRanges c

/-- A text without the blanks at its two ends. -/
def strip (s : String) : String :=
  String.ofList (((s.toList.dropWhile isBlank).reverse.dropWhile isBlank).reverse)

end Text
end Chip8
