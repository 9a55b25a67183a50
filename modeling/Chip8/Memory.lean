import Chip8.Bank
import Chip8.Journal
/-!
# Main memory

The 4K bank that programs run in. The hexadecimal font, five bytes a
character, lies at the bottom; programs are loaded at `programStart`, and at
most `programCapacity` bytes of them. Nothing protects the font from the
program.
-/

namespace Chip8
namespace Memory

/-- The size of main memory. -/
def size : Nat := 0x1000

/-- Where programs are loaded and start. -/
def programStart : Nat := 0x200

/-- How many bytes of a program are loaded; the top of memory stays free. -/
def programCapacity : Nat := 3232

/-- Where the font lies. -/
def fontStart : Nat := 0

/-- The rows of one character of the font. -/
def fontRows : Nat := 5

/-- The font: the characters 0 to F, a byte a row, leftmost pixel highest. -/
def font : List UInt8 := [
  0xF0, 0x90, 0x90, 0x90, 0xF0,
  0x20, 0x60, 0x20, 0x20, 0x70,
  0xF0, 0x10, 0xF0, 0x80, 0xF0,
  0xF0, 0x10, 0xF0, 0x10, 0xF0,
  0x90, 0x90, 0xF0, 0x10, 0x10,
  0xF0, 0x80, 0xF0, 0x10, 0xF0,
  0xF0, 0x80, 0xF0, 0x90, 0xF0,
  0xF0, 0x10, 0x20, 0x40, 0x40,
  0xF0, 0x90, 0xF0, 0x90, 0xF0,
  0xF0, 0x90, 0xF0, 0x10, 0xF0,
  0xF0, 0x90, 0xF0, 0x90, 0x90,
  0xE0, 0x90, 0xE0, 0x90, 0xE0,
  0xF0, 0x80, 0x80, 0x80, 0xF0,
  0xE0, 0x90, 0x90, 0x90, 0xE0,
  0xF0, 0x80, 0xF0, 0x80, 0xF0,
  0xF0, 0x80, 0xF0, 0x80, 0x80]

/-- Clears the bank and puts the font in place. -/
def reset : Operation Bank Unit := do
  Bank.clear
  Bank.writeBlock fontStart font

/-- Main memory as it is switched on. -/
def initial : Bank :=
  match reset (Bank.blank size) with
  | .ok _ bank => bank
  | .error _ bank => bank

/-- What is noted before a program is loaded: that it is cut down, if it
is. -/
def loadingNotes (rom : List UInt8) : List Entry :=
  if rom.length > programCapacity then
    [⟨.debug, "ROM is " ++ toString rom.length ++ " bytes, only the first "
      ++ toString programCapacity ++ " will be loaded"⟩]
  else []

/-- Puts as much of a program in place as fits, and counts its bytes. -/
def load (rom : List UInt8) : Operation Bank Nat := do
  let part := rom.take programCapacity
  Bank.writeBlock programStart part
  return part.length

end Memory
end Chip8
