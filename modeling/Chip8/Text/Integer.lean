import Chip8.Text.Blank
/-!
# Integers as text

The integers that may be given on a command line: a sign or none, then
decimal digits, single underscores allowed between two of them, and blanks
at both ends. The digits of any script count. No more than 4300 digits are
read.
-/

namespace Chip8
namespace Text

/-- The zeros of the scripts that have decimal digits; the other nine digits
of each follow its zero. By Unicode 14. -/
def zeroDigits : List Nat := [
  0x30, 0x660, 0x6F0, 0x7C0, 0x966, 0x9E6, 0xA66, 0xAE6, 0xB66, 0xBE6, 0xC66, 0xCE6, 0xD66,
  0xDE6, 0xE50, 0xED0, 0xF20, 0x1040, 0x1090, 0x17E0, 0x1810, 0x1946, 0x19D0, 0x1A80, 0x1A90,
  0x1B50, 0x1BB0, 0x1C40, 0x1C50, 0xA620, 0xA8D0, 0xA900, 0xA9D0, 0xA9F0, 0xAA50, 0xABF0,
  0xFF10, 0x104A0, 0x10D30, 0x11066, 0x110F0, 0x11136, 0x111D0, 0x112F0, 0x11450, 0x114D0,
  0x11650, 0x116C0, 0x11730, 0x118E0, 0x11950, 0x11C50, 0x11D50, 0x11DA0, 0x16A60, 0x16AC0,
  0x16B50, 0x1D7CE, 0x1D7D8, 0x1D7E2, 0x1D7EC, 0x1D7F6, 0x1E140, 0x1E2F0, 0x1E950, 0x1FBF0]

/-- The value of a decimal digit of any script. -/
def decimalValue? (c : Char) : Option Nat :=
  (zeroDigits.find? fun first => first ≤ c.toNat && c.toNat < first + 10).map (c.toNat - ·)

/-- How many digits are read at most. -/
def digitLimit : Nat := 4300

/-- The character is passed over at the ends of a number: an ASCII space or
one of the five controls from tab to carriage return, or a blank beyond
ASCII. -/
def isNumberBlank (c : Char) : Bool :=
  if c.toNat < 128 then c = ' ' || (9 ≤ c.toNat && c.toNat ≤ 13) else isBlank c

/-- The values of a run of digits. An underscore stands between two digits;
`digitBefore` tells whether a digit has just been read. -/
def digitValues? (digitBefore : Bool) : List Char → Option (List Nat)
  | [] => if digitBefore then some [] else none
  | c :: rest =>
    if c = '_' then
      if digitBefore then digitValues? false rest else none
    else
      match decimalValue? c with
      | some value => (digitValues? true rest).map (value :: ·)
      | none => none

/-- The number that a run of digits stands for. -/
def natural? (digits : List Char) : Option Nat :=
  match digitValues? false digits with
  | some values =>
    if values.length ≤ digitLimit then some (values.foldl (fun n value => 10 * n + value) 0)
    else none
  | none => none

/-- The integer that a text stands for. -/
def integer? (s : String) : Option Int :=
  let trimmed := ((s.toList.dropWhile isNumberBlank).reverse.dropWhile isNumberBlank).reverse
  match trimmed with
  | '-' :: digits => (natural? digits).map fun n => -(n : Int)
  | '+' :: digits => (natural? digits).map Int.ofNat
  | digits => (natural? digits).map Int.ofNat

end Text
end Chip8
