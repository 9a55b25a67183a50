import Chip8.Extent
/-!
# Memory banks

A bank is a run of bytes of a fixed size with every access checked against
its bounds. Locations, sizes and byte values arrive as integers of any size,
because the checks are part of the bank's behaviour: a negative size gives a
bank with no cells that keeps the size it was given, a size too large for a
word or for the room there is is refused, and a byte or a count out of range
is refused as a bad value.
-/

namespace Chip8

/-- A bank of memory. It has as many cells as its size says, none for a
negative size. -/
structure Bank where
  size : Int
  cells : Array UInt8
  deriving DecidableEq, Repr

namespace Bank

/-- A bank of zeros. -/
def blank (size : Int) : Bank :=
  ⟨size, Array.replicate size.toNat 0⟩

/-- The bank of zeros of a given size, if there can be one. -/
def create [HostMemory] (size : Int) : Except Fault Bank := do
  Extent.check Extent.room size
  return blank size

/-- The highest location. -/
def top (bank : Bank) : Int := bank.size - 1

/-- The byte held at a location, zero outside the bank. -/
def byteAt (bank : Bank) (location : Nat) : UInt8 :=
  bank.cells.getD location 0

/-- The cells from `start` on, overwritten with `block`. -/
def overwrite (cells : Array UInt8) (start : Nat) (block : List UInt8) : Array UInt8 :=
  match block with
  | [] => cells
  | byte :: rest => overwrite (cells.setIfInBounds start byte) (start + 1) rest

/-- Overwriting keeps the number of cells. -/
@[simp] theorem size_overwrite (cells : Array UInt8) (start : Nat) (block : List UInt8) :
    (overwrite cells start block).size = cells.size := by
  induction block generalizing cells start with
  | nil => rfl
  | cons byte rest ih => simp [overwrite, ih]

/-- **What overwriting leaves.** The cells under the block hold the block, and
every other cell what it held. -/
theorem getElem?_overwrite (cells : Array UInt8) (start : Nat) (block : List UInt8) (k : Nat) :
    (overwrite cells start block)[k]? =
      if start ≤ k ∧ k < start + block.length ∧ k < cells.size then block[k - start]?
      else cells[k]? := by
  induction block generalizing cells start with
  | nil =>
    rw [overwrite, if_neg]
    simp only [List.length_nil]
    omega
  | cons byte rest ih =>
    rw [overwrite, ih, Array.size_setIfInBounds, Array.getElem?_setIfInBounds]
    rcases Nat.lt_trichotomy k start with lt | rfl | gt
    · rw [if_neg (by omega), if_neg (by omega), if_neg (by omega)]
    · rw [if_neg (by omega), if_pos rfl, Nat.sub_self, List.getElem?_cons_zero, List.length_cons]
      by_cases inside : k < cells.size
      · rw [if_pos inside, if_pos (by omega)]
      · rw [if_neg inside, if_neg (by omega), Array.getElem?_eq_none (by omega)]
    · have later : k - start = (k - (start + 1)) + 1 := by omega
      rw [if_neg (show ¬ start = k by omega), later, List.getElem?_cons_succ, List.length_cons]
      by_cases inside : k < start + 1 + rest.length ∧ k < cells.size
      · rw [if_pos (by omega), if_pos (by omega)]
      · rw [if_neg (by omega), if_neg (by omega)]

/-- Refuses a location outside the bank. -/
def check (location : Int) : Operation Bank Unit := fun bank =>
  if location < 0 ∨ location > bank.top then .error (.outOfRange location) bank
  else .ok () bank

/-- The byte at a location. -/
def read (location : Int) : Operation Bank UInt8 := do
  check location
  return (← get).byteAt location.toNat

/-- The `size` bytes from a location on. Only the first and the last location
are checked, so a count of zero or less gives no bytes where those two lie
inside the bank. -/
def readBlock (location size : Int) : Operation Bank (List UInt8) := do
  check location
  check (location + size - 1)
  return ((← get).cells.extract location.toNat (location + size).toNat).toList

/-- Replaces the byte at a location. -/
def write (location value : Int) : Operation Bank Unit := do
  check location
  if value < 0 ∨ value > 255 then throw .badValue
  modify fun bank =>
    { bank with cells := bank.cells.setIfInBounds location.toNat (UInt8.ofInt value) }

/-- Replaces the bytes from a location on. An empty block is written
anywhere. -/
def writeBlock (location : Int) (block : List UInt8) : Operation Bank Unit :=
  if block.isEmpty then pure ()
  else do
    check location
    check (location + block.length - 1)
    modify fun bank => { bank with cells := overwrite bank.cells location.toNat block }

/-- Fills `size` bytes with zeros. Only the last location is checked against
the bounds. Then the zeros are laid out, of which there may be too many; a
negative count, or a block that begins below zero, is a bad value. -/
def zeroBlock [HostMemory] (offset size : Int) : Operation Bank Unit := do
  check (offset + size - 1)
  Operation.ofExcept (Extent.checkRun size)
  if size < 0 ∨ offset < 0 then throw .badValue
  modify fun bank =>
    { bank with cells := overwrite bank.cells offset.toNat (List.replicate size.toNat 0) }

/-- Fills the bank with zeros. A bank of negative size refuses. -/
def clear : Operation Bank Unit := fun bank =>
  if bank.size < 0 then .error .badValue bank
  else .ok () (blank bank.size)

/-- Gives the bank another size, and zeros for contents. -/
def resize [HostMemory] (size : Int) : Operation Bank Unit := do
  set (← Operation.ofExcept (create size))

end Bank
end Chip8
