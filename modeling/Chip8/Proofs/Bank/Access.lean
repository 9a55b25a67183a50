import Chip8.Memory
import Chip8.Proofs.Operation
/-!
# Access to a bank

What the operations of a bank do, one equation for each, on a bank of whatever
size and on one that has a given number of cells (`HasCells`). Inside the bank
they succeed; outside they are refused and leave the bank alone. What is read
are the `bytes` there. What a write leaves is `written`, the bank with a block
laid over its cells, of which `byteAt_written` gives every byte.
-/

namespace Chip8
namespace Bank

/-- The bank has `n` cells, and its size says so. -/
structure HasCells (n : Nat) (bank : Bank) : Prop where
  size_eq : bank.size = n
  size_cells : bank.cells.size = n

/-- The bank with a block laid over its cells. -/
def written (address : Nat) (block : List UInt8) (bank : Bank) : Bank :=
  { bank with cells := overwrite bank.cells address block }

/-- The 16-bit word at an address, high byte first. -/
def wordAt (address : Nat) (bank : Bank) : Nat :=
  256 * (bank.byteAt address).toNat + (bank.byteAt (address + 1)).toNat

/-- The bytes from an address on. -/
def bytes (address count : Nat) (bank : Bank) : List UInt8 :=
  (List.range count).map fun k => bank.byteAt (address + k)

/-- The range lies inside the bank. -/
def Contains (bank : Bank) (location count : Int) : Prop :=
  0 ≤ location ∧ location + count ≤ bank.size

variable {n : Nat} {bank : Bank} {location value count : Int} {block : List UInt8}

theorem hasCells_blank (n : Nat) : (blank n).HasCells n :=
  ⟨rfl, by simp [blank]⟩

theorem HasCells.size_eq_toNat (h : bank.HasCells n) : bank.cells.size = bank.size.toNat := by
  rw [h.size_cells, h.size_eq, Int.toNat_natCast]

theorem HasCells.written (h : bank.HasCells n) (address : Nat) (block : List UInt8) :
    (bank.written address block).HasCells n :=
  ⟨h.size_eq, by rw [Bank.written, size_overwrite, h.size_cells]⟩

/-! ## What a write leaves -/

/-- Two blocks one after the other are one block. -/
theorem written_append (address : Nat) (front back : List UInt8) (bank : Bank) :
    bank.written address (front ++ back) =
      (bank.written address front).written (address + front.length) back := by
  -- the back block is laid at the same place, however much of the front one is down
  induction front generalizing address bank with
  | nil => rfl
  | cons byte rest ih =>
    have step := ih (address + 1) (bank.written address [byte])
    simp only [written, overwrite, List.cons_append, List.length_cons] at step ⊢
    rw [step, show address + 1 + rest.length = address + (rest.length + 1) by omega]

theorem byteAt_eq_getD (k : Nat) (bank : Bank) : bank.byteAt k = bank.cells[k]?.getD 0 := by
  rw [byteAt, Array.getD_eq_getD_getElem?]

theorem byteAt_blank (size : Int) (k : Nat) : (blank size).byteAt k = 0 := by
  rw [byteAt_eq_getD, blank, Array.getElem?_replicate]
  split <;> rfl

/-- **Every byte after a write.** Under the block lies the block, elsewhere
what was there. -/
theorem byteAt_written (address : Nat) (block : List UInt8) (bank : Bank) (k : Nat) :
    (bank.written address block).byteAt k =
      if address ≤ k ∧ k < address + block.length ∧ k < bank.cells.size then
        block.getD (k - address) 0
      else bank.byteAt k := by
  rw [byteAt_eq_getD, byteAt_eq_getD, written, getElem?_overwrite]
  split
  · rw [List.getD_eq_getElem?_getD]
  · rfl

theorem byteAt_written_inside (h : bank.HasCells n) {address : Nat} {block : List UInt8} {k : Nat}
    (fits : address + block.length ≤ n) (under : k < block.length) :
    (bank.written address block).byteAt (address + k) = block.getD k 0 := by
  have size := h.size_cells
  rw [byteAt_written, if_pos (by omega), Nat.add_sub_cancel_left]

theorem byteAt_written_outside {address : Nat} {block : List UInt8} {k : Nat}
    (beside : k < address ∨ address + block.length ≤ k) :
    (bank.written address block).byteAt k = bank.byteAt k := by
  rw [byteAt_written, if_neg (by omega)]

/-! ## Checks and reads -/

/-- A location inside passes, in a bank of whatever size. -/
theorem check_of_inside (nonneg : 0 ≤ location) (lt : location < bank.size) :
    check location bank = .ok () bank := by
  have inside : ¬ (location < 0 ∨ location > bank.top) := by
    rw [top]
    omega
  rw [check, if_neg inside]

/-- A location outside is the one reported. -/
theorem check_of_outside (outside : location < 0 ∨ bank.size ≤ location) :
    check location bank = .error (.outOfRange location) bank := by
  have beyond : location < 0 ∨ location > bank.top := by
    rw [top]
    omega
  rw [check, if_pos beyond]

theorem check_of_lt (h : bank.HasCells n) (nonneg : 0 ≤ location) (lt : location < n) :
    check location bank = .ok () bank :=
  check_of_inside nonneg (by rwa [h.size_eq])

theorem check_of_ge (h : bank.HasCells n) (ge : n ≤ location) :
    check location bank = .error (.outOfRange location) bank :=
  check_of_outside (.inr (by rwa [h.size_eq]))

theorem read_of_inside (nonneg : 0 ≤ location) (lt : location < bank.size) :
    read location bank = .ok (bank.byteAt location.toNat) bank := by
  rw [read, Operation.bind_of_ok (check_of_inside nonneg lt)]
  rfl

theorem read_of_outside (outside : location < 0 ∨ bank.size ≤ location) :
    read location bank = .error (.outOfRange location) bank :=
  Operation.bind_of_error (check_of_outside outside)

theorem read_of_lt (h : bank.HasCells n) (nonneg : 0 ≤ location) (lt : location < n) :
    read location bank = .ok (bank.byteAt location.toNat) bank :=
  read_of_inside nonneg (by rwa [h.size_eq])

theorem read_of_ge (h : bank.HasCells n) (ge : n ≤ location) :
    read location bank = .error (.outOfRange location) bank :=
  Operation.bind_of_error (check_of_ge h ge)

theorem length_bytes (address length : Nat) (bank : Bank) :
    (bank.bytes address length).length = length := by
  rw [bytes, List.length_map, List.length_range]

theorem getElem_bytes {address length k : Nat} (lt : k < (bank.bytes address length).length) :
    (bank.bytes address length)[k] = bank.byteAt (address + k) := by
  simp only [bytes, List.getElem_map, List.getElem_range]

/-- Where a block was laid it can be read. -/
theorem bytes_written {address : Nat} (le : address + block.length ≤ bank.cells.size) :
    (bank.written address block).bytes address block.length = block := by
  apply List.ext_getElem (length_bytes ..)
  intro k _ under
  rw [getElem_bytes, byteAt_written, if_pos (by omega), Nat.add_sub_cancel_left,
    List.getD_eq_getElem?_getD, List.getElem?_eq_getElem under, Option.getD_some]

/-- The cells cut out of a bank are its bytes there. -/
theorem extract_eq_bytes {address length : Nat} (le : address + length ≤ bank.cells.size) :
    (bank.cells.extract address (address + length)).toList = bank.bytes address length := by
  apply List.ext_getElem
  · rw [Array.length_toList, Array.size_extract, length_bytes]
    omega
  · intro k inside _
    rw [Array.length_toList, Array.size_extract] at inside
    rw [getElem_bytes, byteAt_eq_getD, Array.getElem_toList, Array.getElem_extract,
      Array.getElem?_eq_getElem (by omega), Option.getD_some]

/-- A block inside is read as the bytes that are there. -/
theorem readBlock_of_contains (cells : bank.cells.size = bank.size.toNat) (some : 0 < count)
    (inside : bank.Contains location count) :
    readBlock location count bank = .ok (bank.bytes location.toNat count.toNat) bank := by
  obtain ⟨nonneg, le⟩ := inside
  rw [readBlock, Operation.bind_of_ok (check_of_inside nonneg (by omega)),
    Operation.bind_of_ok (check_of_inside (by omega) (by omega)),
    ← extract_eq_bytes (by omega),
    show location.toNat + count.toNat = (location + count).toNat by omega]
  rfl

/-- Two bytes are read where both lie inside the bank. -/
theorem readBlock_two_of_lt (h : bank.HasCells n) (nonneg : 0 ≤ location)
    (lt : location + 1 < n) :
    readBlock location 2 bank =
      .ok [bank.byteAt location.toNat, bank.byteAt (location.toNat + 1)] bank := by
  have inside : bank.Contains location 2 := ⟨nonneg, by rw [h.size_eq]; omega⟩
  exact readBlock_of_contains h.size_eq_toNat (by decide) inside

/-- The first location outside the bank is the one reported. -/
theorem readBlock_two_of_ge (h : bank.HasCells n) (nonneg : 0 ≤ location)
    (ge : n ≤ location + 1) :
    readBlock location 2 bank = .error (.outOfRange (max location n)) bank := by
  rcases Int.lt_or_le location n with lt | le
  · rw [readBlock, Operation.bind_of_ok (check_of_lt h nonneg lt),
      Operation.bind_of_error (check_of_ge h (by omega)),
      show location + 2 - 1 = max location n by omega]
  · rw [readBlock, Operation.bind_of_error (check_of_ge h le), Int.max_eq_left le]

/-! ## Writes -/

theorem write_of_inside (nonneg : 0 ≤ location) (lt : location < bank.size) (low : 0 ≤ value)
    (high : value ≤ 255) :
    write location value bank = .ok () (bank.written location.toNat [UInt8.ofInt value]) := by
  rw [write, Operation.bind_of_ok (check_of_inside nonneg lt), if_neg (by omega)]
  rfl

/-- A number that is a byte is written as that byte. -/
theorem ofInt_of_le {value : Nat} (byte : value ≤ 255) :
    UInt8.ofInt value = UInt8.ofNat value := by
  have low : ((value : Int) % 2 ^ 8).toNat = value := by omega
  rw [UInt8.ofInt, low]

theorem write_of_lt (h : bank.HasCells n) (nonneg : 0 ≤ location) (lt : location < n)
    {value : Nat} (byte : value ≤ 255) :
    write location value bank = .ok () (bank.written location.toNat [UInt8.ofNat value]) := by
  rw [write_of_inside nonneg (by rwa [h.size_eq]) (by omega) (by omega), ofInt_of_le byte]

theorem clear_of_hasCells (h : bank.HasCells n) : clear bank = .ok () (blank n) := by
  have : ¬ bank.size < 0 := by
    rw [h.size_eq]
    omega
  rw [clear, if_neg this, h.size_eq]

/-- A block is checked where it has bytes. -/
theorem writeBlock_eq (some : block ≠ []) :
    writeBlock location block =
      (check location >>= fun _ => check (location + block.length - 1) >>= fun _ =>
        modify fun bank => bank.written location.toNat block) := by
  rw [writeBlock, if_neg (by rwa [List.isEmpty_iff])]
  rfl

/-- A block inside is laid over the cells. -/
theorem writeBlock_of_contains (some : block ≠ [])
    (inside : bank.Contains location block.length) :
    writeBlock location block bank = .ok () (bank.written location.toNat block) := by
  obtain ⟨nonneg, le⟩ := inside
  have length := List.length_pos_iff.2 some
  rw [writeBlock_eq some, Operation.bind_of_ok (check_of_inside nonneg (by omega)),
    Operation.bind_of_ok (check_of_inside (by omega) (by omega))]
  rfl

theorem writeBlock_of_le (h : bank.HasCells n) {address : Nat} (le : address + block.length ≤ n) :
    writeBlock address block bank = .ok () (bank.written address block) := by
  by_cases none : block = []
  · subst none
    rfl
  · have inside : bank.Contains address block.length := ⟨by omega, by rw [h.size_eq]; omega⟩
    exact writeBlock_of_contains none inside

end Bank
end Chip8
