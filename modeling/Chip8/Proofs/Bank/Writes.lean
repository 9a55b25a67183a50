import Chip8.Proofs.Bank.Access
/-!
# Writes to a bank

A bank is written to a byte at a time, by the block, with zeros, or all over (`Write`). The
four look at their range in ways of their own: an empty block is not checked at all, zeros
are checked at their last location only, and clearing depends on the size alone. Yet there is
one law for all of them, in any bank in use (`InUse.writes_exactly`): what is granted lays
down the data, all of it inside the bank, and touches nothing else (`Laid`), and what is
refused touches nothing.
-/

namespace Chip8
namespace Bank

open Operation

/-- The operation is refused for a location outside the bank, and changes nothing. -/
def Refuses {α : Type} (operation : Operation Bank α) (bank : Bank) : Prop :=
  ∃ location, operation bank = .error (.outOfRange location) bank ∧
    (location < 0 ∨ bank.size ≤ location)

/-! ## Writes -/

/-- What can be written to a bank. -/
inductive Write where
  | byte (location value : Int)
  | block (location : Int) (bytes : List UInt8)
  | zeros (offset count : Int)
  | clear
  deriving DecidableEq, Repr

/-- What a bank does when it is written to. -/
def serve [HostMemory] : Write → Operation Bank Unit
  | .byte location value => write location value
  | .block location bytes => writeBlock location bytes
  | .zeros offset count => zeroBlock offset count
  | .clear => clear

namespace Write

/-- Where the data begin. -/
def start : Write → Int
  | byte location _ => location
  | block location _ => location
  | zeros offset _ => offset
  | clear => 0

/-- The data for a bank of a given size. A number is there even if it is no byte. -/
def data (size : Int) : Write → List Int
  | byte _ value => [value]
  | block _ bytes => bytes.map fun byte => (byte.toNat : Int)
  | zeros _ count => List.replicate count.toNat 0
  | clear => List.replicate size.toNat 0

/-- What a bank grants. No bytes can be written anywhere, but no zeros only right behind a
location of the bank. -/
def Fits (bank : Bank) : Write → Prop
  | byte location value => bank.Contains location 1 ∧ 0 ≤ value ∧ value ≤ 255
  | block location bytes => bytes = [] ∨ bank.Contains location bytes.length
  | zeros offset count => bank.Contains offset count ∧ 0 ≤ count ∧ 0 < offset + count
  | clear => 0 ≤ bank.size

end Write

/-- **The banks in use**: those that were made, given a size or written to. -/
inductive InUse [HostMemory] : Bank → Prop where
  /-- A new bank. -/
  | created {size : Int} {bank : Bank} (made : create size = .ok bank) : InUse bank
  /-- A bank after it was to have another size. -/
  | resized {bank : Bank} (inUse : InUse bank) (size : Int) : InUse (left (resize size bank))
  /-- A bank after it was written to. -/
  | written {bank : Bank} (inUse : InUse bank) (write : Write) : InUse (left (serve write bank))

/-- **Data are laid down in a bank, and nothing else changes.** -/
structure Laid (start : Int) (data : List Int) (bank after : Bank) : Prop where
  /-- The data lie inside the bank, if there are any. -/
  inside : data = [] ∨ bank.Contains start data.length
  under : (after.bytes start.toNat data.length).map (fun byte => (byte.toNat : Int)) = data
  beside : ∀ k : Nat, k < start ∨ start + data.length ≤ k → after.byteAt k = bank.byteAt k
  size_eq : after.size = bank.size
  size_cells : after.cells.size = bank.cells.size

/-- A bank has the cells that its size asks for, none for a negative one, and there was room
for them. -/
structure Kept [HostMemory] (bank : Bank) : Prop where
  size_cells : bank.cells.size = bank.size.toNat
  room : bank.size ≤ Extent.room

variable {bank after : Bank} {location value offset count size : Int} {block : List UInt8}

/-! ## What a granted write leaves -/

theorem toNat_ofInt_byte {number : Int} (low : 0 ≤ number) (high : number ≤ 255) :
    ((UInt8.ofInt number).toNat : Int) = number := by
  rw [UInt8.ofInt, UInt8.toNat_ofNat']
  omega

/-- **Bytes that are laid over the cells are laid down.** -/
theorem Kept.laid_written [HostMemory] (kept : bank.Kept) {data : List Int}
    (small : ∀ number ∈ data, 0 ≤ number ∧ number ≤ 255) {start : Int}
    (inside : data = [] ∨ bank.Contains start data.length) :
    Laid start data bank (bank.written start.toNat (data.map UInt8.ofInt)) := by
  rcases inside with rfl | ⟨nonneg, le⟩
  · exact ⟨.inl rfl, rfl, fun _ _ => rfl, rfl, rfl⟩
  · have cells := kept.size_cells
    have length : (data.map UInt8.ofInt).length = data.length := List.length_map _
    have numbers : ∀ number ∈ data, ((UInt8.ofInt number).toNat : Int) = number :=
      fun number given => toNat_ofInt_byte (small number given).1 (small number given).2
    refine ⟨.inr ⟨nonneg, le⟩, ?_, fun k beside => ?_, rfl, size_overwrite ..⟩
    · rw [← length, bytes_written (by omega), List.map_map]
      exact (List.map_congr_left numbers).trans data.map_id
    · exact byteAt_written_outside (by omega)

/-- The bytes of a block come back from their numbers. -/
theorem map_ofInt_toNat (block : List UInt8) :
    (block.map fun byte => (byte.toNat : Int)).map UInt8.ofInt = block := by
  have same : ∀ byte : UInt8, UInt8.ofInt (byte.toNat : Int) = byte := by
    intro byte
    rw [ofInt_of_le (Nat.le_of_lt_succ byte.toNat_lt), UInt8.ofNat_toNat]
  rw [List.map_map]
  exact (List.map_congr_left fun byte _ => same byte).trans block.map_id

theorem Kept.laid_zeros [HostMemory] (kept : bank.Kept) (inside : bank.Contains offset count)
    (nonneg : 0 ≤ count) :
    Laid offset (List.replicate count.toNat 0) bank
      (bank.written offset.toNat (List.replicate count.toNat 0)) := by
  have small : ∀ number ∈ List.replicate count.toNat (0 : Int), 0 ≤ number ∧ number ≤ 255 := by
    intro number given
    rw [List.eq_of_mem_replicate given]
    decide
  have within : bank.Contains offset (List.replicate count.toNat (0 : Int)).length := by
    rwa [List.length_replicate, Int.toNat_of_nonneg nonneg]
  have laid := kept.laid_written small (.inr within)
  rw [List.map_replicate] at laid
  exact laid

/-- A bank is cleared by zeros all over. -/
theorem Kept.blank_eq [HostMemory] (kept : bank.Kept) :
    blank bank.size = bank.written 0 (List.replicate bank.size.toNat 0) := by
  have cells := kept.size_cells
  have zeros : (blank bank.size).cells =
      overwrite bank.cells 0 (List.replicate bank.size.toNat 0) := by
    apply Array.ext_getElem?
    intro k
    rw [blank, getElem?_overwrite, Array.getElem?_replicate, List.length_replicate]
    by_cases inside : k < bank.size.toNat
    · rw [if_pos inside, if_pos (by omega), List.getElem?_replicate, if_pos (by omega)]
    · rw [if_neg inside, if_neg (by omega), Array.getElem?_eq_none (by omega)]
  rw [written, ← zeros]
  rfl

/-! ## What is granted and what is refused -/

theorem write_of_big (big : value < 0 ∨ 255 < value) (nonneg : 0 ≤ location)
    (lt : location < bank.size) : write location value bank = .error .badValue bank := by
  rw [write, bind_of_ok (check_of_inside nonneg lt), if_pos big]
  rfl

theorem refuses_write (outside : location < 0 ∨ bank.size ≤ location) :
    Refuses (write location value) bank :=
  ⟨location, bind_of_error (check_of_outside outside), outside⟩

/-- A range that is checked at both of its ends is refused for one of them. -/
theorem refuses_ends {α : Type} {next : Operation Bank α}
    (outside : ¬ bank.Contains location count) :
    Refuses (check location >>= fun _ => check (location + count - 1) >>= fun _ => next) bank := by
  by_cases start : location < 0 ∨ bank.size ≤ location
  · exact ⟨location, bind_of_error (check_of_outside start), start⟩
  · have last : location + count - 1 < 0 ∨ bank.size ≤ location + count - 1 := by
      rw [Contains] at outside
      omega
    refine ⟨location + count - 1, ?_, last⟩
    rw [bind_of_ok (check_of_inside (by omega) (by omega)), bind_of_error (check_of_outside last)]

theorem refuses_writeBlock (some : block ≠ [])
    (outside : ¬ bank.Contains location block.length) :
    Refuses (writeBlock location block) bank := by
  rw [writeBlock_eq some]
  exact refuses_ends outside

/-- Zeros are checked at their last location. -/
theorem refuses_zeroBlock [HostMemory] (outside : offset + count ≤ 0 ∨ bank.size < offset + count) :
    Refuses (zeroBlock offset count) bank :=
  ⟨offset + count - 1, bind_of_error (check_of_outside (by omega)), by omega⟩

/-- If that lies inside, they are laid out before anything else is looked at. -/
theorem zeroBlock_of_inside [HostMemory] (pos : 0 < offset + count)
    (le : offset + count ≤ bank.size) :
    zeroBlock offset count bank =
      match Extent.checkRun count with
      | .error fault => .error fault bank
      | .ok _ =>
        if count < 0 ∨ offset < 0 then .error .badValue bank
        else .ok () (bank.written offset.toNat (List.replicate count.toNat 0)) := by
  rw [zeroBlock, bind_of_ok (check_of_inside (by omega) (by omega))]
  cases Extent.checkRun count with
  | error fault => rfl
  | ok passed => split <;> rfl

/-! ## Every write -/

/-- **What fits is laid down.** -/
theorem Kept.serve_of_fits [HostMemory] (kept : bank.Kept) {write : Write}
    (fits : write.Fits bank) :
    ∃ after, serve write bank = .ok () after ∧
      Laid write.start (write.data bank.size) bank after := by
  cases write with
  | byte location value =>
    obtain ⟨⟨nonneg, le⟩, low, high⟩ := fits
    have small : ∀ number ∈ [value], 0 ≤ number ∧ number ≤ 255 := by
      intro number given
      rw [List.mem_singleton.1 given]
      exact ⟨low, high⟩
    exact ⟨_, write_of_inside nonneg (by omega) low high,
      kept.laid_written small (.inr ⟨nonneg, le⟩)⟩
  | block location bytes =>
    have small : ∀ number ∈ bytes.map fun byte => (byte.toNat : Int),
        0 ≤ number ∧ number ≤ 255 := by
      intro number given
      obtain ⟨byte, -, rfl⟩ := List.mem_map.1 given
      have := byte.toNat_lt
      omega
    have laid := kept.laid_written small (by rwa [List.map_eq_nil_iff, List.length_map])
    rw [map_ofInt_toNat] at laid
    by_cases none : bytes = []
    · subst none
      exact ⟨bank, rfl, laid⟩
    · exact ⟨_, writeBlock_of_contains none (fits.resolve_left none), laid⟩
  | zeros offset count =>
    obtain ⟨⟨low, le⟩, nonneg, pos⟩ := fits
    have room := kept.room
    refine ⟨_, ?_, kept.laid_zeros ⟨low, le⟩ nonneg⟩
    rw [serve, zeroBlock_of_inside pos le, Extent.checkRun_of_le nonneg (by omega)]
    exact if_neg (by omega)
  | clear =>
    refine ⟨blank bank.size, if_neg (Int.not_lt.2 fits), ?_⟩
    rw [kept.blank_eq]
    have whole : bank.Contains 0 bank.size := ⟨Int.le_refl 0, by omega⟩
    exact kept.laid_zeros whole fits

/-- What does not fit is refused, and changes nothing. -/
theorem serve_of_not_fits [HostMemory] {write : Write} (unfit : ¬ write.Fits bank) :
    ∃ fault, serve write bank = .error fault bank := by
  cases write with
  | byte location value =>
    rw [Write.Fits, Contains] at unfit
    by_cases inside : 0 ≤ location ∧ location < bank.size
    · exact ⟨_, write_of_big (by omega) inside.1 inside.2⟩
    · obtain ⟨_, refused, -⟩ := @refuses_write bank location value (by omega)
      exact ⟨_, refused⟩
  | block location bytes =>
    rw [Write.Fits, not_or] at unfit
    obtain ⟨_, refused, -⟩ := refuses_writeBlock unfit.1 unfit.2
    exact ⟨_, refused⟩
  | zeros offset count =>
    rw [Write.Fits, Contains] at unfit
    by_cases inside : 0 < offset + count ∧ offset + count ≤ bank.size
    · rw [serve, zeroBlock_of_inside inside.1 inside.2]
      cases Extent.checkRun count with
      | error fault => exact ⟨fault, rfl⟩
      | ok passed => exact ⟨_, if_pos (by omega)⟩
    · obtain ⟨_, refused, -⟩ := @refuses_zeroBlock bank offset count _ (by omega)
      exact ⟨_, refused⟩
  | clear => exact ⟨_, if_pos (Int.not_le.1 unfit)⟩

/-! ## Banks in use -/

theorem Laid.kept [HostMemory] {start : Int} {data : List Int} (laid : Laid start data bank after)
    (kept : bank.Kept) : after.Kept where
  size_cells := by rw [laid.size_cells, kept.size_cells, laid.size_eq]
  room := by rw [laid.size_eq]; exact kept.room

theorem kept_of_create [HostMemory] (made : create size = .ok bank) : bank.Kept := by
  rw [create] at made
  cases passed : Extent.check Extent.room size with
  | error fault =>
    rw [passed] at made
    cases made
  | ok allowed =>
    rw [passed] at made
    injection made with same
    subst same
    exact ⟨Array.size_replicate, (Extent.check_eq_ok_iff.1 passed).2⟩

/-- **A bank in use has the cells that its size asks for.** -/
theorem InUse.kept [HostMemory] (inUse : InUse bank) : bank.Kept := by
  induction inUse with
  | created made => exact kept_of_create made
  | @resized bank _ size kept =>
    rw [resize]
    cases made : create size with
    | error fault => exact kept
    | ok new => exact kept_of_create made
  | @written bank _ write kept =>
    by_cases fits : write.Fits bank
    · obtain ⟨after, run, laid⟩ := kept.serve_of_fits fits
      rw [run]
      exact laid.kept kept
    · obtain ⟨fault, refused⟩ := serve_of_not_fits fits
      rw [refused]
      exact kept

/-- **A write is exact or leaves the bank untouched.** Of a bank in use, whatever its size and
whatever has been asked of it, a write that is refused changes nothing, for whatever reason
it is. One that is granted lays its data down inside the bank and touches no other byte, nor
the size; and then each byte and each range inside the bank reads as what is there. A write
is granted exactly when it fits. -/
theorem InUse.writes_exactly [HostMemory] (inUse : InUse bank) (write : Write) :
    ((∃ after, serve write bank = .ok () after) ↔ write.Fits bank) ∧
    (∀ fault after, serve write bank = .error fault after → after = bank) ∧
    ∀ after, serve write bank = .ok () after →
      Laid write.start (write.data bank.size) bank after ∧
      ∀ location count : Int, 0 < count → after.Contains location count →
        read location after = .ok (after.byteAt location.toNat) after ∧
        readBlock location count after =
          .ok (after.bytes location.toNat count.toNat) after := by
  have kept := inUse.kept
  by_cases fits : write.Fits bank
  · obtain ⟨after, run, laid⟩ := kept.serve_of_fits fits
    refine ⟨⟨fun _ => fits, fun _ => ⟨after, run⟩⟩, fun fault left refused => ?_,
      fun left granted => ?_⟩
    · rw [run] at refused
      cases refused
    · rw [run] at granted
      injection granted with _ same
      subst same
      refine ⟨laid, fun location count some inside => ⟨?_, ?_⟩⟩
      · obtain ⟨nonneg, le⟩ := inside
        exact read_of_inside nonneg (by omega)
      · exact readBlock_of_contains (laid.kept kept).size_cells some inside
  · obtain ⟨fault, refused⟩ := serve_of_not_fits fits
    refine ⟨⟨fun ⟨after, granted⟩ => ?_, fun fits' => absurd fits' fits⟩, fun cause left run => ?_,
      fun left granted => ?_⟩
    · rw [refused] at granted
      cases granted
    · rw [refused] at run
      injection run with _ same
      exact same.symm
    · rw [refused] at granted
      cases granted

/-- Zeros laid over the end of a block leave its beginning, and where they would begin below
zero they are not laid at all. -/
theorem writes_exactly_of_zeros :
    letI := HostMemory.usual
    ∃ bank after, InUse bank ∧ bank.bytes 0 5 = [0, 0xFD, 0xFE, 0xFF, 0] ∧
      serve (.zeros 2 3) bank = .ok () after ∧ after.byteAt 1 = 0xFD ∧
      readBlock 2 3 after = .ok [0, 0, 0] after ∧
      ∀ cause left, serve (.zeros (-1) 3) bank = .error cause left → left = bank := by
  let _ := HostMemory.usual
  let bank := left (serve (.block 1 [0xFD, 0xFE, 0xFF]) (blank 5))
  have new : InUse (blank 5) := .created (show create 5 = .ok (blank 5) from rfl)
  have inUse : InUse bank := new.written (.block 1 [0xFD, 0xFE, 0xFF])
  obtain ⟨grants, -, exact⟩ := inUse.writes_exactly (.zeros 2 3)
  obtain ⟨after, run⟩ := grants.2 ⟨⟨by decide, by decide⟩, by decide, by decide⟩
  obtain ⟨laid, reads⟩ := exact after run
  obtain ⟨-, untouched, -⟩ := inUse.writes_exactly (.zeros (-1) 3)
  have size : after.size = 5 := laid.size_eq
  have zeros : after.bytes 2 3 = [0, 0, 0] := by
    have under : (after.bytes 2 3).map (fun byte => (byte.toNat : Int)) = [0, 0, 0] := laid.under
    rw [← map_ofInt_toNat (after.bytes 2 3), under]
    rfl
  refine ⟨bank, after, inUse, rfl, run, laid.beside 1 (.inl (by decide)), ?_, untouched⟩
  rw [← zeros]
  exact (reads 2 3 (by decide) ⟨by decide, by omega⟩).2

end Bank
end Chip8
