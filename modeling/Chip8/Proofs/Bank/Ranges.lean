import Chip8.Proofs.Bank.Writes
/-!
# Ranges of a bank

A range of at least one location lies inside a bank or does not. Whoever reads it or writes
a block to it succeeds in the first case, and is told of a location outside in the second
one. So is whoever fills it with zeros, unless it begins below zero and ends inside
(`Straddles`): of the zeros only the last location is checked, so that these are refused for
another reason (`InUse.ranges_refused`, `ranges_differ`).
-/

namespace Chip8
namespace Bank

open Operation

/-- The range begins below zero and ends inside the bank. -/
def Straddles (bank : Bank) (location count : Int) : Prop :=
  location < 0 ∧ 0 < location + count ∧ location + count ≤ bank.size

variable {bank : Bank} {location count : Int}

theorem refuses_read (outside : location < 0 ∨ bank.size ≤ location) :
    Refuses (read location) bank :=
  ⟨location, read_of_outside outside, outside⟩

theorem refuses_readBlock (outside : ¬ bank.Contains location count) :
    Refuses (readBlock location count) bank :=
  refuses_ends outside

/-- Zeros are refused for their last location where that lies outside. -/
theorem refuses_zeroBlock_of_apart [HostMemory] (outside : ¬ bank.Contains location count)
    (apart : ¬ bank.Straddles location count) : Refuses (zeroBlock location count) bank := by
  rw [Contains] at outside
  rw [Straddles] at apart
  exact refuses_zeroBlock (by omega)

/-- Where only the first location lies outside, zeros are refused as a bad value if there is
room to lay them out, and as too many if there is none. -/
theorem zeroBlock_of_straddles [HostMemory] (straddles : bank.Straddles location count) :
    ∃ fault, zeroBlock location count bank = .error fault bank ∧
      if count ≤ Extent.room then fault = .badValue
      else fault = .tooLarge ∨ fault = .outOfMemory := by
  obtain ⟨below, pos, le⟩ := straddles
  rw [zeroBlock_of_inside pos le]
  by_cases room : count ≤ Extent.room
  · rw [Extent.checkRun_of_le (by omega) room]
    refine ⟨.badValue, if_pos (.inr below), ?_⟩
    rw [if_pos room]
  · obtain ⟨fault, refused, kind⟩ := Extent.checkRun_of_gt (Int.not_le.1 room)
    rw [refused]
    refine ⟨fault, rfl, ?_⟩
    rw [if_neg room]
    exact kind

/-- **Which ranges are refused, and for what.** Of a bank in use, a range of at least one
location can be read, written to and filled with zeros where it lies inside. Where it does
not, reading and writing are refused for a location that lies outside. So is filling with
zeros, except for a range that begins below zero and ends inside, which is refused for
another reason. Single locations outside are refused as such, whatever is to be written
there. Nothing that is refused changes the bank. -/
theorem InUse.ranges_refused [HostMemory] (inUse : InUse bank) (location : Int) {count : Int}
    (some : 0 < count) :
    (bank.Contains location count →
      (∃ bytes, readBlock location count bank = .ok bytes bank) ∧
      (∀ block : List UInt8, block.length = count →
        ∃ after, writeBlock location block bank = .ok () after) ∧
      ∃ after, zeroBlock location count bank = .ok () after) ∧
    (¬ bank.Contains location count →
      Refuses (readBlock location count) bank ∧
      (∀ block : List UInt8, block.length = count → Refuses (writeBlock location block) bank) ∧
      (¬ bank.Straddles location count → Refuses (zeroBlock location count) bank) ∧
      (bank.Straddles location count →
        ∃ fault, zeroBlock location count bank = .error fault bank ∧
          if count ≤ Extent.room then fault = .badValue
          else fault = .tooLarge ∨ fault = .outOfMemory)) ∧
    (location < 0 ∨ bank.size ≤ location →
      Refuses (read location) bank ∧ ∀ value, Refuses (write location value) bank) := by
  have kept := inUse.kept
  have bytes : ∀ block : List UInt8, block.length = count → block ≠ [] := by
    rintro block length rfl
    rw [List.length_nil] at length
    omega
  refine ⟨fun inside => ⟨?_, fun block length => ?_, ?_⟩,
    fun outside => ⟨refuses_readBlock outside, fun block length => ?_,
      refuses_zeroBlock_of_apart outside, zeroBlock_of_straddles⟩,
    fun outside => ⟨refuses_read outside, fun value => refuses_write outside⟩⟩
  · exact ⟨_, readBlock_of_contains kept.size_cells some inside⟩
  · exact ⟨_, writeBlock_of_contains (bytes block length) (length ▸ inside)⟩
  · have fits : (Write.zeros location count).Fits bank :=
      ⟨inside, by omega, by rw [Contains] at inside; omega⟩
    obtain ⟨after, run, -⟩ := kept.serve_of_fits fits
    exact ⟨after, run⟩
  · exact refuses_writeBlock (bytes block length) (length ▸ outside)

/-- The last two of five locations can be filled with zeros, and those behind them are
outside. -/
theorem ranges_refused_of_five :
    letI := HostMemory.usual
    ∃ bank, InUse bank ∧ bank.size = 5 ∧ (∃ after, zeroBlock 3 2 bank = .ok () after) ∧
      Refuses (zeroBlock 3 3) bank ∧ Refuses (writeBlock (-1) [0xFE, 0xFF]) bank := by
  let _ := HostMemory.usual
  have inUse : InUse (blank 5) := .created (show create 5 = .ok (blank 5) from rfl)
  obtain ⟨granted, -⟩ := inUse.ranges_refused 3 (show (0 : Int) < 2 by decide)
  obtain ⟨-, above, -⟩ := inUse.ranges_refused 3 (show (0 : Int) < 3 by decide)
  obtain ⟨-, below, -⟩ := inUse.ranges_refused (-1) (show (0 : Int) < 2 by decide)
  have top : ¬ (blank 5).Contains 3 3 := fun inside => absurd inside.2 (by decide)
  have start : ¬ (blank 5).Straddles 3 3 := fun straddles => absurd straddles.1 (by decide)
  have bottom : ¬ (blank 5).Contains (-1) 2 := fun inside => absurd inside.1 (by decide)
  refine ⟨blank 5, inUse, rfl, (granted ⟨by decide, by decide⟩).2.2, (above top).2.2.1 start, ?_⟩
  exact (below bottom).2.1 [0xFE, 0xFF] rfl

/-- **Zeros that begin below the bank are not told that they do.** In a bank of five bytes a
block of two at minus one is refused for that location, to read and to write, and the same
two zeros are refused as a bad value. -/
theorem ranges_differ :
    letI := HostMemory.usual
    ∃ bank, create 5 = .ok bank ∧ InUse bank ∧ ¬ bank.Contains (-1) 2 ∧
      readBlock (-1) 2 bank = .error (.outOfRange (-1)) bank ∧
      writeBlock (-1) [0, 0] bank = .error (.outOfRange (-1)) bank ∧
      zeroBlock (-1) 2 bank = .error .badValue bank ∧ ¬ Refuses (zeroBlock (-1) 2) bank := by
  let _ := HostMemory.usual
  have made : create 5 = .ok (blank 5) := rfl
  have below : ¬ (blank 5).Contains (-1) 2 := fun inside => absurd inside.1 (by decide)
  have bad : zeroBlock (-1) 2 (blank 5) = .error .badValue (blank 5) := rfl
  refine ⟨blank 5, made, .created made, below, rfl, rfl, bad, ?_⟩
  rintro ⟨location, refused, -⟩
  rw [bad] at refused
  cases refused

end Bank
end Chip8
