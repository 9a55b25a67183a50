import Chip8.Fault
/-!
# Extents

How many cells a bank, a call stack or a picture may be asked for. The number
has to fit a signed 64-bit word, and the memory of the host has room for so many
only (`check_eq_ok_iff`). A negative extent stands for no cells; whether that is
allowed is up to what is asked for.
-/

namespace Chip8

/-- The memory of a host. -/
class HostMemory where
  /-- The most cells that there is room for in one run. A picture has three for each pixel. -/
  room : Nat
  /-- The memory of a machine fits, and so does a picture of the usual size. -/
  least : 0x2000 ≤ room
  /-- Twice as many can be counted by a word. -/
  most : 2 * room < 0x8000000000000000

/-- A host that has room for two to the thirtieth cells. -/
@[reducible]
def HostMemory.usual : HostMemory := ⟨0x40000000, by decide, by decide⟩

namespace Extent

/-- The number fits a signed 64-bit word. -/
def isWord (n : Int) : Bool := -0x8000000000000000 ≤ n && n < 0x8000000000000000

/-- The most cells that there is room for. -/
def room [HostMemory] : Nat := HostMemory.room

theorem le_room [HostMemory] {extent : Nat} (small : extent ≤ 0x2000) : extent ≤ room :=
  Nat.le_trans small HostMemory.least

/-- There is room for less than half of what a word can count. -/
theorem room_lt [HostMemory] : ((2 * room : Nat) : Int) < 0x8000000000000000 := by
  have most := HostMemory.most
  rw [room]
  omega

/-- Refuses an extent that is no word, or that is more than there is room
for. -/
def check (room : Nat) (extent : Int) : Except Fault Unit :=
  if !isWord extent then .error .tooLarge
  else if extent > room then .error .outOfMemory
  else .ok ()

/-- **What is allowed.** An extent passes if it is a word and there is room for
it. -/
theorem check_eq_ok_iff {room : Nat} {extent : Int} :
    check room extent = .ok () ↔ isWord extent = true ∧ extent ≤ room := by
  unfold check
  cases isWord extent
  · simp
  · by_cases h : extent > room
    · simp [h, Int.not_le.mpr h]
    · simp [h, Int.not_lt.mp h]

/-- An extent passes if there is room for it, and the room itself is a word. -/
theorem check_of_le {room extent : Nat} (word : (room : Int) < 0x8000000000000000)
    (le : extent ≤ room) : check room extent = .ok () := by
  refine check_eq_ok_iff.2 ⟨?_, Int.ofNat_le.2 le⟩
  rw [isWord, Bool.and_eq_true, decide_eq_true_eq, decide_eq_true_eq]
  omega

theorem check_of_room [HostMemory] {extent : Nat} (le : extent ≤ room) :
    check room extent = .ok () := by
  have most := room_lt
  exact check_of_le (by omega) le

/-- An extent for which there is no room is refused, for one of two reasons. -/
theorem check_of_gt {room extent : Nat} (gt : room < extent) :
    ∃ fault, check room extent = .error fault ∧ (fault = .tooLarge ∨ fault = .outOfMemory) := by
  unfold check
  split
  · exact ⟨.tooLarge, rfl, Or.inl rfl⟩
  · exact ⟨.outOfMemory, if_pos (Int.ofNat_lt.2 gt), Or.inr rfl⟩

/-- What a run of zeros takes in memory besides its bytes. -/
def header : Nat := 33

/-- Refuses a run of zeros whose length is no word together with its header,
and one for which there is no room. -/
def checkRun [HostMemory] (length : Int) : Except Fault Unit :=
  if isWord length && !isWord (length + header) then .error .tooLarge
  else check room length

/-- A run of zeros passes if there is room for it. -/
theorem checkRun_of_le [HostMemory] {length : Int} (nonneg : 0 ≤ length) (le : length ≤ room) :
    checkRun length = .ok () := by
  obtain ⟨count, rfl⟩ := Int.eq_ofNat_of_zero_le nonneg
  have words : isWord (count + header) = true := by
    rw [isWord, header, Bool.and_eq_true, decide_eq_true_eq, decide_eq_true_eq]
    have most := room_lt
    have least : 0x2000 ≤ room := le_room (Nat.le_refl _)
    omega
  rw [checkRun, words, Bool.not_true, Bool.and_false, if_neg Bool.false_ne_true]
  exact check_of_room (Int.ofNat_le.1 le)

/-- A run of zeros for which there is no room is refused, for one of two reasons. -/
theorem checkRun_of_gt [HostMemory] {length : Int} (gt : room < length) :
    ∃ fault, checkRun length = .error fault ∧ (fault = .tooLarge ∨ fault = .outOfMemory) := by
  obtain ⟨count, rfl⟩ := Int.eq_ofNat_of_zero_le (show 0 ≤ length by omega)
  rw [checkRun]
  split
  · exact ⟨.tooLarge, rfl, .inl rfl⟩
  · exact check_of_gt (Int.ofNat_lt.1 gt)

end Extent
end Chip8
