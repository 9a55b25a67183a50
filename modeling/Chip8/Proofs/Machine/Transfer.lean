import Chip8.Proofs.Machine.Parts
/-!
# Registers to memory and back

Storing registers and storing decimal digits look at the whole range first, so
that either everything is written or nothing (`storeRegisters_of_le`,
`storeRegisters_of_gt`, `storeDecimal_of_le`, `storeDecimal_of_gt`). Loading
registers reads byte by byte: refused, it has filled the registers whose bytes
lie in memory and no others (`loadRegisters_of_le`, `loadRegisters_of_gt`).
-/

namespace Chip8

/-! ## Lists of registers -/

namespace Registers

/-- The registers in a list filled from a source, one after another. -/
def fill (source : Fin 16 → UInt8) (targets : List (Fin 16)) (registers : Registers) : Registers :=
  targets.foldl (fun registers r => registers.set r (source r)) registers

/-- **What filling leaves**: the source in the registers of the list, and the
others as they were. -/
theorem get_fill (source : Fin 16 → UInt8) (targets : List (Fin 16)) (registers : Registers)
    (r : Fin 16) :
    (registers.fill source targets).get r =
      if targets.contains r then source r else registers.get r := by
  induction targets generalizing registers with
  | nil => rfl
  | cons target targets ih =>
    rw [show registers.fill source (target :: targets) =
      (registers.set target (source target)).fill source targets from rfl, ih]
    simp only [List.contains_iff_mem]
    by_cases later : r ∈ targets
    · rw [if_pos later, if_pos (List.mem_cons_of_mem target later)]
    · by_cases same : r = target
      · subst same
        rw [if_neg later, if_pos List.mem_cons_self, get_set_self]
      · rw [if_neg later, if_neg (by simp [same, later]), get_set_of_ne (Ne.symm same)]

/-- Filling touches nothing but the contents of the registers. -/
theorem fill_eq (source : Fin 16 → UInt8) (targets : List (Fin 16)) (registers : Registers) :
    registers.fill source targets =
      { registers with v := (registers.fill source targets).v } := by
  induction targets generalizing registers with
  | nil => rfl
  | cons target targets ih => exact ih (registers.set target (source target))

end Registers

namespace Machine

variable {δ : Type} {machine : Machine δ}

/-- The first registers, so many. -/
def firstRegisters (count : Nat) : List (Fin 16) := (List.finRange 16).take count

theorem mem_firstRegisters {count : Nat} {r : Fin 16} : r ∈ firstRegisters count ↔ r < count := by
  rw [firstRegisters, List.mem_take_iff_getElem]
  constructor
  · rintro ⟨i, inside, rfl⟩
    rw [List.getElem_finRange]
    exact Nat.lt_of_lt_of_le inside (Nat.min_le_left _ _)
  · intro lt
    refine ⟨r.val, ?_, ?_⟩
    · rw [List.length_finRange]
      omega
    · rw [List.getElem_finRange]
      rfl

/-- One register more. -/
theorem firstRegisters_succ {count : Nat} (lt : count < 16) :
    firstRegisters (count + 1) = firstRegisters count ++ [⟨count, lt⟩] := by
  rw [firstRegisters, firstRegisters, ← List.take_append_getElem (by rwa [List.length_finRange]),
    List.getElem_finRange]
  rfl

/-- The first registers, parted at one of them. -/
theorem firstRegisters_split {part count : Nat} (lt : part < count) (le : count ≤ 16) :
    ∃ rest, firstRegisters count = firstRegisters part ++ ⟨part, by omega⟩ :: rest := by
  obtain ⟨more, rfl⟩ : ∃ more, count = part + 1 + more := ⟨count - part - 1, by omega⟩
  refine ⟨((List.finRange 16).drop (part + 1)).take more, ?_⟩
  rw [firstRegisters, List.take_add, ← firstRegisters, firstRegisters_succ (by omega),
    List.append_assoc]
  rfl

/-! ## Storing -/

/-- The address in the index register. -/
def index (machine : Machine δ) : Nat := machine.registers.i.toNat

/-- Stores one register. -/
def storeRegister (address : Nat) (r : Fin 16) : Operation (Machine δ) Unit := do
  onMemory (Bank.write (address + r.val) (← reg r).toNat)

/-- A byte is written where it lies in memory. -/
theorem writeByte_of_lt (memory : machine.memory.HasCells Memory.size) {location : Int}
    {address value : Nat} (place : location = address) (inside : address < Memory.size)
    (byte : value ≤ 255) :
    onMemory (Bank.write location value) machine =
      .ok () { machine with memory := machine.memory.written address [UInt8.ofNat value] } := by
  subst place
  exact onMemory_of_ok (Bank.write_of_lt memory (by omega) (by omega) byte)

theorem storeRegister_of_lt (memory : machine.memory.HasCells Memory.size) {address : Nat}
    {r : Fin 16} (inside : address + r < Memory.size) :
    storeRegister address r machine =
      .ok () { machine with
        memory := machine.memory.written (address + r) [machine.registers.get r] } := by
  have byte := (machine.registers.get r).toNat_lt
  have written := writeByte_of_lt memory (Int.natCast_add address r).symm inside
    (Nat.le_of_lt_succ byte)
  rw [UInt8.ofNat_toNat] at written
  exact written

/-- The first registers are stored one after the other. -/
theorem forM_storeRegister (memory : machine.memory.HasCells Memory.size) {address count : Nat}
    (le : count ≤ 16) (inside : address + count ≤ Memory.size) :
    (firstRegisters count).forM (storeRegister address) machine =
      .ok () { machine with
        memory := machine.memory.written address (machine.registers.v.toList.take count) } := by
  -- one register more is written behind those that are in memory already
  induction count with
  | zero => rfl
  | succ count ih =>
    have length : (machine.registers.v.toList.take count).length = count := by
      rw [List.length_take, Vector.length_toList]
      omega
    have under : count < machine.registers.v.toList.length := by rwa [Vector.length_toList]
    have value : [machine.registers.get ⟨count, le⟩] = [machine.registers.v.toList[count]] := by
      rw [Vector.getElem_toList]
      rfl
    rw [firstRegisters_succ le, Operation.forM_append_of_ok (ih (by omega) (by omega)),
      ← List.take_append_getElem under, Bank.written_append, length, ← value]
    exact Operation.bind_of_ok
      (storeRegister_of_lt (memory.written _ _) (show address + count < Memory.size by omega))

/-- **Registers that fit are stored**, up to the one named. -/
theorem storeRegisters_of_le (memory : machine.memory.HasCells Memory.size) {x : Fin 16}
    (inside : machine.index + x < Memory.size) :
    storeRegisters x machine =
      .ok () { machine with
        memory := machine.memory.written machine.index
          (machine.registers.v.toList.take (x + 1)) } := by
  have checked : onMemory (Bank.check (machine.index + x.val)) machine = .ok () machine :=
    onMemory_of_ok (Bank.check_of_lt memory (by omega) (by omega))
  have stored := forM_storeRegister memory (show x.val + 1 ≤ 16 by omega)
    (show machine.index + (x.val + 1) ≤ Memory.size by omega)
  exact (Operation.bind_of_ok checked).trans stored

/-- **Otherwise none is.** -/
theorem storeRegisters_of_gt (memory : machine.memory.HasCells Memory.size) {x : Fin 16}
    (outside : Memory.size ≤ machine.index + x) :
    storeRegisters x machine = .error (.outOfRange (machine.index + x.val)) machine := by
  have checked : onMemory (Bank.check (machine.index + x.val)) machine =
      .error (.outOfRange (machine.index + x.val)) machine :=
    onMemory_of_error (Bank.check_of_ge memory (by omega))
  change (onMemory (Bank.check (machine.index + x.val)) >>= fun _ =>
    (firstRegisters (x + 1)).forM (storeRegister machine.index)) machine = _
  exact Operation.bind_of_error checked

/-! ## Storing digits -/

/-- The three decimal digits of a byte. -/
def digits (value : UInt8) : List UInt8 :=
  [UInt8.ofNat (value.toNat / 100), UInt8.ofNat (value.toNat / 10 % 10),
    UInt8.ofNat (value.toNat % 10)]

theorem storeDecimal_eq (x : Fin 16) (machine : Machine δ) :
    storeDecimal x machine =
      (onMemory (Bank.check (machine.index + 2)) >>= fun _ =>
        onMemory (Bank.write machine.index ((machine.registers.get x).toNat / 100 : Nat))
        >>= fun _ =>
        onMemory (Bank.write (machine.index + 1) ((machine.registers.get x).toNat / 10 % 10 : Nat))
        >>= fun _ =>
        onMemory (Bank.write (machine.index + 2) ((machine.registers.get x).toNat % 10 : Nat)))
      machine := rfl

/-- **Digits that fit are stored**, the highest first. -/
theorem storeDecimal_of_le (memory : machine.memory.HasCells Memory.size) {x : Fin 16}
    (inside : machine.index + 2 < Memory.size) :
    storeDecimal x machine =
      .ok () { machine with
        memory := machine.memory.written machine.index (digits (machine.registers.get x)) } := by
  have small := (machine.registers.get x).toNat_lt
  have checked : onMemory (Bank.check (machine.index + 2)) machine = .ok () machine :=
    onMemory_of_ok (Bank.check_of_lt memory (by omega) (by omega))
  -- the check of the last place covers the two before it
  have second : (machine.index : Int) + 1 = (machine.index + 1 : Nat) := rfl
  have third : (machine.index : Int) + 2 = (machine.index + 2 : Nat) := rfl
  rw [storeDecimal_eq, Operation.bind_of_ok checked,
    Operation.bind_of_ok (writeByte_of_lt memory rfl (by omega) (by omega)),
    Operation.bind_of_ok (writeByte_of_lt (memory.written _ _) second (by omega) (by omega))]
  exact writeByte_of_lt ((memory.written _ _).written _ _) third (by omega) (by omega)

/-- **Otherwise none is.** -/
theorem storeDecimal_of_gt (memory : machine.memory.HasCells Memory.size) {x : Fin 16}
    (outside : Memory.size ≤ machine.index + 2) :
    storeDecimal x machine = .error (.outOfRange (machine.index + 2)) machine := by
  have checked : onMemory (Bank.check (machine.index + 2)) machine =
      .error (.outOfRange (machine.index + 2)) machine :=
    onMemory_of_error (Bank.check_of_ge memory (by omega))
  rw [storeDecimal_eq, Operation.bind_of_error checked]

/-! ## Loading -/

/-- Loads one register. -/
def loadRegister (address : Nat) (r : Fin 16) : Operation (Machine δ) Unit := do
  setReg r (← onMemory (Bank.read (address + r.val)))

/-- The registers with the first ones loaded from memory. -/
def loaded (machine : Machine δ) (count : Nat) : Registers :=
  machine.registers.fill (fun r => machine.memory.byteAt (machine.index + r))
    (firstRegisters count)

/-- **What loading leaves**: memory in the first registers. -/
theorem get_loaded (machine : Machine δ) (count : Nat) (r : Fin 16) :
    (machine.loaded count).get r =
      if r < count then machine.memory.byteAt (machine.index + r) else machine.registers.get r := by
  rw [loaded, Registers.get_fill]
  simp only [List.contains_iff_mem, mem_firstRegisters]

/-- Registers whose bytes lie in memory are loaded one after the other. -/
theorem forM_loadRegister (memory : machine.memory.HasCells Memory.size) {address : Nat}
    (targets : List (Fin 16)) (inside : ∀ r ∈ targets, address + r < Memory.size) :
    targets.forM (loadRegister address) machine =
      .ok () { machine with
        registers := machine.registers.fill (fun r => machine.memory.byteAt (address + r))
          targets } := by
  induction targets generalizing machine with
  | nil => rfl
  | cons r targets ih =>
    have place := inside r List.mem_cons_self
    have read : onMemory (Bank.read (address + r.val)) machine =
        .ok (machine.memory.byteAt (address + r)) machine :=
      onMemory_of_ok (Bank.read_of_lt memory (by omega) (by omega))
    have first : loadRegister address r machine = .ok () { machine with
        registers := machine.registers.set r (machine.memory.byteAt (address + r)) } :=
      Operation.bind_of_ok read
    have rest := @ih { machine with
      registers := machine.registers.set r (machine.memory.byteAt (address + r)) }
      memory fun r' later => inside r' (List.mem_cons_of_mem r later)
    exact (Operation.bind_of_ok first).trans rest

/-- **Registers that fit are loaded**, up to the one named. -/
theorem loadRegisters_of_le (memory : machine.memory.HasCells Memory.size) {x : Fin 16}
    (inside : machine.index + x < Memory.size) :
    loadRegisters x machine = .ok () { machine with registers := machine.loaded (x + 1) } := by
  have places : ∀ r ∈ firstRegisters (x + 1), machine.index + r < Memory.size := by
    intro r mem
    have := mem_firstRegisters.1 mem
    omega
  exact forM_loadRegister memory (firstRegisters (x + 1)) places

/-- **Otherwise those whose bytes lie in memory are**, and no others. -/
theorem loadRegisters_of_gt (memory : machine.memory.HasCells Memory.size) {x : Fin 16}
    (outside : Memory.size ≤ machine.index + x) :
    loadRegisters x machine =
      .error (.outOfRange (max machine.index Memory.size : Nat))
        { machine with registers := machine.loaded (Memory.size - machine.index) } := by
  generalize fitting : Memory.size - machine.index = fit
  have fit_lt : fit < 16 := by omega
  obtain ⟨rest, split⟩ := firstRegisters_split (show fit < x.val + 1 by omega) (by omega)
  have places : ∀ r ∈ firstRegisters fit, machine.index + r < Memory.size := by
    intro r mem
    have := mem_firstRegisters.1 mem
    omega
  have first : (machine.index : Int) + fit = (max machine.index Memory.size : Nat) := by omega
  have outsideFirst : (Memory.size : Int) ≤ machine.index + fit := by omega
  -- the first register that does not fit is read from the memory that all of them are read from
  have refused : loadRegister machine.index ⟨fit, fit_lt⟩
      { machine with registers := machine.loaded fit } =
        .error (.outOfRange (max machine.index Memory.size : Nat))
          { machine with registers := machine.loaded fit } := by
    rw [← first]
    exact Operation.bind_of_error (onMemory_of_error (Bank.read_of_ge memory outsideFirst))
  change (firstRegisters (x + 1)).forM (loadRegister machine.index) machine = _
  rw [split, Operation.forM_append_of_ok (forM_loadRegister memory _ places)]
  exact Operation.bind_of_error refused

end Machine
end Chip8
