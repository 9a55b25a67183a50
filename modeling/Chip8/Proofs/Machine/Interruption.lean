import Chip8.Proofs.Machine.Drawing
import Chip8.Proofs.Machine.Halting
/-!
# What a halted step leaves

A step that halts while it fetches has noted where it fetched from, and nothing
else. One that halts while it executes is `Interrupted`: the program counter has
moved on, and all else is as before but for the registers that could be loaded and
the rows that could be drawn. Storing is never left half done (`StoresWhole`).
-/

namespace Chip8
namespace Machine

variable {machine before after left : Machine Framebuffer} {fault : Fault} {i : Instruction}

/-! ## The part of an instruction that was done -/

/-- The upcoming word loads registers. -/
def Loads (machine : Machine Framebuffer) : Prop :=
  machine.upcomingWord / 4096 = 0xF ∧ machine.upcomingWord % 256 = 0x65

/-- The upcoming word draws a sprite, one of whose rows that lie in memory
covers a dot. -/
def Covers (machine : Machine Framebuffer) (dot : Nat × Nat) : Prop :=
  let op := machine.upcomingWord
  let left := (machine.registers.get (Fin.ofNat 16 (op / 256))).toNat % 64
  let top := (machine.registers.get (Fin.ofNat 16 (op / 16))).toNat % 32
  op / 4096 = 0xD ∧ ∃ row, machine.index + row ≤ 4095 ∧ ∃ column < 8,
    (machine.memory.byteAt (machine.index + row)).toNat.testBit (7 - column) = true ∧
      dot = ((left + column) % 64, (top + row) % 32)

/-- **What a step leaves that halts while it executes.** -/
structure Interrupted (before after : Machine Framebuffer) : Prop where
  /-- The program counter has moved on. -/
  pc : after.registers.pc =
    if before.registers.pc + 2 ≥ 4096 then 0x200 else before.registers.pc + 2
  /-- The opcode is the one that halted. -/
  opcode : after.opcode = before.upcomingWord
  fetchedFrom : after.fetchedFrom = before.registers.pc
  memory : after.memory = before.memory
  index : after.registers.i = before.registers.i
  stack : after.registers.stack = before.registers.stack
  timers : after.timers = before.timers
  keypad : after.keypad = before.keypad
  drawn : after.drawn = before.drawn
  /-- The registers that fit are loaded. -/
  loaded : before.Loads → ∀ r : Fin 16, before.index + r ≤ 4095 →
    after.registers.get r = before.memory.byteAt (before.index + r)
  /-- The others are as before. -/
  registers : ∀ r : Fin 16, ¬ (before.Loads ∧ before.index + r ≤ 4095) →
    after.registers.get r = before.registers.get r
  /-- The repaint that is wanted, and the sides, are as before. -/
  display : ∃ pixels, after.display = { before.display with pixels := pixels }
  /-- The pixels under the rows that fit are inverted. -/
  covered : ∀ dot : Nat × Nat, dot.1 < 64 → dot.2 < 32 → before.Covers dot →
    after.display.pixel dot = before.display.pixel dot ^^^ 0xFF
  /-- The others are as before. -/
  pixels : ∀ dot : Nat × Nat, dot.1 < 64 → dot.2 < 32 → ¬ before.Covers dot →
    after.display.pixel dot = before.display.pixel dot

/-! ## Registers -/

/-- Only loading leaves other registers behind. -/
theorem registersLeft_of_ne (other : ∀ x, i ≠ .ldVxMem x) :
    machine.registersLeft i = machine.registers := by
  cases i with
  | ldVxMem x => exact absurd rfl (other x)
  | _ => rfl

theorem registersLeft_of_loads (loads : machine.Loads) (r : Fin 16) :
    (machine.poised.registersLeft machine.upcoming).get r =
      if machine.index + r ≤ 4095 then machine.memory.byteAt (machine.index + r)
      else machine.registers.get r := by
  have fit : r.val < Memory.size - machine.index ↔ machine.index + r ≤ 4095 := by
    rw [Memory.size]
    omega
  have filled := get_loaded machine.poised (Memory.size - machine.index) r
  have upcoming : machine.upcoming = .ldVxMem _ :=
    upcoming_of_matches nofun ⟨loads.1, loads.2, rfl⟩
  rw [upcoming]
  by_cases inside : machine.index + r ≤ 4095
  · rw [if_pos inside]
    exact filled.trans (if_pos (fit.2 inside))
  · rw [if_neg inside]
    exact filled.trans (if_neg fun lt => inside (fit.1 lt))

theorem registersLeft_of_not_loads (other : ¬ machine.Loads) :
    machine.poised.registersLeft machine.upcoming = machine.poised.registers :=
  registersLeft_of_ne fun _ upcoming => by
    obtain ⟨op, last, -⟩ := matches_of_upcoming upcoming
    exact other ⟨op, last⟩

/-! ## Pixels -/

/-- Only drawing leaves another display behind. -/
theorem displayLeft_of_ne (other : ∀ x y n, i ≠ .drw x y n) :
    machine.displayLeft i = machine.display := by
  cases i with
  | drw x y n => exact absurd rfl (other x y n)
  | _ => rfl

/-- A sprite that is refused has fewer rows in memory than it has rows. -/
theorem rows_of_refused {x y n : Fin 16} (refused : machine.refusal (.drw x y n) = some fault) :
    Memory.size - machine.index ≤ 32 := by
  have outside := (of_refused refused).1
  omega

/-- The dots of the rows that fit are those that the upcoming word covers. -/
theorem covers_iff (sound : machine.Sound 64 32) (draws : machine.upcomingWord / 4096 = 0xD)
    (dot : Nat × Nat) :
    machine.Covers dot ↔
      dot ∈ machine.spriteDots (Fin.ofNat 16 (machine.upcomingWord / 256))
        (Fin.ofNat 16 (machine.upcomingWord / 16)) (Memory.size - machine.index) := by
  rw [spriteDots_usual sound.display, Sprite.mem_dots_held, Covers]
  constructor
  · rintro ⟨-, row, inside, rest⟩
    exact ⟨row, by rw [Memory.size]; omega, rest⟩
  · rintro ⟨row, inside, rest⟩
    rw [Memory.size] at inside
    exact ⟨draws, row, by omega, rest⟩

/-- **The pixels after a step that is refused**: those under the rows that fit
are inverted, and no others. -/
theorem pixel_displayLeft (sound : machine.Sound 64 32)
    (refused : machine.poised.refusal machine.upcoming = some fault) {dot : Nat × Nat}
    (column : dot.1 < 64) (row : dot.2 < 32) :
    (machine.Covers dot → (machine.poised.displayLeft machine.upcoming).pixel dot =
      machine.display.pixel dot ^^^ 0xFF) ∧
    (¬ machine.Covers dot → (machine.poised.displayLeft machine.upcoming).pixel dot =
      machine.display.pixel dot) := by
  by_cases draws : machine.upcomingWord / 4096 = 0xD
  · have upcoming : machine.upcoming = .drw _ _ _ :=
      upcoming_of_matches nofun ⟨⟨draws, rfl, rfl⟩, rfl⟩
    rw [covers_iff sound draws]
    rw [upcoming] at refused ⊢
    have drawn := pixel_invert_spriteDots sound.display (Fin.ofNat 16 (machine.upcomingWord / 256))
      (Fin.ofNat 16 (machine.upcomingWord / 16)) (rows_of_refused refused) column row
    exact ⟨fun under => drawn.trans (if_pos under), fun beside => drawn.trans (if_neg beside)⟩
  · have same : machine.poised.displayLeft machine.upcoming = machine.display :=
      displayLeft_of_ne fun _ _ _ upcoming => draws (matches_of_upcoming upcoming).1.1
    rw [same]
    exact ⟨fun covers => absurd covers.1 draws, fun _ => rfl⟩

/-! ## Halted steps -/

/-- A refused instruction touches nothing of the register file but the
registers. -/
theorem registersLeft_eq (machine : Machine Framebuffer) (i : Instruction) :
    machine.registersLeft i = { machine.registers with v := (machine.registersLeft i).v } := by
  cases i with
  | ldVxMem x => exact Registers.fill_eq _ _ _
  | _ => rfl

/-- A refused instruction touches nothing of the display but the pixels. -/
theorem displayLeft_eq (machine : Machine Framebuffer) (i : Instruction) :
    machine.displayLeft i = { machine.display with pixels := (machine.displayLeft i).pixels } := by
  cases i with
  | drw x y n => exact Framebuffer.invert_eq _ _
  | _ => rfl

/-- A step that is refused leaves an interrupted machine. -/
theorem interrupted_of_refused (sound : machine.Sound 64 32)
    (refused : machine.poised.refusal machine.upcoming = some fault) (outbox : Array Signal) :
    machine.Interrupted { machine.poised.interrupted machine.upcoming with outbox := outbox } where
  pc := (congrArg Registers.pc (registersLeft_eq machine.poised machine.upcoming) :)
  opcode := rfl
  fetchedFrom := rfl
  memory := rfl
  index := (congrArg Registers.i (registersLeft_eq machine.poised machine.upcoming) :)
  stack := (congrArg Registers.stack (registersLeft_eq machine.poised machine.upcoming) :)
  timers := rfl
  keypad := rfl
  drawn := rfl
  loaded loads r inside := (registersLeft_of_loads loads r).trans (if_pos inside)
  registers r other := by
    by_cases loads : machine.Loads
    · exact (registersLeft_of_loads loads r).trans (if_neg fun inside => other ⟨loads, inside⟩)
    · exact (congrArg (Registers.get · r) (registersLeft_of_not_loads loads) :)
  display := ⟨_, displayLeft_eq machine.poised machine.upcoming⟩
  covered _ column row := (pixel_displayLeft sound refused column row).1
  pixels _ column row := (pixel_displayLeft sound refused column row).2

/-! ## Storing -/

/-- A word that stores has stored all its bytes, and changed no other. -/
structure StoresWhole (before after : Machine Framebuffer) : Prop where
  /-- The digits of a register. -/
  decimal : before.upcomingWord / 4096 = 0xF → before.upcomingWord % 256 = 0x33 →
    let value := (before.registers.get (Fin.ofNat 16 (before.upcomingWord / 256))).toNat
    (after.memory.byteAt before.index).toNat = value / 100 ∧
    (after.memory.byteAt (before.index + 1)).toNat = value / 10 % 10 ∧
    (after.memory.byteAt (before.index + 2)).toNat = value % 10 ∧
    ∀ k, (k < before.index ∨ before.index + 2 < k) →
      after.memory.byteAt k = before.memory.byteAt k
  /-- The registers up to one. -/
  registers : before.upcomingWord / 4096 = 0xF → before.upcomingWord % 256 = 0x55 →
    let x := before.upcomingWord / 256 % 16
    (∀ r : Fin 16, r ≤ x → after.memory.byteAt (before.index + r) = before.registers.get r) ∧
    ∀ k, (k < before.index ∨ before.index + x < k) →
      after.memory.byteAt k = before.memory.byteAt k

theorem byteAt_digits {width height : Nat} (sound : machine.Sound width height) {value : UInt8}
    (inside : machine.index + 2 < Memory.size) :
    let memory := machine.memory.written machine.index (digits value)
    (memory.byteAt machine.index).toNat = value.toNat / 100 ∧
    (memory.byteAt (machine.index + 1)).toNat = value.toNat / 10 % 10 ∧
    (memory.byteAt (machine.index + 2)).toNat = value.toNat % 10 ∧
    ∀ k, (k < machine.index ∨ machine.index + 2 < k) →
      memory.byteAt k = machine.memory.byteAt k := by
  intro memory
  have small := value.toNat_lt
  have byte : ∀ k, k < 3 →
      memory.byteAt (machine.index + k) = (digits value).getD k 0 := fun k lt =>
    Bank.byteAt_written_inside sound.memory inside lt
  have digit : ∀ k, k < 256 → (UInt8.ofNat k).toNat = k := fun k lt => UInt8.toNat_ofNat_of_lt' lt
  refine ⟨?_, ?_, ?_, fun k beside => Bank.byteAt_written_outside beside⟩
  · exact (congrArg UInt8.toNat (byte 0 (by omega))).trans (digit _ (by omega))
  · exact (congrArg UInt8.toNat (byte 1 (by omega))).trans (digit _ (by omega))
  · exact (congrArg UInt8.toNat (byte 2 (by omega))).trans (digit _ (by omega))

theorem byteAt_registers {width height : Nat} (sound : machine.Sound width height) {x : Fin 16}
    (inside : machine.index + x < Memory.size) :
    let memory := machine.memory.written machine.index (machine.registers.v.toList.take (x + 1))
    (∀ r : Fin 16, r ≤ x → memory.byteAt (machine.index + r) = machine.registers.get r) ∧
    ∀ k, (k < machine.index ∨ machine.index + x < k) →
      memory.byteAt k = machine.memory.byteAt k := by
  intro memory
  have length : (machine.registers.v.toList.take (x + 1)).length = x + 1 := by
    rw [List.length_take, Vector.length_toList]
    omega
  constructor
  · intro r le
    have under : r.val < (machine.registers.v.toList.take (x + 1)).length := by
      rw [length]
      omega
    have fits : machine.index + (machine.registers.v.toList.take (x + 1)).length ≤ Memory.size := by
      rw [length]
      exact inside
    refine (Bank.byteAt_written_inside sound.memory fits under).trans ?_
    rw [List.getD_eq_getElem?_getD, List.getElem?_eq_getElem under, Option.getD_some,
      List.getElem_take, Vector.getElem_toList]
    rfl
  · intro k beside
    exact Bank.byteAt_written_outside (by rw [length]; exact beside)

/-- A word that is granted and stores has stored all its bytes. -/
theorem storesWhole_of_granted {width height : Nat} (sound : machine.Sound width height)
    (granted : machine.poised.refusal machine.upcoming = none) (outbox : Array Signal) :
    machine.StoresWhole { machine.poised.executed machine.upcoming with outbox := outbox } := by
  constructor
  · intro op last
    have upcoming : machine.upcoming = .ldB _ := upcoming_of_matches nofun ⟨op, last, rfl⟩
    rw [upcoming] at granted ⊢
    exact byteAt_digits sound (Nat.lt_of_not_le (not_of_granted granted))
  · intro op last
    have upcoming : machine.upcoming = .ldMemVx _ := upcoming_of_matches nofun ⟨op, last, rfl⟩
    rw [upcoming] at granted ⊢
    exact byteAt_registers sound (Nat.lt_of_not_le (not_of_granted granted))

/-- **What a step leaves that is cut short.** On the usual display: one that
cannot fetch has noted where it fetched from, and the next step halts again; one
that halts later leaves an interrupted machine; and one that is completed has
stored all that it stores. -/
theorem Reachable.step_leaves (reachable : Reachable 64 32 machine) :
    (∀ cause report left, step machine = .error (.halted cause report) left →
      (0xFFF ≤ machine.registers.pc →
        left = { machine with fetchedFrom := machine.registers.pc } ∧
        ∃ report', step left = .error (.halted cause report') left) ∧
      (machine.registers.pc < 0xFFF → machine.Interrupted left)) ∧
    (∀ left, step machine = .ok true left → machine.StoresWhole left) := by
  have sound := reachable.sound
  have course := sound.course
  constructor
  · intro cause report left run
    rw [run] at course
    cases course with
    | unfetched ready top out =>
      subst out
      exact ⟨fun _ => ⟨rfl, _, step_of_atTop sound.marked ready top⟩,
        fun low => absurd low (Int.not_lt.2 top)⟩
    | refused ready fits refused outbox leaves =>
      refine ⟨fun top => absurd top fits, fun _ => ?_⟩
      rw [leaves]
      exact interrupted_of_refused sound refused outbox
  · intro left run
    rw [run] at course
    cases course with
    | granted ready fits granted outbox => exact storesWhole_of_granted sound granted outbox

/-- A program that begins with a return is interrupted by it. -/
theorem step_leaves_of_return :
    ∃ machine left, Reachable 64 32 machine ∧ machine.registers.pc < 0xFFF ∧
      (∃ cause report, step machine = .error (.halted cause report) left) ∧
      machine.Interrupted left := by
  obtain ⟨outbox, reachable⟩ := reachable_booted [0x00, 0xEE]
  have word := @wordAt_booted [0x00, 0xEE] (by decide) 0 (by decide)
  have low : (0x200 : Int) < 0xFFF := by decide
  rcases reachable.sound.step_of_ready rfl with ⟨quiet, -⟩ | ⟨-, cause, report, left, run, -⟩
  · exact absurd (Or.inr (Or.inl (Or.inl ⟨word, rfl⟩))) quiet
  · exact ⟨_, left, reachable, low, ⟨cause, report, run⟩,
      (reachable.step_leaves.1 cause report left run).2 low⟩

end Machine
end Chip8
