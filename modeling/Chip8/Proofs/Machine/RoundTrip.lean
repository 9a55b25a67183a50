import Chip8.Proofs.Machine.Interruption
import Chip8.Proofs.Machine.Run
/-!
# Registers to memory and back again

Registers that are stored and later loaded from the same place are what they were, whatever
the registers held in between (`registers_return`): storing puts each of them at its own
byte and touches nothing else (`Sound.saves`), and loading takes each from the byte that
storing has put it at (`Sound.restores`). The three digits that are stored of a register
make up its number (`Sound.spells`).
-/

namespace Chip8
namespace Machine

variable {width height : Nat} {machine : Machine Framebuffer} {x : Fin 16}

/-- Only memory has changed, and there only the bytes from the index register on, up to
one. -/
structure Writes (count : Nat) (before after : Machine Framebuffer) : Prop where
  beside : ∀ k, (k < before.index ∨ before.index + count < k) →
    after.memory.byteAt k = before.memory.byteAt k
  registers : ∀ r, after.registers.get r = before.registers.get r
  index : after.registers.i = before.registers.i

/-- **The registers up to `x` are saved** at the index register. -/
structure Saved (x : Fin 16) (before after : Machine Framebuffer) : Prop
    extends Writes x before after where
  bytes : ∀ r ≤ x, after.memory.byteAt (before.index + r) = before.registers.get r

/-- **The number in `x` is spelled** in three digits at the index register. -/
structure Spelled (x : Fin 16) (before after : Machine Framebuffer) : Prop
    extends Writes 2 before after where
  digits : ∃ h t u : Nat, h ≤ 9 ∧ t ≤ 9 ∧ u ≤ 9 ∧
    (after.memory.byteAt before.index).toNat = h ∧
    (after.memory.byteAt (before.index + 1)).toNat = t ∧
    (after.memory.byteAt (before.index + 2)).toNat = u ∧
    100 * h + 10 * t + u = (before.registers.get x).toNat

/-- Words apart from the bytes that changed are as before. -/
theorem Writes.wordAt {before after : Machine Framebuffer} {count k : Nat}
    (writes : Writes count before after)
    (apart : k + 1 < before.index ∨ before.index + count < k) :
    after.memory.wordAt k = before.memory.wordAt k := by
  rw [Bank.wordAt, Bank.wordAt, writes.beside k (by omega), writes.beside (k + 1) (by omega)]

/-! ## One step -/

/-- A step that stores registers which fit saves them. -/
theorem Sound.saves (sound : machine.Sound width height)
    (ready : machine.keypad.isAwaiting = false) (fits : ¬ machine.AtTop)
    (word : Opcode.OnRegister machine.upcomingWord 0xF 0x55 x)
    (inside : machine.index + x ≤ 4095) :
    ∃ left, step machine = .ok true left ∧ Saved x machine left := by
  have upcoming : machine.upcoming = .ldMemVx x := upcoming_of_matches nofun word
  have room : machine.index + x < Memory.size := Nat.lt_succ_of_le inside
  have granted : machine.poised.refusal machine.upcoming = none := by
    rw [upcoming]
    exact if_neg (Nat.not_le.2 room)
  obtain ⟨outbox, run⟩ := step_of_granted sound ready fits granted
  rw [upcoming] at run
  obtain ⟨bytes, beside⟩ := byteAt_registers sound room
  exact ⟨_, run, ⟨beside, fun _ => rfl, rfl⟩, bytes⟩

/-- A step that stores digits which fit spells the number. -/
theorem Sound.spells (sound : machine.Sound width height)
    (ready : machine.keypad.isAwaiting = false) (fits : ¬ machine.AtTop)
    (word : Opcode.OnRegister machine.upcomingWord 0xF 0x33 x)
    (inside : machine.index + 2 ≤ 4095) :
    ∃ left, step machine = .ok true left ∧ Spelled x machine left := by
  have upcoming : machine.upcoming = .ldB x := upcoming_of_matches nofun word
  have room : machine.index + 2 < Memory.size := Nat.lt_succ_of_le inside
  have granted : machine.poised.refusal machine.upcoming = none := by
    rw [upcoming]
    exact if_neg (Nat.not_le.2 room)
  obtain ⟨outbox, run⟩ := step_of_granted sound ready fits granted
  rw [upcoming] at run
  obtain ⟨hundreds, tens, units, beside⟩ :=
    @byteAt_digits machine _ _ sound (machine.registers.get x) room
  have small := (machine.registers.get x).toNat_lt
  refine ⟨_, run, ⟨beside, fun _ => rfl, rfl⟩, _, _, _, ?_, ?_, ?_, hundreds, tens, units, ?_⟩
  all_goals omega

/-- A step that loads registers which fit takes each of them from its byte, and leaves the
others alone. -/
theorem Sound.restores (sound : machine.Sound width height)
    (ready : machine.keypad.isAwaiting = false) (fits : ¬ machine.AtTop)
    (word : Opcode.OnRegister machine.upcomingWord 0xF 0x65 x)
    (inside : machine.index + x ≤ 4095) :
    ∃ left, step machine = .ok true left ∧
      (∀ r ≤ x, left.registers.get r = machine.memory.byteAt (machine.index + r)) ∧
      ∀ r, x < r → left.registers.get r = machine.registers.get r := by
  have upcoming : machine.upcoming = .ldVxMem x := upcoming_of_matches nofun word
  have room : machine.index + x < Memory.size := Nat.lt_succ_of_le inside
  have granted : machine.poised.refusal machine.upcoming = none := by
    rw [upcoming]
    exact if_neg (Nat.not_le.2 room)
  obtain ⟨outbox, run⟩ := step_of_granted sound ready fits granted
  rw [upcoming] at run
  refine ⟨_, run, fun r le => ?_, fun r lt => ?_⟩
  · exact (get_loaded machine.poised _ r).trans (if_pos (Nat.lt_succ_of_le le))
  · exact (get_loaded machine.poised _ r).trans (if_neg (Nat.not_lt_of_le lt))

/-- A program that stores registers after its own end goes on. -/
theorem Runs.saves {rom : List UInt8} {k : Nat} (runs : Runs rom k machine)
    (fits : rom.length ≤ Memory.programCapacity) (inside : k + 1 < rom.length)
    (upcoming : machine.upcoming = .ldMemVx x) (room : machine.index + x ≤ 4095)
    (after : 0x200 + rom.length ≤ machine.index) :
    ∃ stored, step machine = .ok true stored ∧ Runs rom (k + 2) stored := by
  have low := runs.not_atTop fits inside
  obtain ⟨stored, ran, saved⟩ :=
    runs.reachable.sound.saves runs.ready low (matches_of_upcoming upcoming) room
  have granted : machine.poised.refusal machine.upcoming = none := by
    rw [upcoming]
    exact if_neg (Nat.not_le_of_lt (Nat.lt_succ_of_le room))
  obtain ⟨_, run, reachable⟩ := runs.reachable.granted runs.ready low granted
  rw [upcoming] at run reachable
  injection ran.symm.trans run with _ same
  have words (j : Nat) (short : j + 1 < rom.length) :
      stored.memory.wordAt (0x200 + j) = (booted rom).memory.wordAt (0x200 + j) := by
    have below : 0x200 + j + 1 < machine.index := by omega
    exact (saved.wordAt (.inl below)).trans (runs.words j short)
  rw [same] at words
  exact ⟨_, run, reachable, runs.ready, runs.pc_poised fits inside, words⟩

/-! ## There and back -/

/-- **Registers return from memory.** A step that stores registers which fit saves them:
each is put at its byte, and no other byte, no register and not the index register is
touched. Whatever is asked of the machine then, however the registers change: if in the end
the index register and the bytes are as they were, a step that loads the same registers
gives them back, and leaves the others as it found them. And a step that stores the digits
of a register spells its number, and touches nothing else. -/
theorem registers_return (sound : machine.Sound width height)
    (ready : machine.keypad.isAwaiting = false) (fits : ¬ machine.AtTop) :
    (∀ x, Opcode.OnRegister machine.upcomingWord 0xF 0x55 x → machine.index + x ≤ 4095 →
      ∃ stored, step machine = .ok true stored ∧ Saved x machine stored ∧
        ∀ requests, let later := stored.afterAll requests
          later.index = machine.index →
          (∀ r ≤ x, later.memory.byteAt (machine.index + r) =
            stored.memory.byteAt (machine.index + r)) →
          later.keypad.isAwaiting = false → ¬ later.AtTop →
          Opcode.OnRegister later.upcomingWord 0xF 0x65 x →
          ∃ loaded, step later = .ok true loaded ∧
            (∀ r ≤ x, loaded.registers.get r = machine.registers.get r) ∧
            ∀ r, x < r → loaded.registers.get r = later.registers.get r) ∧
    (∀ x, Opcode.OnRegister machine.upcomingWord 0xF 0x33 x → machine.index + 2 ≤ 4095 →
      ∃ stored, step machine = .ok true stored ∧ Spelled x machine stored) := by
  refine ⟨fun x word inside => ?_, fun x word inside => sound.spells ready fits word inside⟩
  obtain ⟨stored, run, saved⟩ := sound.saves ready fits word inside
  refine ⟨stored, run, saved, ?_⟩
  intro requests later index bytes ready' fits' word'
  have sound' : later.Sound width height := (sound.of_step run).afterAll requests
  obtain ⟨loaded, run', first, others⟩ := sound'.restores ready' fits' word' (by omega)
  refine ⟨loaded, run', fun r le => ?_, others⟩
  rw [first r le, index, bytes r le, saved.bytes r le]

/-- A program stores two registers, overwrites both and loads them again: it gets back what
they held. -/
theorem registers_return_of_overwritten :
    ∃ machine stored between later loaded, Reachable 64 32 machine ∧ machine.index = 0x300 ∧
      machine.registers.get 0 = 5 ∧ machine.registers.get 1 = 9 ∧
      step machine = .ok true stored ∧ step stored = .ok true between ∧
      step between = .ok true later ∧
      later.registers.get 0 = 7 ∧ later.registers.get 1 = 8 ∧
      step later = .ok true loaded ∧
      loaded.registers.get 0 = 5 ∧ loaded.registers.get 1 = 9 := by
  let rom : List UInt8 :=
    [0x60, 0x05, 0x61, 0x09, 0xA3, 0x00, 0xF1, 0x55, 0x60, 0x07, 0x61, 0x08, 0xF1, 0x65]
  have fits : rom.length ≤ Memory.programCapacity := by decide
  obtain ⟨start, runs⟩ := exists_runs rom
  obtain ⟨_, -, runs, five⟩ := runs.loads fits (by decide) 0 5 (by decide)
  obtain ⟨_, -, runs, nine⟩ := runs.loads fits (by decide) 1 9 (by decide)
  obtain ⟨machine, -, runs, pointed, -⟩ := runs.sets fits (by decide) (i := .ldI 0x300) (by decide)
    (Registers.setIndex 0x300) (fun _ => rfl) rfl rfl
  have index : machine.index = 0x300 := by
    rw [Machine.index, pointed]
    rfl
  have zeroth : machine.registers.get 0 = 5 := by
    rw [pointed]
    exact (nine.others 0 (by decide)).trans five.value
  have first : machine.registers.get 1 = 9 := by
    rw [pointed]
    exact nine.value
  have stores := runs.upcoming_eq fits (by decide) (i := .ldMemVx 1) (by decide)
  have room : machine.index + (1 : Fin 16) ≤ 4095 := by
    rw [index]
    decide
  obtain ⟨stored, ran, saved, back⟩ :=
    (registers_return runs.reachable.sound runs.ready (runs.not_atTop fits (by decide))).1 1
      (matches_of_upcoming stores) room
  obtain ⟨_, ran', storing⟩ := runs.saves fits (by decide) stores room (index ▸ by decide)
  injection ran.symm.trans ran' with _ same
  rw [← same] at storing
  -- both registers are overwritten, and the bytes stay
  obtain ⟨between, run, once, seven⟩ := storing.loads fits (by decide) 0 7 (by decide)
  obtain ⟨later, run', twice, eight⟩ := once.loads fits (by decide) 1 8 (by decide)
  have back := back [.step, .step]
  rw [show stored.afterAll [.step, .step] = later from
    (congrArg (after · .step) (after_step_of_ok run)).trans (after_step_of_ok run')] at back
  have index' : later.index = machine.index :=
    congrArg UInt16.toNat (eight.index.trans (seven.index.trans saved.index))
  have loads := twice.upcoming_eq fits (by decide) (i := .ldVxMem 1) (by decide)
  obtain ⟨loaded, last, returned, -⟩ := back index'
    (fun r le => by rw [eight.memory, seven.memory]) twice.ready
    (twice.not_atTop fits (by decide)) (matches_of_upcoming loads)
  exact ⟨machine, stored, between, later, loaded, runs.reachable, index, zeroth, first, ran, run,
    run', (eight.others 0 (by decide)).trans seven.value, eight.value, last,
    (returned 0 (by decide)).trans zeroth, (returned 1 (by decide)).trans first⟩

end Machine
end Chip8
