import Chip8.Proofs.Machine.ProgramCounter
/-!
# The destination of a step

A completed step goes to one of five places, and the digits of the upcoming word say
to which: the address in the word, that address past the first register, the newest
address on the call stack, the next address, or the one after it. Registers and keys
count as they are before the step. `Opcode.Skips` gives the skips and their
conditions, and all words meet in `Reachable.destination`.
-/

namespace Chip8

/-! ## Skips -/

/-- The word is a skip whose condition holds, with the registers and the keys held down
as given. -/
def Opcode.Skips (word : Nat) (v : Fin 16 → UInt8) (pressed : Fin 16 → Bool) : Prop :=
  let vx := v (Fin.ofNat 16 (word / 256))
  let vy := v (Fin.ofNat 16 (word / 16))
  let held := ∃ key : Fin 16, key.val = vx.toNat ∧ pressed key = true
  (word / 4096 = 0x3 ∧ vx.toNat = word % 256) ∨
    (word / 4096 = 0x4 ∧ vx.toNat ≠ word % 256) ∨
    (word / 4096 = 0x5 ∧ vx = vy) ∨
    (word / 4096 = 0x9 ∧ vx ≠ vy) ∨
    (word / 4096 = 0xE ∧ word % 256 = 0x9E ∧ held) ∨
    (word / 4096 = 0xE ∧ word % 256 = 0xA1 ∧ ¬ held)

/-- No key has a number above fifteen, so none of them is held down. -/
theorem Opcode.skips_of_unnamed {word : Nat} {v : Fin 16 → UInt8} {pressed : Fin 16 → Bool}
    (op : word / 4096 = 0xE) (last : word % 256 = 0xA1)
    (unnamed : 15 < (v (Fin.ofNat 16 (word / 256))).toNat) : Skips word v pressed := by
  refine .inr (.inr (.inr (.inr (.inr ⟨op, last, ?_⟩))))
  rintro ⟨key, names, -⟩
  omega

namespace Machine

variable {width height : Nat} {machine : Machine Framebuffer}

/-- The condition of the upcoming word holds. -/
def SkipsNext (machine : Machine Framebuffer) : Prop :=
  Opcode.Skips machine.upcomingWord machine.registers.get machine.keypad.pressed.get

theorem eq_ofNat_iff {value : UInt8} {word : Nat} :
    value = UInt8.ofNat word ↔ value.toNat = word % 256 := by
  rw [← UInt8.toNat_inj, UInt8.toNat_ofNat']

theorem isPressed_toNat_iff {value : UInt8} :
    machine.keypad.isPressed value.toNat = true ↔
      ∃ key : Fin 16, key.val = value.toNat ∧ machine.keypad.pressed.get key = true := by
  simp only [Keypad.isPressed_iff, Int.natCast_inj]

/-- **An instruction skips where the condition of its word holds**, and only
there. -/
theorem skips_iff : machine.skips = true ↔ machine.SkipsNext := by
  have written : machine.upcoming.Matches machine.upcomingWord := matches_of_upcoming rfl
  constructor
  · intro skips
    rw [Machine.skips] at skips
    cases upcoming : machine.upcoming with
    | seByte x kk =>
      rw [upcoming] at skips written
      obtain ⟨op, rfl, rfl⟩ := written
      exact .inl ⟨op, eq_ofNat_iff.1 (eq_of_beq skips)⟩
    | sneByte x kk =>
      rw [upcoming] at skips written
      obtain ⟨op, rfl, rfl⟩ := written
      exact .inr (.inl ⟨op, fun same => bne_iff_ne.1 skips (eq_ofNat_iff.2 same)⟩)
    | seReg x y =>
      rw [upcoming] at skips written
      obtain ⟨op, rfl, rfl⟩ := written
      exact .inr (.inr (.inl ⟨op, eq_of_beq skips⟩))
    | sneReg x y =>
      rw [upcoming] at skips written
      obtain ⟨op, rfl, rfl⟩ := written
      exact .inr (.inr (.inr (.inl ⟨op, bne_iff_ne.1 skips⟩)))
    | skp x =>
      rw [upcoming] at skips written
      obtain ⟨op, last, rfl⟩ := written
      exact .inr (.inr (.inr (.inr (.inl ⟨op, last, isPressed_toNat_iff.1 skips⟩))))
    | sknp x =>
      rw [upcoming] at skips written
      obtain ⟨op, last, rfl⟩ := written
      refine .inr (.inr (.inr (.inr (.inr ⟨op, last, fun held => ?_⟩))))
      have free : (!machine.keypad.isPressed _) = true := skips
      rw [isPressed_toNat_iff.2 held] at free
      exact Bool.false_ne_true free
    | _ =>
      rw [upcoming] at skips
      exact absurd skips Bool.false_ne_true
  · rintro (⟨op, same⟩ | ⟨op, differs⟩ | ⟨op, same⟩ | ⟨op, differs⟩ | ⟨op, last, held⟩ |
      ⟨op, last, free⟩)
    · rw [Machine.skips, show machine.upcoming = .seByte _ _ from
        upcoming_of_matches (by simp) ⟨op, rfl, rfl⟩]
      exact beq_iff_eq.2 (eq_ofNat_iff.2 same)
    · rw [Machine.skips, show machine.upcoming = .sneByte _ _ from
        upcoming_of_matches (by simp) ⟨op, rfl, rfl⟩]
      exact bne_iff_ne.2 fun same => differs (eq_ofNat_iff.1 same)
    · rw [Machine.skips, show machine.upcoming = .seReg _ _ from
        upcoming_of_matches (by simp) ⟨op, rfl, rfl⟩]
      exact beq_iff_eq.2 same
    · rw [Machine.skips, show machine.upcoming = .sneReg _ _ from
        upcoming_of_matches (by simp) ⟨op, rfl, rfl⟩]
      exact bne_iff_ne.2 differs
    · rw [Machine.skips, show machine.upcoming = .skp _ from
        upcoming_of_matches (by simp) ⟨op, last, rfl⟩]
      exact isPressed_toNat_iff.2 held
    · rw [Machine.skips, show machine.upcoming = .sknp _ from
        upcoming_of_matches (by simp) ⟨op, last, rfl⟩]
      change (!machine.keypad.isPressed _) = true
      rw [Bool.eq_false_iff.2 fun held => free (isPressed_toNat_iff.1 held)]
      rfl

/-! ## Jumps -/

/-- A jump and a call go to the address in the word. -/
theorem pc_of_address
    (op : machine.upcomingWord / 4096 = 0x1 ∨ machine.upcomingWord / 4096 = 0x2) :
    (machine.poised.executed machine.upcoming).registers.pc =
      (machine.upcomingWord % 4096 : Nat) := by
  rcases op with op | op
  · rw [show machine.upcoming = .jp _ from upcoming_of_matches nofun ⟨op, rfl⟩]
    rfl
  · rw [show machine.upcoming = .call _ from upcoming_of_matches nofun ⟨op, rfl⟩]
    rfl

/-- A jump with an offset goes past that address by the first register. -/
theorem pc_of_offset (op : machine.upcomingWord / 4096 = 0xB) :
    (machine.poised.executed machine.upcoming).registers.pc =
      (machine.registers.get 0).toNat + (machine.upcomingWord % 4096 : Nat) := by
  rw [show machine.upcoming = .jpV0 _ from upcoming_of_matches nofun ⟨op, rfl⟩]
  rfl

/-! ## The destination -/

/-- **Where a completed step goes**, and what it leaves on the call stack to come back
to. -/
structure Destination (before after : Machine Framebuffer) : Prop where
  /-- The word executed is the one at the program counter. -/
  opcode : after.opcode = before.upcomingWord
  jump : before.upcomingWord / 4096 = 0x1 ∨ before.upcomingWord / 4096 = 0x2 →
    after.registers.pc = (before.upcomingWord % 4096 : Nat)
  /-- The sum is not cut down to an address. -/
  offset : before.upcomingWord / 4096 = 0xB →
    after.registers.pc = (before.registers.get 0).toNat + (before.upcomingWord % 4096 : Nat)
  /-- A return takes the newest address away. -/
  ret : before.upcomingWord = 0x00EE → ∃ address : UInt16,
    before.calls = after.calls ++ [address] ∧ after.registers.pc = address.toNat
  skip : before.SkipsNext →
    after.registers.pc = Registers.next (Registers.next before.registers.pc)
  /-- A register above fifteen names no key, so there is none that is held down. -/
  unnamed : before.upcomingWord / 4096 = 0xE → before.upcomingWord % 256 = 0xA1 →
    15 < (before.registers.get (Fin.ofNat 16 (before.upcomingWord / 256))).toNat →
    after.registers.pc = Registers.next (Registers.next before.registers.pc)
  /-- Every other word leads to the next address, instruction or not. -/
  other : ¬ before.Jumps → ¬ before.SkipsNext →
    after.registers.pc = Registers.next before.registers.pc
  /-- A call saves the next address. -/
  call : before.upcomingWord / 4096 = 0x2 → ∃ address : UInt16,
    (address.toNat : Int) = Registers.next before.registers.pc ∧
      after.calls = before.calls ++ [address]

/-- A skip is no jump. -/
theorem not_jumps_of_skipsNext (skips : machine.SkipsNext) : ¬ machine.Jumps := by
  rw [SkipsNext, Opcode.Skips] at skips
  rw [Jumps]
  omega

/-- **Where every step goes** that completes: to the address in the word, past it by the
first register, back to the newest address on the call stack, two addresses on for a
skip whose condition holds, and one on for all other words. The next address is two
further, or the start of the program area if that is past the top of memory. -/
theorem Reachable.destination (reachable : Reachable width height machine)
    (ready : machine.keypad.isAwaiting = false) {ran : Bool} {left : Machine Framebuffer}
    (run : step machine = .ok ran left) :
    (∀ address, Registers.next address = if address + 2 ≥ 4096 then 0x200 else address + 2) ∧
      ran = true ∧ machine.Destination left := by
  have sound := reachable.sound
  have course := sound.course
  rw [run] at course
  cases course with
  | awaited awaiting => exact absurd (ready.symm.trans awaiting) Bool.false_ne_true
  | granted _ fits granted outbox =>
    have straight : ∀ {target}, ¬ machine.Jumps → machine.onward = target →
        (machine.poised.executed machine.upcoming).registers.pc = target :=
      fun straight onward => (pc_executed straight).trans onward
    have skip : machine.SkipsNext → (machine.poised.executed machine.upcoming).registers.pc =
        Registers.next (Registers.next machine.registers.pc) :=
      fun skips => straight (not_jumps_of_skipsNext skips) (if_pos (skips_iff.2 skips))
    exact ⟨Registers.next_eq, rfl, {
      opcode := rfl
      jump := pc_of_address
      offset := pc_of_offset
      ret := fun op => sound.calls_of_ret op granted
      skip := skip
      unnamed := fun op last unnamed => skip (Opcode.skips_of_unnamed op last unnamed)
      other := fun still goes => straight still (if_neg fun skips => goes (skips_iff.1 skips))
      call := fun op => sound.calls_of_call op granted }⟩

/-- A program that asks for a key not to be pressed, when none is, goes past the next
instruction. -/
theorem destination_of_skip :
    ∃ machine left, Reachable 64 32 machine ∧ machine.registers.pc = 0x200 ∧
      machine.keypad.isAwaiting = false ∧ step machine = .ok true left ∧
      machine.Destination left ∧ left.registers.pc = 0x204 := by
  obtain ⟨first, asking, asks⟩ :=
    reachable_first [0xE0, 0xA1] (.sknp 0) (by decide) (by decide) rfl
  have low : ¬ (0xFFF : Int) ≤ 0x200 := by decide
  obtain ⟨second, run, -⟩ := asking.granted rfl low (by rw [asks]; rfl)
  rw [asks] at run
  exact ⟨_, _, asking, rfl, rfl, run, (asking.destination rfl run).2.2, rfl⟩

end Machine
end Chip8
