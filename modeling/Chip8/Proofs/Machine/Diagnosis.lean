import Chip8.Proofs.Machine.ProgramCounter
/-!
# What a crash report names

A step notes where it fetches from before it fetches, and the opcode once it has
it. So the opcode and the address of a machine belong together after a step that
could fetch, however it ended, and after no other (`Reachable.diagnosis`): a
step past the top of memory halts with the address that it could not fetch from and
the opcode of an earlier instruction (`diagnosis_mismatched`). The report of a
crash names both of them, in the dump and in its last line
(`names_crashReport`).
-/

namespace Chip8
namespace Machine

variable {width height : Nat} {machine : Machine Framebuffer}

/-- Memory holds a word at an address, both bytes of it. -/
def HoldsAt (machine : Machine Framebuffer) (word address : Int) : Prop :=
  0 ≤ address ∧ address + 1 < 4096 ∧ word = machine.memory.wordAt address.toNat

/-- **A report names an address and an opcode**: in the dump, with the
instruction that the opcode stands for, and in the last line. -/
def Names (report : String) (address opcode : Int) : Prop :=
  ∃ front middle, report =
    front ++ (" PC: 0x" ++ Hex.padded 3 address ++ " OP: 0x" ++ Hex.padded 4 opcode
      ++ " IN: " ++ (Instruction.decode opcode).mnemonic ++ "\n") ++ middle
      ++ (" (opcode 0x" ++ Hex.padded 4 opcode ++ " at address 0x" ++ Hex.padded 3 address ++ ").")

/-- The line of the instruction ends in the address, the opcode and the
instruction. -/
theorem traceLine_eq (machine : Machine Framebuffer) (instruction : String) :
    ∃ front, machine.traceLine instruction =
      front ++ (" PC: 0x" ++ Hex.padded 3 machine.fetchedFrom ++ " OP: 0x"
        ++ Hex.padded 4 machine.opcode ++ " IN: " ++ instruction) := by
  have regroup : ∀ a b c d e f g : String,
      a ++ b ++ c ++ d ++ e ++ f ++ g = a ++ (b ++ c ++ d ++ e ++ f ++ g) := by
    intro a b c d e f g
    simp only [String.append_assoc]
  exact ⟨_, regroup ..⟩

/-- The dump of a crash begins with that line. -/
theorem crashDump_eq (machine : Machine Framebuffer) :
    ∃ back, machine.crashDump =
      machine.traceLine (Instruction.decode machine.opcode).mnemonic ++ "\n" ++ back := by
  have regroup : ∀ a b c d : String, a ++ b ++ c ++ d = a ++ b ++ (c ++ d) := by
    intro a b c d
    simp only [String.append_assoc]
  exact ⟨_, regroup ..⟩

/-- **A crash report names the address and the opcode that the machine has
noted.** -/
theorem names_crashReport (machine : Machine Framebuffer) (fault : Fault) :
    Names (machine.crashReport fault) machine.fetchedFrom machine.opcode := by
  -- on variables, as the text of a literal would be looked into
  have regroup : ∀ opening front line cut back gap message a b c d e : String,
      opening ++ (front ++ line ++ cut ++ back) ++ gap ++ message ++ a ++ b ++ c ++ d ++ e =
        opening ++ front ++ (line ++ cut) ++ (back ++ gap ++ message) ++
          (a ++ b ++ c ++ d ++ e) := by
    intro opening front line cut back gap message a b c d e
    simp only [String.append_assoc]
  obtain ⟨front, line⟩ := machine.traceLine_eq (Instruction.decode machine.opcode).mnemonic
  obtain ⟨back, dump⟩ := machine.crashDump_eq
  rw [line] at dump
  unfold crashReport
  rewrite [dump]
  exact ⟨_, _, regroup ..⟩

/-! ## What a step notes -/

/-- **What a step notes**: always the program counter, and the word there where it
can be fetched. -/
theorem Sound.noted (sound : machine.Sound width height)
    (ready : machine.keypad.isAwaiting = false) :
    (machine.after .step).fetchedFrom = machine.registers.pc ∧
      (machine.after .step).opcode =
        if machine.AtTop then machine.opcode else (machine.upcomingWord : Int) := by
  have course := sound.course
  cases run : step machine with
  | ok ran left =>
    rw [run] at course
    rw [after_step_of_ok run]
    cases course with
    | awaited awaiting => exact absurd (ready ▸ awaiting) Bool.false_ne_true
    | granted _ fits granted outbox => exact ⟨rfl, (if_neg fits).symm⟩
  | error crash left =>
    rw [run] at course
    rw [after_step_of_error run]
    cases course with
    | unfetched _ top out => exact ⟨rfl, (if_pos top).symm⟩
    | refused _ fits refused outbox leaves =>
      rw [leaves]
      exact ⟨rfl, (if_neg fits).symm⟩

/-- A step that halts reports on what it leaves. -/
theorem Sound.report_eq (sound : machine.Sound width height) {cause : Fault} {report : String}
    {left : Machine Framebuffer} (run : step machine = .error (.halted cause report) left) :
    report = left.crashReport cause := by
  have course := sound.course
  rw [run] at course
  cases course with
  | unfetched => rfl
  | refused => rfl

/-- Where a word can be fetched, memory holds it there. -/
theorem Sound.holdsAt_pc (sound : machine.Sound width height) (fits : ¬ machine.AtTop) :
    machine.HoldsAt machine.upcomingWord machine.registers.pc := by
  rw [AtTop, Int.not_le] at fits
  exact ⟨sound.registers.pc_nonneg, by omega, rfl⟩

/-- **When the opcode and the address of a machine belong together.** After a step
of a machine in use that does not wait, however it ended, memory held the opcode at
the address when the step began if and only if a whole word lay at the program
counter. Where none did, the step has halted, and has left the opcode of an earlier
instruction with the new address. A crash report names what the step leaves. -/
theorem Reachable.diagnosis (reachable : Reachable width height machine)
    (ready : machine.keypad.isAwaiting = false) :
    let left := machine.after .step
    left.fetchedFrom = machine.registers.pc ∧
    (machine.HoldsAt left.opcode left.fetchedFrom ↔ machine.registers.pc < 0xFFF) ∧
    (0xFFF ≤ machine.registers.pc → left.opcode = machine.opcode ∧
      ∃ cause report, step machine = .error (.halted cause report) left) ∧
    (∀ cause report halted, step machine = .error (.halted cause report) halted →
      halted = left ∧ Names report left.fetchedFrom left.opcode) := by
  have sound := reachable.sound
  obtain ⟨address, opcode⟩ := sound.noted ready
  refine ⟨address, ⟨fun held => ?_, fun low => ?_⟩, fun top => ?_,
    fun cause report halted run => ?_⟩
  · have := held.2.1
    rw [address] at this
    omega
  · have fits : ¬ machine.AtTop := Int.not_le.2 low
    rw [opcode, if_neg fits, address]
    exact sound.holdsAt_pc fits
  · have run := step_of_atTop sound ready top
    refine ⟨opcode.trans (if_pos top), ?_⟩
    rw [after_step_of_error run]
    exact ⟨_, _, run⟩
  · rw [sound.report_eq run, after_step_of_error run]
    exact ⟨rfl, names_crashReport halted cause⟩

/-- So it is of the step after a jump: the word there is noted, and where it
lies. -/
theorem diagnosis_of_jumped :
    ∃ machine, Reachable 64 32 machine ∧ machine.keypad.isAwaiting = false ∧
      (machine.after .step).fetchedFrom = 0x300 ∧
      machine.HoldsAt (machine.after .step).opcode 0x300 := by
  obtain ⟨machine, jumped⟩ := exists_jumped 0x300
  obtain ⟨address, held, -⟩ := jumped.reachable.diagnosis jumped.ready
  have low : machine.registers.pc < 0xFFF := by
    rw [jumped.pc]
    decide
  have holds := held.2 low
  rw [address, jumped.pc] at holds
  exact ⟨machine, jumped.reachable, jumped.ready, address.trans jumped.pc, holds⟩

/-- **After a jump to the last byte of memory the report is wrong.** It names the
address of that byte with the opcode of the jump, which memory holds elsewhere. -/
theorem diagnosis_mismatched :
    ∃ machine cause report left, Reachable 64 32 machine ∧
      machine.keypad.isAwaiting = false ∧
      step machine = .error (.halted cause report) left ∧
      left.fetchedFrom = 0xFFF ∧ left.opcode = 0x1FFF ∧ Names report 0xFFF 0x1FFF ∧
      ¬ machine.HoldsAt 0x1FFF 0xFFF ∧ machine.HoldsAt 0x1FFF 0x200 := by
  obtain ⟨machine, jumped⟩ := exists_jumped 0xFFF
  have top : machine.AtTop := by
    rw [AtTop, jumped.pc]
    decide
  have run := step_of_atTop jumped.reachable.sound jumped.ready top
  have names := names_crashReport machine.marked
    (.outOfRange (max machine.registers.pc Memory.size))
  have address : machine.marked.fetchedFrom = 0xFFF := jumped.pc
  have opcode : machine.marked.opcode = 0x1FFF := jumped.opcode
  rw [address, opcode] at names
  refine ⟨machine, _, _, _, jumped.reachable, jumped.ready, run, address, opcode, names, ?_, ?_⟩
  · intro held
    exact absurd held.2.1 (by decide)
  · exact ⟨by decide, by decide, (congrArg Nat.cast jumped.jump).symm⟩

end Machine
end Chip8
