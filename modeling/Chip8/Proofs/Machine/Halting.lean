import Chip8.Proofs.Instruction.Opcodes
import Chip8.Proofs.Machine.Soundness
/-!
# When a machine halts

A step halts for what the upcoming word asks of the call stack
(`StackTrouble`), for what it asks of memory (`MemoryTrouble`), or because no
word can be fetched; and for nothing else (`Sound.step_of_ready`). Both troubles
are stated on the digits of the word, so that they do not depend on how words are
decoded.
-/

namespace Chip8
namespace Machine

variable {width height : Nat} {machine : Machine Framebuffer} {fault : Fault}

/-- **The upcoming word asks too much of the call stack**: it returns with
nothing on it, or calls with the stack full. -/
def StackTrouble (machine : Machine Framebuffer) : Prop :=
  let op := machine.upcomingWord
  (op = 0x00EE ∧ machine.depth = 0) ∨ (op / 4096 = 0x2 ∧ machine.depth = 16)

/-- **The upcoming word reaches past memory**: it draws a sprite, stores digits,
or stores or loads registers, and the last byte lies outside. -/
def MemoryTrouble (machine : Machine Framebuffer) : Prop :=
  let op := machine.upcomingWord
  let x := op / 256 % 16
  let n := op % 16
  (op / 4096 = 0xD ∧ 1 ≤ n ∧ 4096 < machine.index + n) ∨
    (op / 4096 = 0xF ∧ op % 256 = 0x33 ∧ 4095 < machine.index + 2) ∨
    (op / 4096 = 0xF ∧ (op % 256 = 0x55 ∨ op % 256 = 0x65) ∧ 4095 < machine.index + x)

theorem word_upcomingWord (machine : Machine Framebuffer) :
    Opcode.word machine.upcomingWord = machine.upcomingWord := by
  have high := (machine.memory.byteAt machine.registers.pc.toNat).toNat_lt
  have low := (machine.memory.byteAt (machine.registers.pc.toNat + 1)).toNat_lt
  apply Opcode.word_of_lt
  rw [upcomingWord, Bank.wordAt]
  omega

/-- The upcoming instruction is the one that the digits of the word give. -/
theorem upcoming_of_matches {i : Instruction} (known : i ≠ .unknown)
    (written : i.Matches machine.upcomingWord) : machine.upcoming = i := by
  rw [← word_upcomingWord] at written
  exact Instruction.decode_of_matches known written

/-- The digits of the word are those of the upcoming instruction. -/
theorem matches_of_upcoming {i : Instruction} (upcoming : machine.upcoming = i) :
    i.Matches machine.upcomingWord := by
  have written := Instruction.matches_decode machine.upcomingWord
  rw [word_upcomingWord] at written
  exact upcoming ▸ written

/-! ## Trouble and refusal -/

theorem refusal_of_stackTrouble (trouble : machine.StackTrouble) :
    machine.poised.refusal machine.upcoming =
      some (if machine.upcomingWord = 0x00EE then .stackUnderflow else .stackOverflow) := by
  rcases trouble with ⟨op, empty⟩ | ⟨op, full⟩
  · have upcoming : machine.upcoming = .ret := upcoming_of_matches nofun op
    rw [upcoming, if_pos op]
    exact if_pos empty
  · have upcoming : machine.upcoming = .call _ := upcoming_of_matches nofun ⟨op, rfl⟩
    rw [upcoming, if_neg (by omega)]
    exact if_pos full

theorem refusal_of_memoryTrouble (trouble : machine.MemoryTrouble) :
    ∃ location, machine.poised.refusal machine.upcoming = some (.outOfRange location) := by
  rcases trouble with ⟨op, some, out⟩ | ⟨op, last, out⟩ | ⟨op, last | last, out⟩
  · have upcoming : machine.upcoming = .drw _ _ _ :=
      upcoming_of_matches nofun ⟨⟨op, rfl, rfl⟩, rfl⟩
    rw [upcoming]
    exact ⟨_, if_pos ⟨some, out⟩⟩
  · have upcoming : machine.upcoming = .ldB _ := upcoming_of_matches nofun ⟨op, last, rfl⟩
    rw [upcoming]
    exact ⟨_, if_pos out⟩
  · have upcoming : machine.upcoming = .ldMemVx _ := upcoming_of_matches nofun ⟨op, last, rfl⟩
    rw [upcoming]
    exact ⟨_, if_pos out⟩
  · have upcoming : machine.upcoming = .ldVxMem _ := upcoming_of_matches nofun ⟨op, last, rfl⟩
    rw [upcoming]
    exact ⟨_, if_pos out⟩

/-- **Only trouble makes an instruction refused.** -/
theorem trouble_of_refusal (refused : machine.poised.refusal machine.upcoming = some fault) :
    machine.StackTrouble ∨ machine.MemoryTrouble := by
  cases upcoming : machine.upcoming with
  | ret =>
    have op := matches_of_upcoming upcoming
    rw [upcoming] at refused
    exact Or.inl (Or.inl ⟨op, (of_refused refused).1⟩)
  | call nnn =>
    obtain ⟨op, -⟩ := matches_of_upcoming upcoming
    rw [upcoming] at refused
    exact Or.inl (Or.inr ⟨op, (of_refused refused).1⟩)
  | drw x y n =>
    obtain ⟨⟨op, -, -⟩, rfl⟩ := matches_of_upcoming upcoming
    rw [upcoming] at refused
    obtain ⟨⟨some, out⟩, -⟩ := of_refused refused
    exact Or.inr (Or.inl ⟨op, some, out⟩)
  | ldB x =>
    obtain ⟨op, last, -⟩ := matches_of_upcoming upcoming
    rw [upcoming] at refused
    exact Or.inr (Or.inr (Or.inl ⟨op, last, (of_refused refused).1⟩))
  | ldMemVx x =>
    obtain ⟨op, last, rfl⟩ := matches_of_upcoming upcoming
    rw [upcoming] at refused
    exact Or.inr (Or.inr (Or.inr ⟨op, Or.inl last, (of_refused refused).1⟩))
  | ldVxMem x =>
    obtain ⟨op, last, rfl⟩ := matches_of_upcoming upcoming
    rw [upcoming] at refused
    exact Or.inr (Or.inr (Or.inr ⟨op, Or.inr last, (of_refused refused).1⟩))
  | _ =>
    rw [upcoming] at refused
    exact absurd refused.symm (Option.some_ne_none fault)

/-- An instruction that is granted meets no trouble. -/
theorem not_trouble_of_granted (granted : machine.poised.refusal machine.upcoming = none) :
    ¬ machine.StackTrouble ∧ ¬ machine.MemoryTrouble := by
  constructor
  · intro trouble
    rw [refusal_of_stackTrouble trouble] at granted
    exact Option.some_ne_none _ granted
  · intro trouble
    obtain ⟨location, refused⟩ := refusal_of_memoryTrouble trouble
    rw [refused] at granted
    exact Option.some_ne_none _ granted

/-- A machine that cannot fetch, or meets trouble. -/
def Troubled (machine : Machine Framebuffer) : Prop :=
  machine.AtTop ∨ machine.StackTrouble ∨ machine.MemoryTrouble

/-- Neither a sprite without rows nor a word that is no instruction is any
trouble. -/
theorem not_troubled_of_harmless (fits : ¬ machine.AtTop)
    (harmless : (machine.upcomingWord / 4096 = 0xD ∧ machine.upcomingWord % 16 = 0) ∨
      machine.upcoming = .unknown) : ¬ machine.Troubled := by
  rintro (top | trouble)
  · exact fits top
  · rcases harmless with ⟨op, rows⟩ | unknown
    · simp only [StackTrouble, MemoryTrouble] at trouble
      omega
    · have granted : machine.poised.refusal machine.upcoming = none := by
        rw [unknown]
        rfl
      have none := not_trouble_of_granted granted
      exact trouble.elim none.1 none.2

/-! ## When a step halts -/

/-- **A machine that does not wait runs an instruction or halts**, the latter
exactly where it is troubled. The call stack is to blame where a word was fetched
that asks too much of it, and memory elsewhere. -/
theorem Sound.step_of_ready (sound : machine.Sound width height)
    (ready : machine.keypad.isAwaiting = false) :
    (¬ machine.Troubled ∧ ∃ left, step machine = .ok true left) ∨
    (machine.Troubled ∧ ∃ cause report left,
      step machine = .error (.halted cause report) left ∧
      (¬ machine.AtTop ∧ machine.StackTrouble →
        cause = if machine.upcomingWord = 0x00EE then .stackUnderflow else .stackOverflow) ∧
      (¬ (¬ machine.AtTop ∧ machine.StackTrouble) → ∃ location, cause = .outOfRange location)) := by
  have course := sound.course
  generalize step machine = result at course
  cases course with
  | awaited awaiting => exact absurd (ready ▸ awaiting) Bool.false_ne_true
  | unfetched _ top out =>
    refine Or.inr ⟨Or.inl top, _, _, _, rfl, fun other => absurd top other.1, fun _ => ⟨_, out⟩⟩
  | granted _ fits granted outbox =>
    obtain ⟨stack, memory⟩ := not_trouble_of_granted granted
    refine Or.inl ⟨?_, _, rfl⟩
    rintro (top | trouble | trouble)
    · exact fits top
    · exact stack trouble
    · exact memory trouble
  | refused _ fits refused outbox leaves =>
    -- one fault is reported, so trouble with the stack rules out the other kind
    have trouble := trouble_of_refusal refused
    refine Or.inr ⟨Or.inr trouble, _, _, _, rfl, fun stack => ?_, fun other => ?_⟩
    · exact Option.some.inj (refused.symm.trans (refusal_of_stackTrouble stack.2))
    · have memory := trouble.resolve_left fun stack => other ⟨fits, stack⟩
      obtain ⟨location, out⟩ := refusal_of_memoryTrouble memory
      exact ⟨location, Option.some.inj (refused.symm.trans out)⟩

/-- **The next step of the machine halts on a fault.** -/
structure Doomed (width height : Nat) (fault : Fault) (machine : Machine Framebuffer) : Prop where
  sound : machine.Sound width height
  ready : machine.keypad.isAwaiting = false
  fits : ¬ machine.AtTop
  refused : machine.poised.refusal machine.upcoming = some fault

/-- The timers, the display and the signals sent are of no account to that. -/
theorem Doomed.beside (doomed : machine.Doomed width height fault) {timers : Timers}
    {display : Framebuffer} {outbox : Array Signal}
    (sound : Sound width height
      { machine with timers := timers, display := display, outbox := outbox }) :
    Doomed width height fault
      { machine with timers := timers, display := display, outbox := outbox } :=
  ⟨sound, doomed.ready, doomed.fits, doomed.refused⟩

theorem Doomed.step (doomed : machine.Doomed width height fault) :
    ∃ report left, step machine = .error (.halted fault report) left := by
  obtain ⟨outbox, halts⟩ := step_of_refused doomed.sound doomed.ready doomed.fits doomed.refused
  exact ⟨_, _, halts⟩

/-- **Exactly when a step halts, and on which fault.** A machine in use that does
not wait for a key halts where no word can be fetched, or where the upcoming word
asks too much of the call stack or of memory; the call stack is to blame in the
second case and memory in the others. Otherwise the step runs an instruction, as
it does on a sprite without rows and on a word that is no instruction. -/
theorem Reachable.halts_iff (reachable : Reachable width height machine)
    (ready : machine.keypad.isAwaiting = false) :
    let atTop := 0xFFF ≤ machine.registers.pc
    let op := machine.upcomingWord
    ((∃ cause report left, step machine = .error (.halted cause report) left) ↔
      atTop ∨ machine.StackTrouble ∨ machine.MemoryTrouble) ∧
    (∀ cause report left, step machine = .error (.halted cause report) left →
      (¬ atTop ∧ machine.StackTrouble →
        cause = if op = 0x00EE then .stackUnderflow else .stackOverflow) ∧
      (¬ (¬ atTop ∧ machine.StackTrouble) → ∃ location, cause = .outOfRange location)) ∧
    (¬ (atTop ∨ machine.StackTrouble ∨ machine.MemoryTrouble) →
      ∃ left, step machine = .ok true left) ∧
    (¬ atTop → (op / 4096 = 0xD ∧ op % 16 = 0) ∨ Instruction.decode op = .unknown →
      ∃ left, step machine = .ok true left) := by
  intro atTop op
  rcases reachable.sound.step_of_ready ready with ⟨quiet, left, run⟩ | ⟨troubled, halted⟩
  · have runs : ∀ cause report other, step machine ≠ .error (.halted cause report) other := by
      intro cause report other halts
      rw [run] at halts
      cases halts
    refine ⟨⟨?_, fun troubled => absurd troubled quiet⟩, ?_, fun _ => ⟨left, run⟩,
      fun _ _ => ⟨left, run⟩⟩
    · rintro ⟨cause, report, other, halts⟩
      exact absurd halts (runs cause report other)
    · intro cause report other halts
      exact absurd halts (runs cause report other)
  · obtain ⟨cause, report, left, halts, stack, memory⟩ := halted
    refine ⟨⟨fun _ => troubled, fun _ => ⟨cause, report, left, halts⟩⟩, ?_,
      fun quiet => absurd troubled quiet,
      fun fits harmless => absurd troubled (not_troubled_of_harmless fits harmless)⟩
    intro cause' report' left' halts'
    rw [halts] at halts'
    cases halts'
    exact ⟨stack, memory⟩

/-- A program that begins with a return halts on it. -/
theorem halts_iff_of_return :
    ∃ machine, Reachable 64 32 machine ∧ machine.keypad.isAwaiting = false ∧
      machine.StackTrouble ∧
      ∃ cause report left, step machine = .error (.halted cause report) left := by
  obtain ⟨outbox, reachable⟩ := reachable_booted [0x00, 0xEE]
  have word := @wordAt_booted [0x00, 0xEE] (by decide) 0 (by decide)
  refine ⟨_, reachable, rfl, Or.inl ⟨word, rfl⟩, ?_⟩
  exact (reachable.halts_iff rfl).1.2 (Or.inr (Or.inl (Or.inl ⟨word, rfl⟩)))

end Machine
end Chip8
