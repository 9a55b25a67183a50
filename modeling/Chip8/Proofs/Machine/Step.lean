import Chip8.Machine.Step
import Chip8.Proofs.Instruction.Opcodes
import Chip8.Proofs.Machine.Effect
/-!
# A step of a sound machine

A step of a sound machine goes one of four ways: a key is awaited and nothing
happens (`step_of_awaiting`), no word can be fetched (`step_of_atTop`), or the
upcoming instruction is executed on the poised machine, whose program counter
has moved on, and is granted or refused (`step_of_granted`, `step_of_refused`).
`Course` holds the four of them, with all that they leave, and is what the rest of
the theory looks at.
-/

namespace Chip8
namespace Machine

variable {width height : Nat} {machine : Machine Framebuffer} {fault : Fault} {i : Instruction}

/-! ## The upcoming instruction -/

/-- The word at the program counter. -/
def upcomingWord (machine : Machine Framebuffer) : Nat :=
  machine.memory.wordAt machine.registers.pc.toNat

/-- The instruction at the program counter. -/
def upcoming (machine : Machine Framebuffer) : Instruction := .decode machine.upcomingWord

/-- The machine that has noted where it fetches from. -/
def marked (machine : Machine Framebuffer) : Machine Framebuffer :=
  { machine with fetchedFrom := machine.registers.pc }

/-- The machine that the upcoming instruction is executed on. -/
def poised (machine : Machine Framebuffer) : Machine Framebuffer :=
  { machine.marked with registers := machine.registers.advance, opcode := machine.upcomingWord }

/-- No word can be fetched. -/
def AtTop (machine : Machine Framebuffer) : Prop := 0xFFF ≤ machine.registers.pc

instance (machine : Machine Framebuffer) : Decidable machine.AtTop :=
  inferInstanceAs (Decidable (_ ≤ _))

theorem Sound.marked (sound : machine.Sound width height) : machine.marked.Sound width height :=
  ⟨sound.memory, sound.registers, sound.latch, sound.display⟩

theorem Sound.pc_poised (sound : machine.Sound width height) :
    0 ≤ machine.poised.registers.pc ∧ machine.poised.registers.pc ≤ 0xFFF :=
  Registers.next_bounds sound.registers.pc_nonneg

/-- Getting ready keeps a machine sound. -/
theorem Sound.poised (sound : machine.Sound width height) : machine.poised.Sound width height := by
  obtain ⟨nonneg, le⟩ := sound.pc_poised
  have registers := sound.registers
  exact ⟨sound.memory, ⟨nonneg, by omega, registers.stack, registers.size_stack,
    registers.returns⟩, sound.latch, sound.display⟩

/-- The signals sent are of no account to soundness. -/
theorem Sound.withOutbox (sound : machine.Sound width height) (outbox : Array Signal) :
    ({ machine with outbox := outbox } : Machine Framebuffer).Sound width height :=
  ⟨sound.memory, sound.registers, sound.latch, sound.display⟩

/-! ## Fetching -/

theorem fetch_eq (machine : Machine Framebuffer) :
    fetch machine =
      (onMemory (Bank.readBlock machine.registers.pc 2) >>= fun block =>
        pure (block.foldl (fun word byte => 256 * word + byte.toNat) 0)) machine := rfl

theorem fetch_of_not_atTop (sound : machine.Sound width height) (fits : ¬ machine.AtTop) :
    fetch machine = .ok machine.upcomingWord machine := by
  have inside : machine.registers.pc + 1 < Memory.size := by
    rw [AtTop, Int.not_le] at fits
    exact Int.add_lt_add_right fits 1
  have read := onMemory_of_ok
    (Bank.readBlock_two_of_lt sound.memory sound.registers.pc_nonneg inside)
  have word : ∀ high low : UInt8, [high, low].foldl (fun word byte => 256 * word + byte.toNat) 0 =
      256 * high.toNat + low.toNat := fun high low => by
    simp only [List.foldl_cons, List.foldl_nil, Nat.mul_zero, Nat.zero_add]
  rw [fetch_eq, Operation.bind_of_ok read, word]
  rfl

theorem fetch_of_atTop (sound : machine.Sound width height) (top : machine.AtTop) :
    fetch machine = .error (.outOfRange (max machine.registers.pc Memory.size)) machine := by
  have outside : (Memory.size : Int) ≤ machine.registers.pc + 1 := Int.add_le_add_right top 1
  rw [fetch_eq]
  exact Operation.bind_of_error (onMemory_of_error
    (Bank.readBlock_two_of_ge sound.memory sound.registers.pc_nonneg outside))

/-! ## Faults within an instruction -/

theorem guarded_of_ok {α δ : Type} {operation : Operation (Machine δ) α} {result : α}
    {before after : Machine δ} (h : operation before = .ok result after) :
    guarded operation before = .ok result after := by
  rw [guarded, h]

theorem guarded_of_error {α δ : Type} {operation : Operation (Machine δ) α}
    {before after : Machine δ} (h : operation before = .error fault after)
    (halting : fault.isHalting = true) :
    guarded operation before = .error (.halted fault (after.crashReport fault)) after := by
  rw [guarded, h]
  exact if_pos halting

/-- Instructions are refused by faults that halt, and by no others. -/
theorem isHalting_of_refusal (refused : machine.refusal i = some fault) :
    fault.isHalting = true := by
  cases i with
  | ret | call | drw | ldB | ldMemVx | ldVxMem =>
    obtain ⟨-, rfl⟩ := of_refused refused
    rfl
  | _ => exact absurd refused.symm (Option.some_ne_none fault)

/-- What is sent before the opcode is executed: the line of the instruction, if the
machine is traced. -/
def announcement (machine : Machine Framebuffer) : List Signal :=
  if machine.traced then
    [.noted ⟨.debug, machine.dump (Instruction.decode machine.opcode).mnemonic false⟩]
  else []

/-- The trace says nothing that matters to what is executed. -/
theorem decodeExecute_eq (machine : Machine Framebuffer) :
    decodeExecute machine =
      guarded (execute (.decode machine.opcode))
        { machine with outbox := machine.outbox ++ machine.announcement } := by
  rw [decodeExecute, get_bind, decode_withOperands, announcement]
  rcases Bool.eq_false_or_eq_true machine.traced with traced | silent
  · rw [if_pos traced, if_pos traced]
    rfl
  · have untraced : ¬ machine.traced = true := by
      rw [silent]
      exact Bool.false_ne_true
    rw [if_neg untraced, if_neg untraced]
    rfl

/-! ## The four ways of a step -/

/-- While a key is awaited a step does nothing. -/
theorem step_of_awaiting (awaiting : machine.keypad.isAwaiting = true) :
    step machine = .ok false machine := by
  rw [step, get_bind, if_pos awaiting]
  rfl

theorem step_eq (ready : machine.keypad.isAwaiting = false) :
    step machine =
      (guarded fetch >>= fun word =>
        (modify fun machine => { machine with opcode := word }) >>= fun _ =>
        direct (updateRegisters Registers.advance) >>= fun _ =>
        decodeExecute >>= fun _ => pure true) machine.marked := by
  rw [step, get_bind, if_neg (by rw [ready]; exact Bool.false_ne_true)]
  rfl

/-- A step past the top of memory halts, and moves nothing. -/
theorem step_of_atTop (sound : machine.Sound width height)
    (ready : machine.keypad.isAwaiting = false) (top : machine.AtTop) :
    let fault := Fault.outOfRange (max machine.registers.pc Memory.size)
    step machine = .error (.halted fault (machine.marked.crashReport fault)) machine.marked := by
  rw [step_eq ready]
  exact Operation.bind_of_error (guarded_of_error (fetch_of_atTop sound.marked top) rfl)

/-- Otherwise a step executes the upcoming instruction on the poised machine. -/
theorem step_of_not_atTop (sound : machine.Sound width height)
    (ready : machine.keypad.isAwaiting = false) (fits : ¬ machine.AtTop) :
    step machine =
      (guarded (execute machine.upcoming) >>= fun _ => pure true)
        { machine.poised with outbox := machine.outbox ++ machine.poised.announcement } := by
  have executed := decodeExecute_eq machine.poised
  -- the word fetched, the opcode and the advance together make the poised machine
  rw [step_eq ready, Operation.bind_of_ok (guarded_of_ok (fetch_of_not_atTop sound.marked fits))]
  change (EStateM.bind decodeExecute fun _ => pure true) machine.poised =
    (EStateM.bind (guarded (execute machine.upcoming)) fun _ => pure true) _
  rw [EStateM.bind, EStateM.bind, executed]
  rfl

/-- The upcoming instruction is granted, and the step is complete. -/
theorem step_of_granted (sound : machine.Sound width height)
    (ready : machine.keypad.isAwaiting = false) (fits : ¬ machine.AtTop)
    (granted : machine.poised.refusal machine.upcoming = none) :
    ∃ outbox, step machine =
      .ok true { machine.poised.executed machine.upcoming with outbox := outbox } := by
  have run := step_of_not_atTop sound ready fits
  obtain ⟨after, executed⟩ := execute_of_granted
    (sound.poised.withOutbox (machine.outbox ++ machine.poised.announcement)) granted
  refine ⟨after, ?_⟩
  rw [run, Operation.bind_of_ok (guarded_of_ok executed)]
  rfl

/-- The upcoming instruction is refused, and the machine halts. -/
theorem step_of_refused (sound : machine.Sound width height)
    (ready : machine.keypad.isAwaiting = false) (fits : ¬ machine.AtTop)
    (refused : machine.poised.refusal machine.upcoming = some fault) :
    ∃ outbox,
      let left := { machine.poised.interrupted machine.upcoming with outbox := outbox }
      step machine = .error (.halted fault (left.crashReport fault)) left := by
  have run := step_of_not_atTop sound ready fits
  obtain ⟨after, interrupted⟩ := execute_of_refused
    (sound.poised.withOutbox (machine.outbox ++ machine.poised.announcement)) refused
  refine ⟨after, ?_⟩
  rw [run, Operation.bind_of_error (guarded_of_error interrupted (isHalting_of_refusal refused))]
  rfl

/-! ## The course of a step -/

/-- **What a step can come to**, and when. -/
inductive Course (machine : Machine Framebuffer) :
    EStateM.Result Crash (Machine Framebuffer) Bool → Prop where
  /-- A key is awaited, and nothing happens. -/
  | awaited (awaiting : machine.keypad.isAwaiting = true) : Course machine (.ok false machine)
  /-- No word can be fetched, and nothing moves. -/
  | unfetched (ready : machine.keypad.isAwaiting = false) (top : machine.AtTop) {fault : Fault}
      (out : fault = .outOfRange (max machine.registers.pc Memory.size)) :
      Course machine (.error (.halted fault (machine.marked.crashReport fault)) machine.marked)
  /-- The upcoming instruction is granted, and executed. -/
  | granted (ready : machine.keypad.isAwaiting = false) (fits : ¬ machine.AtTop)
      (granted : machine.poised.refusal machine.upcoming = none) (outbox : Array Signal) :
      Course machine (.ok true { machine.poised.executed machine.upcoming with outbox := outbox })
  /-- The upcoming instruction is refused, and interrupted. -/
  | refused (ready : machine.keypad.isAwaiting = false) (fits : ¬ machine.AtTop) {fault : Fault}
      (refused : machine.poised.refusal machine.upcoming = some fault) (outbox : Array Signal)
      {left : Machine Framebuffer}
      (leaves : left = { machine.poised.interrupted machine.upcoming with outbox := outbox }) :
      Course machine (.error (.halted fault (left.crashReport fault)) left)

/-- **The course of every step.** -/
theorem Sound.course (sound : machine.Sound width height) : Course machine (step machine) := by
  rcases Bool.eq_false_or_eq_true machine.keypad.isAwaiting with awaiting | ready
  · rw [step_of_awaiting awaiting]
    exact .awaited awaiting
  · by_cases top : machine.AtTop
    · rw [step_of_atTop sound ready top]
      exact .unfetched ready top rfl
    · cases refused : machine.poised.refusal machine.upcoming with
      | none =>
        obtain ⟨outbox, run⟩ := step_of_granted sound ready top refused
        rw [run]
        exact .granted ready top refused outbox
      | some fault =>
        obtain ⟨outbox, run⟩ := step_of_refused sound ready top refused
        rw [run]
        exact .refused ready top refused outbox rfl

end Machine
end Chip8
