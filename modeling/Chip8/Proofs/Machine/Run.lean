import Chip8.Proofs.Machine.Soundness
/-!
# Runs of requests

`Follows` is what can come of a machine by requests of a kind; what such
requests keep holds all along (`Follows.keeps`). What can be seen of a run from
outside is its `transcript`: of each request the reply or the crash, and the
contents that it leaves, which are the machine without its surroundings.
`Runs` is a program in memory that is about to run the instruction at a place
in it.
-/

namespace Chip8

/-- What comes back of a request that does not crash. -/
inductive Reply where
  | done
  /-- Whether an instruction was run. -/
  | ran (ran : Bool)
  /-- The logical key that an event was about. -/
  | key (key : Option (Fin 16))
  /-- How many bytes of a program were loaded. -/
  | loaded (count : Nat)
  deriving DecidableEq, Repr

namespace Machine

variable {width height : Nat} {machine start : Machine Framebuffer}
variable {allowed : Machine Framebuffer → Request → Prop}

/-! ## What follows -/

/-- **What follows a machine** by requests that are allowed where they are
made. -/
inductive Follows (allowed : Machine Framebuffer → Request → Prop)
    (start : Machine Framebuffer) : Machine Framebuffer → Prop where
  /-- Nothing yet. -/
  | start : Follows allowed start start
  /-- One more request. -/
  | served {machine : Machine Framebuffer} (follows : Follows allowed start machine)
      {request : Request} (may : allowed machine request) :
      Follows allowed start (machine.after request)

/-- **What is kept by each request holds all along.** -/
theorem Follows.keeps {P : Machine Framebuffer → Prop} (follows : Follows allowed start machine)
    (first : P start)
    (kept : ∀ machine request, P machine → allowed machine request → P (machine.after request)) :
    P machine := by
  induction follows with
  | start => exact first
  | served follows may ih => exact kept _ _ ih may

theorem Follows.sound (follows : Follows allowed start machine)
    (sound : start.Sound width height) : machine.Sound width height :=
  follows.keeps sound fun _ request sound _ => sound.after request

/-- So it does if it is kept on sound machines only. -/
theorem Follows.keeps_of_sound {P : Machine Framebuffer → Prop}
    (follows : Follows allowed start machine) (sound : start.Sound width height) (first : P start)
    (kept : ∀ machine request, machine.Sound width height → P machine → allowed machine request →
      P (machine.after request)) : P machine := by
  have both : machine.Sound width height ∧ P machine :=
    follows.keeps (P := fun machine => machine.Sound width height ∧ P machine) ⟨sound, first⟩
      fun machine request here may =>
        ⟨here.1.after request, kept machine request here.1 here.2 may⟩
  exact both.2

theorem afterAll_append (machine : Machine Framebuffer) (earlier later : List Request) :
    machine.afterAll (earlier ++ later) = (machine.afterAll earlier).afterAll later :=
  List.foldl_append

/-- Requests that are allowed of every machine may follow one another. -/
theorem Follows.afterAll {requests : List Request} (follows : Follows allowed start machine)
    (may : ∀ request ∈ requests, ∀ machine, allowed machine request) :
    Follows allowed start (machine.afterAll requests) := by
  induction requests generalizing machine with
  | nil => exact follows
  | cons request requests ih =>
    obtain ⟨here, there⟩ := List.forall_mem_cons.1 may
    exact ih (follows.served (here machine)) there

/-! ## One step more -/

/-- What a granted instruction leaves is a machine in use. -/
theorem Reachable.granted (reachable : Reachable width height machine)
    (ready : machine.keypad.isAwaiting = false) (fits : ¬ machine.AtTop)
    (granted : machine.poised.refusal machine.upcoming = none) :
    ∃ outbox,
      let left := { machine.poised.executed machine.upcoming with outbox := outbox }
      step machine = .ok true left ∧ Reachable width height left := by
  obtain ⟨outbox, run⟩ := step_of_granted reachable.sound ready fits granted
  have left := reachable.served .step
  rw [after_step_of_ok run] at left
  exact ⟨outbox, run, left⟩

/-- So is what a refused one leaves. -/
theorem Reachable.refused {fault : Fault} (reachable : Reachable width height machine)
    (ready : machine.keypad.isAwaiting = false) (fits : ¬ machine.AtTop)
    (refused : machine.poised.refusal machine.upcoming = some fault) :
    ∃ outbox,
      let left := { machine.poised.interrupted machine.upcoming with outbox := outbox }
      step machine = .error (.halted fault (left.crashReport fault)) left ∧
        Reachable width height left := by
  obtain ⟨outbox, run⟩ := step_of_refused reachable.sound ready fits refused
  have left := reachable.served .step
  rw [after_step_of_error run] at left
  exact ⟨outbox, run, left⟩

/-- Where the program counter points into a program, the upcoming instruction is the
one written there. -/
theorem upcoming_booted {rom : List UInt8} (fits : rom.length ≤ Memory.programCapacity) {k : Nat}
    (inside : k + 1 < rom.length) (memory : machine.memory = (booted rom).memory)
    (pc : machine.registers.pc = (0x200 + k : Nat)) {i : Instruction}
    (written : .decode (256 * (rom.getD k 0).toNat + (rom.getD (k + 1) 0).toNat : Nat) = i) :
    machine.upcoming = i := by
  have word := wordAt_booted fits inside
  rw [upcoming, upcomingWord, memory, pc]
  exact (congrArg (fun word : Nat => Instruction.decode word) word).trans written

/-- A program that has been loaded is about to run its first instruction. -/
theorem reachable_first (rom : List UInt8) (i : Instruction)
    (fits : rom.length ≤ Memory.programCapacity) (whole : 1 < rom.length)
    (first : .decode (256 * (rom.getD 0 0).toNat + (rom.getD 1 0).toNat : Nat) = i) :
    ∃ outbox,
      let start := { booted rom with outbox := outbox }
      Reachable 64 32 start ∧ start.upcoming = i := by
  obtain ⟨outbox, reachable⟩ := reachable_booted rom
  exact ⟨outbox, reachable, upcoming_booted fits whole rfl rfl first⟩

/-! ## Programs that run -/

/-- **A program that runs**: the machine is in use, holds the program, and is about to run
what is written at byte `k` of it. -/
structure Runs (rom : List UInt8) (k : Nat) (machine : Machine Framebuffer) : Prop where
  reachable : Reachable 64 32 machine
  ready : machine.keypad.isAwaiting = false
  pc : machine.registers.pc = (0x200 + k : Nat)
  words : ∀ j, j + 1 < rom.length →
    machine.memory.wordAt (0x200 + j) = (booted rom).memory.wordAt (0x200 + j)

/-- A register has been given a byte, and the other registers, the index register and the
memory stay. -/
structure Given (x : Fin 16) (kk : UInt8) (before after : Machine Framebuffer) : Prop where
  value : after.registers.get x = kk
  others : ∀ y, x ≠ y → after.registers.get y = before.registers.get y
  index : after.registers.i = before.registers.i
  memory : after.memory = before.memory

/-- A program that has been loaded runs from its first byte on. -/
theorem exists_runs (rom : List UInt8) : ∃ machine, Runs rom 0 machine := by
  obtain ⟨_, reachable⟩ := reachable_booted rom
  exact ⟨_, reachable, rfl, rfl, fun _ _ => rfl⟩

namespace Runs

variable {rom : List UInt8} {k : Nat} {i : Instruction} (runs : Runs rom k machine)
  (fits : rom.length ≤ Memory.programCapacity) (inside : k + 1 < rom.length)
include runs fits inside

theorem not_atTop : ¬ machine.AtTop := by
  have capacity : Memory.programCapacity = 3232 := rfl
  rw [AtTop, runs.pc]
  omega

/-- The next instruction is written two bytes on. -/
theorem pc_poised : machine.poised.registers.pc = (0x200 + (k + 2) : Nat) := by
  have capacity : Memory.programCapacity = 3232 := rfl
  have below : ¬ ((0x200 + k : Nat) : Int) + 2 ≥ 0x1000 := by omega
  change Registers.next machine.registers.pc = _
  rw [runs.pc, Registers.next]
  exact if_neg below

theorem upcoming_eq
    (written : .decode (256 * (rom.getD k 0).toNat + (rom.getD (k + 1) 0).toNat : Nat) = i) :
    machine.upcoming = i := by
  have word := (runs.words k inside).trans (wordAt_booted fits inside)
  rw [upcoming, upcomingWord, runs.pc]
  exact (congrArg (fun word : Nat => Instruction.decode word) word).trans written

/-- An instruction that sets registers, and not the program counter, leads on to the
next one. -/
theorem sets
    (written : .decode (256 * (rom.getD k 0).toNat + (rom.getD (k + 1) 0).toNat : Nat) = i)
    (set : Registers → Registers) (goesOn : ∀ registers, (set registers).pc = registers.pc)
    (granted : machine.poised.refusal i = none)
    (executed : machine.poised.executed i =
      { machine.poised with registers := set machine.poised.registers }) :
    ∃ left, step machine = .ok true left ∧ Runs rom (k + 2) left ∧
      left.registers = set machine.registers.advance ∧ left.memory = machine.memory := by
  have upcoming := runs.upcoming_eq fits inside written
  obtain ⟨outbox, run, reachable⟩ := runs.reachable.granted runs.ready
    (runs.not_atTop fits inside) (by rw [upcoming]; exact granted)
  rw [upcoming, executed] at run reachable
  have pc := (goesOn _).trans (runs.pc_poised fits inside)
  exact ⟨_, run, ⟨reachable, runs.ready, pc, runs.words⟩, rfl, rfl⟩

/-- So does a byte that is loaded. -/
theorem loads (x : Fin 16) (kk : UInt8)
    (written : .decode (256 * (rom.getD k 0).toNat + (rom.getD (k + 1) 0).toNat : Nat) =
      Instruction.ldByte x kk) :
    ∃ left, step machine = .ok true left ∧ Runs rom (k + 2) left ∧ Given x kk machine left := by
  obtain ⟨left, run, next, registers, memory⟩ :=
    runs.sets fits inside written (Registers.set · x kk) (fun _ => rfl) rfl rfl
  refine ⟨left, run, next, ?_, fun y other => ?_, ?_, memory⟩
  · rw [registers]
    exact Registers.get_set_self _ x kk
  · rw [registers]
    exact Registers.get_set_of_ne other
  · rw [registers]
    rfl

end Runs

/-! ## What is seen of a run -/

/-- The contents of a machine: all that it holds, without the trace, the noise
and the signals around it. -/
def bare (machine : Machine Framebuffer) : Machine Framebuffer :=
  { machine with traced := false, noise := fun _ => 0, drawn := 0, outbox := #[] }

/-- The result of an operation or its crash, without what it leaves. -/
def outcome {α : Type} : EStateM.Result Crash (Machine Framebuffer) α → Except Crash α
  | .ok result _ => .ok result
  | .error crash _ => .error crash

/-- What comes back of a request. -/
def response (machine : Machine Framebuffer) : Request → Except Crash Reply
  | .step => (outcome (step machine)).map .ran
  | .tick => (outcome (direct tick machine)).map fun _ => .done
  | .keyDown code => (outcome (direct (keyDown code) machine)).map .key
  | .keyUp code => (outcome (direct (keyUp code) machine)).map .key
  | .reset => (outcome (direct reset machine)).map fun _ => .done
  | .load rom => (outcome (direct (loadRom rom) machine)).map .loaded
  | .refresh => (outcome (direct refreshDisplay machine)).map fun _ => .done

/-- **What is seen of a run**: of each request what comes back, and the contents
that it leaves. -/
def transcript (machine : Machine Framebuffer) :
    List Request → List (Except Crash Reply × Machine Framebuffer)
  | [] => []
  | request :: requests =>
    (machine.response request, (machine.after request).bare) ::
      (machine.after request).transcript requests

/-- What comes back of a request other than a step: an event is answered by the
key that it is about, and a load by how many bytes of the program fit. -/
def told (machine : Machine Framebuffer) : Request → Reply
  | .keyDown code | .keyUp code => .key (machine.keypad.logical? code)
  | .load rom => .loaded (rom.take Memory.programCapacity).length
  | _ => .done

theorem outcome_direct_of_ok {α : Type} {operation : Operation (Machine Framebuffer) α}
    {result : α} {left : Machine Framebuffer} (h : operation machine = .ok result left) :
    outcome (direct operation machine) = .ok result := by
  rw [direct_of_ok h]
  rfl

theorem outcome_keyDown (sound : machine.Sound width height) (code : Option KeyCode) :
    outcome (direct (keyDown code) machine) = .ok (machine.keypad.logical? code) := by
  cases known : machine.keypad.logical? code with
  | none => exact outcome_direct_of_ok (keyDown_of_none known)
  | some key =>
    obtain ⟨outbox, filled⟩ := keyDown_of_some sound known
    exact outcome_direct_of_ok filled

theorem outcome_keyUp (code : Option KeyCode) (machine : Machine Framebuffer) :
    outcome (direct (keyUp code) machine) = .ok (machine.keypad.logical? code) := by
  rw [direct, keyUp, get_bind]
  cases machine.keypad.logical? code <;> rfl

/-- **What comes back of every request but a step.** -/
theorem response_of_ne_step (sound : machine.Sound width height) {request : Request}
    (other : request ≠ .step) : machine.response request = .ok (machine.told request) := by
  cases request with
  | step => exact absurd rfl other
  | tick =>
    obtain ⟨outbox, counted⟩ := updateTimers_eq Timers.tick machine
    rw [response, tick, outcome_direct_of_ok counted]
    rfl
  | keyDown code =>
    rw [response, outcome_keyDown sound code]
    rfl
  | keyUp code =>
    rw [response, outcome_keyUp code machine]
    rfl
  | reset =>
    obtain ⟨outbox, emptied⟩ := reset_eq sound
    rw [response, outcome_direct_of_ok emptied]
    rfl
  | load rom =>
    obtain ⟨outbox, loaded⟩ := loadRom_eq sound rom
    rw [response, outcome_direct_of_ok loaded]
    rfl
  | refresh =>
    obtain ⟨outbox, painted⟩ := refreshDisplay_eq machine
    rw [response, outcome_direct_of_ok painted]
    rfl

end Machine
end Chip8
