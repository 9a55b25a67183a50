import Chip8.Proofs.Machine.CallStack
import Chip8.Proofs.Machine.Loading
/-!
# Where the program counter goes

An instruction that is no jump leads to the one after it, or to the one after that
(`pc_executed`), and from the top of memory to the start of the program area. What
is compared with the top is the address alone, and a word takes two bytes. So a
word can be fetched all along a run without jumps that begins at an even address,
and one that begins at an odd address can come to the last byte of memory, where
none can (`runaway_restarts`, `runaway_faults`).
-/

namespace Chip8

/-! ## The next address -/

namespace Registers

theorem next_le (address : Int) : next address ≤ 0xFFF := by
  rw [next_eq]
  omega

/-- After an even address that a word fits at comes another one. -/
theorem next_even (address : Int) (even : address < 0xFFF ∧ address % 2 = 0) :
    next address < 0xFFF ∧ next address % 2 = 0 := by
  obtain ⟨low, even⟩ := even
  rw [next_eq]
  omega

/-- A word fits at the next address, except after one. -/
theorem next_lt_iff (address : Int) : next address < 0xFFF ↔ address ≠ 0xFFD := by
  rw [next_eq]
  omega

/-- A word fits at the address after that, except after one. -/
theorem next_next_lt_iff (address : Int) : next (next address) < 0xFFF ↔ address ≠ 0xFFB := by
  rw [next_eq, next_eq]
  omega

end Registers

namespace Machine

variable {width height : Nat} {machine start : Machine Framebuffer} {request : Request}
variable {i : Instruction}

/-! ## Jumps and skips -/

/-- The upcoming word is a jump, a call or a return. -/
def Jumps (machine : Machine Framebuffer) : Prop :=
  let op := machine.upcomingWord
  op / 4096 = 0x1 ∨ op / 4096 = 0x2 ∨ op / 4096 = 0xB ∨ op = 0x00EE

/-- The upcoming instruction is to skip the one after it. -/
def skips (machine : Machine Framebuffer) : Bool :=
  let v := machine.registers.get
  match machine.upcoming with
  | .seByte x kk => v x == kk
  | .sneByte x kk => v x != kk
  | .seReg x y => v x == v y
  | .sneReg x y => v x != v y
  | .skp x => machine.keypad.isPressed (v x).toNat
  | .sknp x => !machine.keypad.isPressed (v x).toNat
  | _ => false

/-- Where the upcoming instruction leads, if it is no jump. -/
def onward (machine : Machine Framebuffer) : Int :=
  if machine.skips then Registers.next (Registers.next machine.registers.pc)
  else Registers.next machine.registers.pc

theorem pc_skipped (condition : Bool) :
    (machine.skipped condition).pc =
      if condition then Registers.next machine.registers.pc else machine.registers.pc := by
  cases condition <;> rfl

/-- **Where an instruction leads that is no jump.** -/
theorem pc_executed (straight : ¬ machine.Jumps) :
    (machine.poised.executed machine.upcoming).registers.pc = machine.onward := by
  change (machine.poised.registersAfter machine.upcoming).pc = _
  rw [onward, skips]
  cases upcoming : machine.upcoming with
  | jp => exact absurd (.inl (matches_of_upcoming upcoming).1) straight
  | call => exact absurd (.inr (.inl (matches_of_upcoming upcoming).1)) straight
  | jpV0 => exact absurd (.inr (.inr (.inl (matches_of_upcoming upcoming).1))) straight
  | ret => exact absurd (.inr (.inr (.inr (matches_of_upcoming upcoming)))) straight
  | seByte | sneByte | seReg | sneReg | skp | sknp => exact pc_skipped _
  | ldVxMem x => exact (congrArg Registers.pc (Registers.fill_eq _ _ _) :)
  | _ => rfl

/-- A refused instruction has moved the program counter on, jump or not. -/
theorem pc_interrupted (i : Instruction) :
    (machine.poised.interrupted i).registers.pc = Registers.next machine.registers.pc :=
  (congrArg Registers.pc (registersLeft_eq machine.poised i) :)

/-! ## Requests that complete no jump -/

/-- The request completes no jump. -/
def Straight (machine : Machine Framebuffer) (request : Request) : Prop :=
  request = .step → ∀ left, step machine = .ok true left → ¬ machine.Jumps

/-- Requests other than steps leave the program counter alone, or start again. -/
theorem pc_answered (other : request ≠ .step) :
    (machine.answered request).registers.pc = machine.registers.pc ∨
      (machine.answered request).registers.pc = 0x200 := by
  cases request with
  | step => exact absurd rfl other
  | reset | load => exact .inr rfl
  | _ => exact .inl (congrArg (fun left => left.registers.pc) (answered_eq other trivial) :)

/-- Such a request keeps what holds of the start, and of the address after each
that it holds of. -/
theorem Sound.pc_after (sound : machine.Sound width height) (straight : Straight machine request)
    {P : Int → Prop} (here : P machine.registers.pc) (restart : P 0x200)
    (next : ∀ address, P address → P (Registers.next address)) :
    P (machine.after request).registers.pc := by
  by_cases other : request = .step
  · subst other
    have course := sound.course
    have advanced := next _ here
    cases run : step machine with
    | ok ran left =>
      rw [run] at course
      rw [after_step_of_ok run]
      cases course with
      | awaited => exact here
      | granted =>
        -- the program counter has moved on before the instruction, and a skip moves it again
        change P (machine.poised.executed machine.upcoming).registers.pc
        rw [pc_executed (straight rfl _ run), onward]
        split
        · exact next _ advanced
        · exact advanced
    | error crash left =>
      rw [run] at course
      rw [after_step_of_error run]
      cases course with
      | unfetched => exact here
      | refused _ _ _ _ leaves =>
        rw [leaves]
        change P (machine.poised.interrupted machine.upcoming).registers.pc
        rw [pc_interrupted]
        exact advanced
  · obtain ⟨outbox, left⟩ := after_eq sound request
    rw [left]
    rcases @pc_answered machine request other with same | start
    · exact same.symm ▸ here
    · exact start.symm ▸ restart

/-- **Along a run without jumps the program counter keeps what moving on keeps.** -/
theorem Follows.pc (follows : Follows Straight start machine) (sound : start.Sound width height)
    {P : Int → Prop} (here : P start.registers.pc) (restart : P 0x200)
    (next : ∀ address, P address → P (Registers.next address)) : P machine.registers.pc :=
  follows.keeps_of_sound sound here fun _ _ sound here straight =>
    sound.pc_after straight here restart next

/-! ## A program that jumps -/

/-- The usual machine, after the only instruction of a program has jumped. -/
structure Jumped (target : Fin 4096) (machine : Machine Framebuffer) : Prop where
  reachable : Reachable 64 32 machine
  ready : machine.keypad.isAwaiting = false
  pc : machine.registers.pc = target.val
  fetchedFrom : machine.fetchedFrom = 0x200
  opcode : machine.opcode = (0x1000 + target.val : Nat)
  /-- The program is still there. -/
  jump : machine.memory.wordAt 0x200 = 0x1000 + target
  /-- Nothing follows it. -/
  blank : ∀ address, 0x202 ≤ address → address < 4096 → machine.memory.byteAt address = 0

/-- **A program can jump to any address.** -/
theorem exists_jumped (target : Fin 4096) : ∃ machine, Jumped target machine := by
  let rom : List UInt8 := [UInt8.ofNat (0x10 + target / 256), UInt8.ofNat (target % 256)]
  obtain ⟨outbox, start⟩ := reachable_booted rom
  have length : rom.length = 2 := rfl
  have word : (booted rom).memory.wordAt 0x200 = 0x1000 + target := by
    have word := @wordAt_booted rom (show 2 ≤ Memory.programCapacity by decide) 0
      (show 1 < 2 by decide)
    have high : (UInt8.ofNat (0x10 + target / 256)).toNat = 0x10 + target / 256 := by
      rw [UInt8.toNat_ofNat']
      omega
    have low : (UInt8.ofNat (target % 256)).toNat = target % 256 := by
      rw [UInt8.toNat_ofNat']
      omega
    refine word.trans ?_
    change 256 * (UInt8.ofNat (0x10 + target / 256)).toNat +
      (UInt8.ofNat (target % 256)).toNat = _
    omega
  have jumps : ({ booted rom with outbox := outbox } : Machine Framebuffer).upcoming =
      .jp target := by
    refine upcoming_of_matches nofun ⟨?_, Fin.ext ?_⟩
    · change (booted rom).memory.wordAt 0x200 / 4096 = 1
      omega
    · change target.val = (booted rom).memory.wordAt 0x200 % 4096
      omega
  obtain ⟨sent, -, jumped⟩ := start.granted rfl (show ¬ (0xFFF : Int) ≤ 0x200 by decide)
    (by rw [jumps]; rfl)
  rw [jumps] at jumped
  have blank : ∀ address, 0x202 ≤ address → address < 4096 →
      (booted rom).memory.byteAt address = 0 := by
    intro address above inside
    rw [booted, byteAt_loadedWith rom inside, if_neg (by omega), if_neg (by rw [length]; omega)]
  exact ⟨_, jumped, rfl, rfl, rfl, congrArg Nat.cast word, word, blank⟩

/-- Behind the program lies nothing that is an instruction, and a step past it
goes to the next address. -/
theorem Jumped.step_blank {target : Fin 4096} (jumped : Jumped target machine)
    (above : 0x202 ≤ target.val) (low : target.val < 0xFFF) :
    ¬ machine.Jumps ∧ ∃ left, step machine = .ok true left ∧ Reachable 64 32 left ∧
      left.keypad.isAwaiting = false ∧ left.registers.pc = Registers.next target.val := by
  have word : machine.upcomingWord = 0 := by
    rw [upcomingWord, jumped.pc, Int.toNat_natCast, Bank.wordAt,
      jumped.blank _ above (by omega), jumped.blank _ (by omega) (by omega)]
    rfl
  have unknown : machine.upcoming = .unknown := by
    rw [upcoming, word]
    rfl
  have straight : ¬ machine.Jumps := by
    rw [Jumps, word]
    decide
  have fits : ¬ machine.AtTop := by
    rw [AtTop, jumped.pc]
    omega
  obtain ⟨outbox, run, left⟩ := jumped.reachable.granted jumped.ready fits
    (by rw [unknown]; rfl)
  refine ⟨straight, _, run, left, ?_, ?_⟩
  · rw [unknown]
    exact jumped.ready
  · rw [unknown, ← jumped.pc]
    rfl

/-! ## Runaway programs -/

/-- A word can be fetched where one fits. -/
theorem Sound.fetch_iff (sound : machine.Sound width height) :
    (∃ word, fetch machine = .ok word machine) ↔ machine.registers.pc < 0xFFF := by
  constructor
  · rintro ⟨word, fetched⟩
    refine Int.not_le.1 fun top => ?_
    rw [fetch_of_atTop sound top] at fetched
    cases fetched
  · intro low
    exact ⟨_, fetch_of_not_atTop sound (Int.not_le.2 low)⟩

/-- Where an instruction leads that a step has completed, and that is no jump. -/
theorem Sound.pc_of_step {left : Machine Framebuffer} (sound : machine.Sound width height)
    (run : step machine = .ok true left) (straight : ¬ machine.Jumps) :
    left.registers.pc = machine.onward := by
  have course := sound.course
  rw [run] at course
  cases course with
  | granted => exact pc_executed straight

/-- **Runaway programs restart, if they run on even addresses.** An instruction
that is no jump leads to the next address, past the one that it skips, and from the
top of memory to the start of the program area. From where it leads a word can be
fetched, except from the last byte of memory, to which two addresses lead: one if
nothing is skipped and one if something is. Both are odd, so that along a run
without jumps from an even address a word can always be fetched; and from an odd one
no address past the last byte of memory is reached either. -/
theorem runaway_restarts (width height : Nat) :
    (∀ machine left, Reachable width height machine → step machine = .ok true left →
      ¬ machine.Jumps →
      left.registers.pc = machine.onward ∧
      ((∃ word, fetch left = .ok word left) ↔
        machine.registers.pc ≠ if machine.skips then 0xFFB else 0xFFD)) ∧
    (∀ start machine, Reachable width height start → Follows Straight start machine →
      start.registers.pc < 0xFFF →
      0 ≤ machine.registers.pc ∧ machine.registers.pc ≤ 0xFFF ∧
      (start.registers.pc % 2 = 0 → machine.registers.pc % 2 = 0 ∧
        ∃ word, fetch machine = .ok word machine)) := by
  constructor
  · intro machine left reachable run straight
    have sound := reachable.sound
    have onward := sound.pc_of_step run straight
    refine ⟨onward, ?_⟩
    rw [(sound.of_step run).fetch_iff, onward, Machine.onward]
    cases machine.skips with
    | false => exact Registers.next_lt_iff _
    | true => exact Registers.next_next_lt_iff _
  · intro start machine reachable follows low
    have sound := follows.sound reachable.sound
    refine ⟨sound.registers.pc_nonneg, ?_, fun even => ?_⟩
    · exact follows.pc (P := (· ≤ 0xFFF)) reachable.sound (Int.le_of_lt low) (by decide)
        fun address _ => Registers.next_le address
    · obtain ⟨low, even⟩ := follows.pc reachable.sound ⟨low, even⟩ (by decide) Registers.next_even
      exact ⟨even, sound.fetch_iff.2 low⟩

/-- So a program restarts that has jumped to the last even address. -/
theorem runaway_restarts_of_last_even :
    ∃ machine left, Reachable 64 32 machine ∧ machine.registers.pc = 0xFFE ∧
      step machine = .ok true left ∧ ¬ machine.Jumps ∧ Follows Straight machine left ∧
      machine.onward = 0x200 ∧ left.registers.pc = 0x200 ∧
      ∃ word, fetch left = .ok word left := by
  obtain ⟨machine, jumped⟩ := exists_jumped 0xFFE
  obtain ⟨straight, left, run, -, -, pc⟩ := jumped.step_blank (by decide) (by decide)
  have low : machine.registers.pc < 0xFFF := by
    rw [jumped.pc]
    decide
  have even : machine.registers.pc % 2 = 0 := by
    rw [jumped.pc]
    decide
  have follows : Follows Straight machine left := by
    have served : Follows Straight machine (machine.after .step) :=
      .served .start fun _ _ _ => straight
    rwa [after_step_of_ok run] at served
  obtain ⟨onward, -⟩ := (runaway_restarts 64 32).1 machine left jumped.reachable run straight
  obtain ⟨-, -, fetches⟩ := (runaway_restarts 64 32).2 machine left jumped.reachable follows low
  exact ⟨machine, left, jumped.reachable, jumped.pc, run, straight, follows, onward.symm.trans pc,
    pc, (fetches even).2⟩

/-- **From the last odd address that a word fits at a program does not restart.** A
step from there completes on a word that is no instruction, and the next one halts
on the fetch. -/
theorem runaway_faults :
    ∃ machine left report halted, Reachable 64 32 machine ∧ machine.registers.pc = 0xFFD ∧
      step machine = .ok true left ∧ ¬ machine.Jumps ∧ left.registers.pc = 0xFFF ∧
      step left = .error (.halted (.outOfRange 0x1000) report) halted := by
  obtain ⟨machine, jumped⟩ := exists_jumped 0xFFD
  obtain ⟨straight, left, run, reachable, ready, pc⟩ :=
    jumped.step_blank (by decide) (by decide)
  have halts := step_of_atTop reachable.sound ready
    (show (0xFFF : Int) ≤ left.registers.pc by rw [pc]; decide)
  rw [pc] at halts
  exact ⟨machine, left, _, _, jumped.reachable, jumped.pc, run, straight, pc, halts⟩

end Machine
end Chip8
