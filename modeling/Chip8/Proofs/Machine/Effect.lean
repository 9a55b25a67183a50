import Chip8.Proofs.Machine.Sprite
import Chip8.Proofs.Machine.Transfer
import Chip8.Proofs.Registers.Calls
/-!
# The effect of an instruction

On a sound machine an instruction is refused for one of three reasons: it
returns with nothing on the call stack, it calls with the stack full, or it
reaches past memory. `refusal` says which, and what follows is all that
executing can do: a granted instruction leaves `executed`, a refused one leaves
`interrupted` (`execute_of_granted`, `execute_of_refused`). Both are given part by
part, so that what an instruction leaves alone can be read off.
-/

namespace Chip8

/-! ## Sound machines -/

/-- The program counter is an address, or was left past memory by a jump with an
offset; the call stack has its size and holds addresses. -/
structure Registers.Sound (registers : Registers) : Prop where
  pc_nonneg : 0 ≤ registers.pc
  pc_le : registers.pc ≤ 0x10FE
  stack : registers.stack.Sound
  size_stack : registers.stack.size = stackSize
  returns : ∀ address ∈ registers.stack.items, address.toNat ≤ 0xFFF

namespace Machine

/-- **What every machine in use satisfies**: the parts have their sizes, and a
key is awaited for a register that there is. -/
structure Sound (width height : Nat) (machine : Machine Framebuffer) : Prop where
  memory : machine.memory.HasCells Memory.size
  registers : machine.registers.Sound
  latch : ∀ number, machine.keypad.latch = some number → 0 ≤ number ∧ number < 16
  display : machine.display.Sound width height

/-- How many calls have not returned. -/
def depth (machine : Machine Framebuffer) : Nat := machine.registers.stack.items.length

variable {width height : Nat} {machine : Machine Framebuffer} {i : Instruction} {fault : Fault}

/-- Calls are nested sixteen deep at most. -/
theorem Sound.depth_le (sound : machine.Sound width height) :
    machine.depth ≤ Registers.stackSize := by
  have := sound.registers.stack.length_items_le
  rw [sound.registers.size_stack] at this
  exact Int.ofNat_le.1 this

/-! ## Refusals -/

/-- Why an instruction is refused, if it is. -/
def refusal (machine : Machine Framebuffer) : Instruction → Option Fault
  | .ret => if machine.depth = 0 then some .stackUnderflow else none
  | .call _ => if machine.depth = Registers.stackSize then some .stackOverflow else none
  | .drw _ _ n =>
    if 0 < n.val ∧ Memory.size < machine.index + n then
      some (.outOfRange (max machine.index Memory.size : Nat))
    else none
  | .ldB _ =>
    if Memory.size ≤ machine.index + 2 then some (.outOfRange (machine.index + 2)) else none
  | .ldMemVx x =>
    if Memory.size ≤ machine.index + x then some (.outOfRange (machine.index + x.val)) else none
  | .ldVxMem x =>
    if Memory.size ≤ machine.index + x then
      some (.outOfRange (max machine.index Memory.size : Nat))
    else none
  | _ => none

theorem not_of_granted {p : Prop} [Decidable p]
    (granted : (if p then some fault else none) = none) : ¬ p := by
  intro h
  rw [if_pos h] at granted
  exact Option.some_ne_none fault granted

theorem of_refused {p : Prop} [Decidable p] {cause : Fault}
    (refused : (if p then some cause else none) = some fault) : p ∧ cause = fault := by
  rw [Option.ite_none_right_eq_some, Option.some.injEq] at refused
  exact refused

/-- A return that is granted has an address to go to. -/
theorem depth_pos_of_granted (granted : machine.refusal .ret = none) : 0 < machine.depth :=
  Nat.pos_of_ne_zero (not_of_granted granted)

/-- A call that is granted has a slot to save an address in. -/
theorem Sound.room_of_granted (sound : machine.Sound width height) {nnn : Fin 4096}
    (granted : machine.refusal (.call nnn) = none) :
    (machine.depth : Int) < machine.registers.stack.size := by
  have depth := sound.depth_le
  have room := not_of_granted granted
  rw [sound.registers.size_stack]
  omega

/-! ## What an instruction leaves, part by part -/

/-- The dots of the first rows of the sprite at the index register, as they land
on the display. -/
def spriteDots (machine : Machine Framebuffer) (x y : Fin 16) (rows : Nat) : List (Nat × Nat) :=
  heldDots machine.display.width.toNat machine.display.height.toNat machine.memory
    ((machine.registers.get x).toNat % Framebuffer.usualWidth)
    ((machine.registers.get y).toNat % Framebuffer.usualHeight) machine.index rows

/-- The memory after an instruction that is granted. -/
def memoryAfter (machine : Machine Framebuffer) : Instruction → Bank
  | .ldB x => machine.memory.written machine.index (digits (machine.registers.get x))
  | .ldMemVx x =>
    machine.memory.written machine.index (machine.registers.v.toList.take (x + 1))
  | _ => machine.memory

/-- The registers with the next instruction skipped, if told so. -/
def skipped (machine : Machine Framebuffer) (condition : Bool) : Registers :=
  if condition then machine.registers.advance else machine.registers

/-- The registers with a result, and with the flag set after it. -/
def flagged (machine : Machine Framebuffer) (x : Fin 16) (result : UInt8) (flag : Bool) :
    Registers :=
  (machine.registers.set x result).set Registers.flag (if flag then 1 else 0)

/-- The registers after an instruction that is granted. -/
def registersAfter (machine : Machine Framebuffer) (i : Instruction) : Registers :=
  let registers := machine.registers
  let v := registers.get
  match i with
  | .cls | .ldVxK _ | .ldDtVx _ | .ldStVx _ | .ldB _ | .ldMemVx _ | .unknown => registers
  | .ret => { registers with pc := registers.stack.newest.toNat, stack := registers.stack.popped }
  | .jp nnn => registers.jump nnn.val
  | .call nnn => { registers with pc := nnn.val, stack := registers.stack.pushed registers.pc }
  | .seByte x kk => machine.skipped (v x == kk)
  | .sneByte x kk => machine.skipped (v x != kk)
  | .seReg x y => machine.skipped (v x == v y)
  | .sneReg x y => machine.skipped (v x != v y)
  | .skp x => machine.skipped (machine.keypad.isPressed (v x).toNat)
  | .sknp x => machine.skipped (!machine.keypad.isPressed (v x).toNat)
  | .ldByte x kk => registers.set x kk
  | .addByte x kk => registers.set x (v x + kk)
  | .ldReg x y => registers.set x (v y)
  | .orReg x y => registers.set x (v x ||| v y)
  | .andReg x y => registers.set x (v x &&& v y)
  | .xorReg x y => registers.set x (v x ^^^ v y)
  | .addReg x y => machine.flagged x (v x + v y) ((v x).toNat + (v y).toNat > 255)
  | .sub x y => machine.flagged x (v x - v y) (v x ≥ v y)
  | .shr x => machine.flagged x (v x >>> 1) ((v x).toNat % 2 == 1)
  | .subn x y => machine.flagged x (v y - v x) (v y ≥ v x)
  | .shl x => machine.flagged x (v x <<< 1) (v x ≥ 128)
  | .ldI nnn => registers.setIndex nnn.val
  | .jpV0 nnn => registers.jump (((v 0).toNat : Int) + nnn.val)
  | .rnd x kk => registers.set x (machine.noise machine.drawn &&& kk)
  | .drw x y n =>
    registers.set Registers.flag
      (if machine.display.strikes (machine.spriteDots x y n) then 1 else 0)
  | .ldVxDt x => registers.set x machine.timers.delay
  | .addI x => registers.setIndex ((registers.i.toNat : Int) + (v x).toNat)
  | .ldF x => registers.setIndex ((Memory.fontStart : Int) + Memory.fontRows * (v x).toNat)
  | .ldVxMem x => machine.loaded (x + 1)

/-- The timers after an instruction that is granted. -/
def timersAfter (machine : Machine Framebuffer) : Instruction → Timers
  | .ldDtVx x => machine.timers.setDelay (machine.registers.get x).toNat
  | .ldStVx x => (machine.timers.setSound (machine.registers.get x).toNat).1
  | _ => machine.timers

/-- The keypad after an instruction that is granted. -/
def keypadAfter (machine : Machine Framebuffer) : Instruction → Keypad
  | .ldVxK x => machine.keypad.await x.val
  | _ => machine.keypad

/-- The display after an instruction that is granted. -/
def displayAfter (machine : Machine Framebuffer) : Instruction → Framebuffer
  | .cls => machine.display.cleared
  | .drw x y n => (machine.display.invert (machine.spriteDots x y n)).render
  | _ => machine.display

/-- How many random bytes have been drawn after an instruction that is
granted. -/
def drawnAfter (machine : Machine Framebuffer) : Instruction → Nat
  | .rnd _ _ => machine.drawn + 1
  | _ => machine.drawn

/-- The machine after an instruction that is granted, with the outbox as it
was. -/
def executed (machine : Machine Framebuffer) (i : Instruction) : Machine Framebuffer :=
  { machine with
    memory := machine.memoryAfter i
    registers := machine.registersAfter i
    timers := machine.timersAfter i
    keypad := machine.keypadAfter i
    display := machine.displayAfter i
    drawn := machine.drawnAfter i }

/-- The registers after an instruction that is refused: those that could be
loaded are loaded. -/
def registersLeft (machine : Machine Framebuffer) : Instruction → Registers
  | .ldVxMem _ => machine.loaded (Memory.size - machine.index)
  | _ => machine.registers

/-- The display after an instruction that is refused: the rows that could be
drawn are drawn. -/
def displayLeft (machine : Machine Framebuffer) : Instruction → Framebuffer
  | .drw x y _ => machine.display.invert (machine.spriteDots x y (Memory.size - machine.index))
  | _ => machine.display

/-- The machine after an instruction that is refused, with the outbox as it
was. -/
def interrupted (machine : Machine Framebuffer) (i : Instruction) : Machine Framebuffer :=
  { machine with registers := machine.registersLeft i, display := machine.displayLeft i }

/-! ## Drawing -/

theorem drawSprite_eq (x y n : Fin 16) (machine : Machine Framebuffer) :
    drawSprite x y n machine =
      (drawRows ((machine.registers.get x).toNat % Framebuffer.usualWidth)
          ((machine.registers.get y).toNat % Framebuffer.usualHeight) machine.index n.val >>=
        fun hit => setFlag hit >>= fun _ => renderDisplay) machine := rfl

/-- A sprite that lies in memory is drawn whole. -/
theorem drawSprite_of_le (memory : machine.memory.HasCells Memory.size)
    (display : machine.display.Sound width height) (x y n : Fin 16)
    (inside : n.val = 0 ∨ machine.index + n ≤ Memory.size) :
    ∃ outbox, drawSprite x y n machine =
      .ok () { machine.executed (.drw x y n) with outbox := outbox } := by
  obtain ⟨outbox, drawn⟩ := drawRows_of_le memory display
    ((machine.registers.get x).toNat % Framebuffer.usualWidth)
    ((machine.registers.get y).toNat % Framebuffer.usualHeight) inside
  rw [← display.sides.1, ← display.sides.2] at drawn
  refine ⟨outbox, ?_⟩
  rw [drawSprite_eq]
  exact (Operation.bind_of_ok drawn).trans rfl

/-- The rows of a sprite that lie in memory are drawn before it is refused. -/
theorem drawSprite_of_gt (sound : machine.Sound width height) (x y : Fin 16) {n : Fin 16}
    (some : 0 < n.val) (outside : Memory.size < machine.index + n) :
    ∃ outbox, drawSprite x y n machine =
      .error (.outOfRange (max machine.index Memory.size : Nat))
        { machine.interrupted (.drw x y n) with outbox := outbox } := by
  obtain ⟨outbox, drawn⟩ := drawRows_of_gt sound.memory sound.display
    ((machine.registers.get x).toNat % Framebuffer.usualWidth)
    ((machine.registers.get y).toNat % Framebuffer.usualHeight) some outside
  rw [← sound.display.sides.1, ← sound.display.sides.2] at drawn
  refine ⟨outbox, ?_⟩
  rw [drawSprite_eq]
  exact Operation.bind_of_error drawn

/-! ## Executing -/

theorem skipIf_eq (condition : Bool) :
    skipIf condition machine = .ok () { machine with registers := machine.skipped condition } := by
  cases condition <;> rfl

/-- **A granted instruction is executed.** -/
theorem execute_of_granted (sound : machine.Sound width height)
    (granted : machine.refusal i = none) :
    ∃ outbox, execute i machine = .ok () { machine.executed i with outbox := outbox } := by
  cases i with
  | ret =>
    exact ⟨machine.outbox, onRegisters_of_ok
      (Registers.ret_of_pos sound.registers.stack (depth_pos_of_granted granted))⟩
  | call nnn =>
    exact ⟨machine.outbox, onRegisters_of_ok
      (Registers.call_of_lt sound.registers.stack (sound.room_of_granted granted))⟩
  | cls =>
    obtain ⟨outbox, cleared⟩ := clearDisplay_of_sound sound.display
    exact ⟨outbox, (Operation.bind_of_ok cleared).trans rfl⟩
  | drw x y n =>
    have inside := not_of_granted granted
    exact drawSprite_of_le sound.memory sound.display x y n (by omega)
  | ldDtVx x =>
    exact updateTimers_eq
      (fun timers => (timers.setDelay (machine.registers.get x).toNat, [])) machine
  | ldStVx x => exact updateTimers_eq (Timers.setSound (machine.registers.get x).toNat) machine
  | ldB x =>
    have inside := not_of_granted granted
    exact ⟨machine.outbox, storeDecimal_of_le sound.memory (by omega)⟩
  | ldMemVx x =>
    have inside := not_of_granted granted
    exact ⟨machine.outbox, storeRegisters_of_le sound.memory (by omega)⟩
  | ldVxMem x =>
    have inside := not_of_granted granted
    exact ⟨machine.outbox, loadRegisters_of_le sound.memory (by omega)⟩
  | seByte | sneByte | seReg | sneReg | skp | sknp =>
    exact ⟨machine.outbox, skipIf_eq _⟩
  | unknown => exact ⟨_, rfl⟩
  -- the others read and write registers only, and both sides compute
  | _ => exact ⟨machine.outbox, rfl⟩

/-- **A refused instruction is interrupted.** -/
theorem execute_of_refused (sound : machine.Sound width height)
    (refused : machine.refusal i = some fault) :
    ∃ outbox, execute i machine =
      .error fault { machine.interrupted i with outbox := outbox } := by
  cases i with
  | ret =>
    obtain ⟨none, rfl⟩ := of_refused refused
    exact ⟨machine.outbox, onRegisters_of_error
      (Registers.ret_of_empty sound.registers.stack none)⟩
  | call nnn =>
    obtain ⟨full, rfl⟩ := of_refused refused
    have full : (machine.depth : Int) = machine.registers.stack.size := by
      rw [sound.registers.size_stack, full]
    exact ⟨machine.outbox, onRegisters_of_error
      (Registers.call_of_full sound.registers.stack full)⟩
  | drw x y n =>
    obtain ⟨⟨some, outside⟩, rfl⟩ := of_refused refused
    exact drawSprite_of_gt sound x y some outside
  | ldB x =>
    obtain ⟨outside, rfl⟩ := of_refused refused
    exact ⟨machine.outbox, storeDecimal_of_gt sound.memory outside⟩
  | ldMemVx x =>
    obtain ⟨outside, rfl⟩ := of_refused refused
    exact ⟨machine.outbox, storeRegisters_of_gt sound.memory outside⟩
  | ldVxMem x =>
    obtain ⟨outside, rfl⟩ := of_refused refused
    exact ⟨machine.outbox, loadRegisters_of_gt sound.memory outside⟩
  | _ => exact absurd refused.symm (Option.some_ne_none fault)

end Machine
end Chip8
