import Chip8.Proofs.Machine.Request
/-!
# Every machine in use is sound

Soundness holds of a machine that is switched on and survives every request,
a step that halts included (`Sound.answered`), so that it holds of all reachable
machines (`Reachable.sound`). A step of one of them can therefore fail only by
halting on a fault of the memory or of the call stack.
-/

namespace Chip8

/-! ## Registers -/

namespace Registers

variable {registers after : Registers}

theorem Sound.of_eq (sound : registers.Sound) (pc : after.pc = registers.pc)
    (stack : after.stack = registers.stack) : after.Sound := by
  obtain ⟨nonneg, le, slots, size, returns⟩ := sound
  exact ⟨pc ▸ nonneg, pc ▸ le, stack ▸ slots, stack ▸ size, stack ▸ returns⟩

theorem Sound.jump (sound : registers.Sound) {target : Int} (nonneg : 0 ≤ target)
    (le : target ≤ 0x10FE) : (registers.jump target).Sound :=
  ⟨nonneg, le, sound.stack, sound.size_stack, sound.returns⟩

theorem Sound.advance (sound : registers.Sound) : registers.advance.Sound := by
  obtain ⟨nonneg, le⟩ := next_bounds sound.pc_nonneg
  exact sound.jump nonneg (by omega)

/-- A return goes to an address that a call has saved. -/
theorem Sound.returned (sound : registers.Sound) (some : 0 < registers.stack.items.length) :
    ({ registers with
      pc := registers.stack.newest.toNat, stack := registers.stack.popped } : Registers).Sound := by
  have items := Stack.items_popped sound.stack some
  have newest : registers.stack.newest ∈ registers.stack.items := by
    rw [items]
    exact List.mem_append_right _ List.mem_cons_self
  have low := sound.returns _ newest
  refine ⟨Int.natCast_nonneg _, by simp only; omega, sound.stack.popped some, sound.size_stack,
    fun address active => sound.returns address ?_⟩
  rw [items]
  exact List.mem_append_left _ active

/-- A call saves an address where the program counter is one. -/
theorem Sound.called (sound : registers.Sound) (advanced : registers.pc ≤ 0xFFF)
    (room : (registers.stack.items.length : Int) < registers.stack.size) {target : Int}
    (nonneg : 0 ≤ target) (le : target ≤ 0x10FE) :
    ({ registers with pc := target, stack := registers.stack.pushed registers.pc } :
      Registers).Sound := by
  refine ⟨nonneg, le, sound.stack.pushed room, sound.size_stack, fun address active => ?_⟩
  rw [Stack.items_pushed sound.stack room, List.mem_append, List.mem_singleton] at active
  rcases active with older | rfl
  · exact sound.returns address older
  · -- the address saved is the program counter, of which a slot loses nothing
    have saved := toNat_ofInt_address sound.pc_nonneg advanced
    omega

end Registers

namespace Machine

variable {width height : Nat} {machine : Machine Framebuffer} {i : Instruction}

/-! ## Instructions -/

theorem Sound.skipped (sound : machine.Sound width height) (condition : Bool) :
    (machine.skipped condition).Sound := by
  cases condition
  · exact sound.registers
  · exact sound.registers.advance

theorem Sound.loaded (sound : machine.Sound width height) (count : Nat) :
    (machine.loaded count).Sound := by
  rw [Machine.loaded, Registers.fill_eq]
  exact sound.registers.of_eq rfl rfl

/-- The registers stay sound where the program counter has moved on to an
address. -/
theorem Sound.registersAfter (sound : machine.Sound width height)
    (advanced : machine.registers.pc ≤ 0xFFF) (granted : machine.refusal i = none) :
    (machine.registersAfter i).Sound := by
  cases i with
  | ret => exact sound.registers.returned (depth_pos_of_granted granted)
  | call nnn =>
    exact sound.registers.called advanced (sound.room_of_granted granted) (by omega) (by omega)
  | jp nnn => exact sound.registers.jump (by omega) (by omega)
  | jpV0 nnn =>
    -- the one jump that can leave memory: an address and an offset below 256
    have := (machine.registers.get 0).toNat_lt
    exact sound.registers.jump (by omega) (by omega)
  | seByte | sneByte | seReg | sneReg | skp | sknp => exact sound.skipped _
  | ldVxMem x => exact sound.loaded (x + 1)
  | _ => exact sound.registers.of_eq rfl rfl

theorem Sound.memoryAfter (sound : machine.Sound width height) (i : Instruction) :
    (machine.memoryAfter i).HasCells Memory.size := by
  cases i with
  | ldB | ldMemVx => exact sound.memory.written _ _
  | _ => exact sound.memory

theorem Sound.latchAfter (sound : machine.Sound width height) (i : Instruction) (number : Int)
    (awaited : (machine.keypadAfter i).latch = some number) : 0 ≤ number ∧ number < 16 := by
  cases i with
  | ldVxK x =>
    injection awaited with named
    omega
  | _ => exact sound.latch number awaited

theorem Sound.displayAfter (sound : machine.Sound width height) (i : Instruction) :
    (machine.displayAfter i).Sound width height := by
  cases i with
  | cls => exact sound.display.cleared
  | drw x y n => exact (sound.display.invert _).render
  | _ => exact sound.display

/-- A granted instruction keeps a machine sound. -/
theorem Sound.executed (sound : machine.Sound width height)
    (advanced : machine.registers.pc ≤ 0xFFF) (granted : machine.refusal i = none) :
    (machine.executed i).Sound width height :=
  ⟨sound.memoryAfter i, sound.registersAfter advanced granted, sound.latchAfter i,
    sound.displayAfter i⟩

/-- So does one that is refused. -/
theorem Sound.interrupted (sound : machine.Sound width height) (i : Instruction) :
    (machine.interrupted i).Sound width height := by
  refine ⟨sound.memory, ?_, sound.latch, ?_⟩
  · cases i with
    | ldVxMem x => exact sound.loaded _
    | _ => exact sound.registers
  · cases i with
    | drw x y n => exact sound.display.invert _
    | _ => exact sound.display

/-! ## Requests -/

/-- **A step keeps a machine sound**, whether or not it halts. -/
theorem Sound.afterStep (sound : machine.Sound width height) :
    (machine.after .step).Sound width height := by
  have course := sound.course
  cases run : step machine with
  | ok ran left =>
    rw [run] at course
    rw [after_step_of_ok run]
    cases course with
    | awaited awaiting => exact sound
    | granted ready fits granted outbox =>
      exact (sound.poised.executed sound.pc_poised.2 granted).withOutbox outbox
  | error crash left =>
    rw [run] at course
    rw [after_step_of_error run]
    cases course with
    | unfetched ready top out => exact sound.marked
    | refused ready fits refused outbox leaves =>
      rw [leaves]
      exact (sound.poised.interrupted machine.upcoming).withOutbox outbox

theorem Sound.of_step {ran : Bool} {left : Machine Framebuffer}
    (sound : machine.Sound width height) (run : step machine = .ok ran left) :
    left.Sound width height := by
  rw [← after_step_of_ok run]
  exact sound.afterStep

theorem Sound.pressed (sound : machine.Sound width height) (key : Fin 16) :
    (machine.pressed key).Sound width height := by
  rw [Machine.pressed]
  cases latch : machine.keypad.latch with
  | none =>
    exact ⟨sound.memory, sound.registers,
      fun number awaited => sound.latch number awaited, sound.display⟩
  | some number =>
    exact ⟨sound.memory, sound.registers.of_eq rfl rfl,
      fun number awaited => absurd awaited (Option.some_ne_none number).symm, sound.display⟩

/-- **Every request keeps a machine sound.** -/
theorem Sound.answered (sound : machine.Sound width height) (request : Request) :
    (machine.answered request).Sound width height := by
  cases request with
  | step => exact sound.afterStep
  | tick => exact ⟨sound.memory, sound.registers, sound.latch, sound.display⟩
  | keyDown code =>
    rw [Machine.answered]
    cases machine.keypad.logical? code with
    | none => exact sound
    | some key => exact sound.pressed key
  | keyUp code =>
    rw [Machine.answered]
    cases machine.keypad.logical? code with
    | none => exact sound
    | some key => exact ⟨sound.memory, sound.registers, sound.latch, sound.display⟩
  | reset => exact sound.restarted
  | load rom => exact sound.loadedWith rom
  | refresh =>
    have display := sound.display
    exact ⟨sound.memory, sound.registers, sound.latch, ⟨display.width_eq, display.height_eq,
      display.width_pos, display.height_pos, display.pixels, display.twoValued⟩⟩

theorem Sound.after (sound : machine.Sound width height) (request : Request) :
    (machine.after request).Sound width height := by
  obtain ⟨outbox, left⟩ := after_eq sound request
  rw [left]
  exact (sound.answered request).withOutbox outbox

theorem Sound.afterAll (sound : machine.Sound width height) (requests : List Request) :
    (machine.afterAll requests).Sound width height := by
  induction requests generalizing machine with
  | nil => exact sound
  | cons request requests ih => exact ih (sound.after request)

/-- **Every machine in use is sound.** -/
theorem Reachable.sound (reachable : Reachable width height machine) :
    machine.Sound width height := by
  induction reachable with
  | start width_pos height_pos on =>
    rename_i keymap traced noise machine
    obtain ⟨outbox, switched⟩ := switchOn_eq width_pos height_pos keymap traced noise
    rw [switched] at on
    injection on with same
    rw [← same]
    exact (sound_parts width_pos height_pos keymap traced noise).restarted.withOutbox outbox
  | served reachable request ih => exact ih.after request

/-! ## What can be relied on -/

/-- **The values that the parts of a machine take**, as they can be seen from
outside. -/
structure InRange (width height : Nat) (machine : Machine Framebuffer) : Prop where
  memory : machine.memory.size = 4096 ∧ machine.memory.cells.size = 4096
  registers : ∀ x, (machine.registers.get x).toNat ≤ 255
  index : machine.registers.i.toNat ≤ 0xFFFF
  pc : 0 ≤ machine.registers.pc ∧ machine.registers.pc ≤ 0x10FE
  pointer : -1 ≤ machine.registers.stack.pointer ∧ machine.registers.stack.pointer ≤ 15
  active : ∀ address ∈ machine.registers.stack.items, address.toNat ≤ 0xFFF
  timers : machine.timers.delay.toNat ≤ 255 ∧ machine.timers.sound.toNat ≤ 255
  keys : ∀ number, machine.keypad.isPressed number = true → 0 ≤ number ∧ number ≤ 15
  latch : ∀ number, machine.keypad.latch = some number → 0 ≤ number ∧ number ≤ 15
  screen : machine.display.pixels.cells.size = width * height
  pixels : ∀ byte ∈ machine.display.pixels.cells, byte = 0 ∨ byte = 0xFF

theorem Sound.inRange (sound : machine.Sound width height) : machine.InRange width height where
  memory := ⟨sound.memory.size_eq, sound.memory.size_cells⟩
  registers x := Nat.le_of_lt_succ (machine.registers.get x).toNat_lt
  index := Nat.le_of_lt_succ machine.registers.i.toNat_lt
  pc := ⟨sound.registers.pc_nonneg, sound.registers.pc_le⟩
  pointer := by
    have := sound.registers.stack.pointer_lt
    rw [sound.registers.size_stack] at this
    exact ⟨sound.registers.stack.pointer_ge, Int.le_of_lt_add_one this⟩
  active := sound.registers.returns
  timers := ⟨Nat.le_of_lt_succ machine.timers.delay.toNat_lt,
    Nat.le_of_lt_succ machine.timers.sound.toNat_lt⟩
  keys number held := by
    obtain ⟨key, named, -⟩ := Keypad.isPressed_iff.1 held
    omega
  latch number awaited := by
    obtain ⟨low, high⟩ := sound.latch number awaited
    exact ⟨low, Int.le_of_lt_add_one high⟩
  screen := sound.display.pixels.size_cells
  pixels byte lit := by
    obtain ⟨k, inside, rfl⟩ := Array.mem_iff_getElem.1 lit
    have := sound.display.twoValued k
    rwa [Bank.byteAt_eq_getD, Array.getElem?_eq_getElem inside, Option.getD_some] at this

/-- The faults that halt are those of the memory and of the call stack. -/
theorem isHalting_iff {fault : Fault} :
    fault.isHalting = true ↔
      (∃ location, fault = .outOfRange location) ∨ fault = .stackOverflow ∨
        fault = .stackUnderflow := by
  cases fault <;> simp [Fault.isHalting]

/-- A step of a sound machine comes to an end, or halts. -/
theorem Sound.step_contained (sound : machine.Sound width height) :
    (∃ ran left, step machine = .ok ran left) ∨
      ∃ cause report left, step machine = .error (.halted cause report) left ∧
        ((∃ location, cause = .outOfRange location) ∨ cause = .stackOverflow ∨
          cause = .stackUnderflow) := by
  have course := sound.course
  cases run : step machine with
  | ok ran left => exact Or.inl ⟨ran, left, rfl⟩
  | error crash left =>
    rw [run] at course
    right
    cases course with
    | unfetched ready top out => exact ⟨_, _, _, rfl, Or.inl ⟨_, out⟩⟩
    | refused ready fits refused outbox leaves =>
      exact ⟨_, _, _, rfl, isHalting_iff.1 (isHalting_of_refusal refused)⟩

/-- **Whatever is asked of a machine, every part keeps to its range**, and the
next step comes to an end or halts on a fault of the memory or of the call
stack. No other fault comes out of it. -/
theorem run_contained (width_pos : 0 < width) (height_pos : 0 < height) (keymap : Keymap)
    (traced : Bool) (noise : Nat → UInt8) (requests : List Request) :
    ∃ start, switchOn keymap (Framebuffer.blank width height) traced noise = .ok start ∧
      let machine := start.afterAll requests
      machine.InRange width height ∧
      ((∃ ran left, step machine = .ok ran left) ∨
        ∃ cause report left, step machine = .error (.halted cause report) left ∧
          ((∃ location, cause = .outOfRange location) ∨ cause = .stackOverflow ∨
            cause = .stackUnderflow)) := by
  obtain ⟨outbox, on⟩ := switchOn_eq width_pos height_pos keymap traced noise
  refine ⟨_, on, ?_⟩
  have sound := ((Reachable.start width_pos height_pos on).afterAll requests).sound
  exact ⟨sound.inRange, sound.step_contained⟩

/-- So it is after a return without a call has halted the machine. -/
theorem run_contained_after_return :
    0 < 64 ∧ 0 < 32 ∧
      ∃ start, switchOn usualKeys (Framebuffer.blank (64 : Nat) (32 : Nat)) false (fun _ => 0) =
          .ok start ∧
        (start.afterAll [.load [0x00, 0xEE], .step, .tick]).InRange 64 32 := by
  refine ⟨by decide, by decide, ?_⟩
  obtain ⟨start, on, inRange, -⟩ := run_contained (show 0 < 64 by decide) (show 0 < 32 by decide)
    usualKeys false (fun _ => 0) [.load [0x00, 0xEE], .step, .tick]
  exact ⟨start, on, inRange⟩

end Machine
end Chip8
