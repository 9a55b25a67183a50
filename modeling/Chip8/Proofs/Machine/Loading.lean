import Chip8.Proofs.Machine.Likeness
/-!
# Loading forgets

Loading a program into a machine in use never fails, and leaves it `Fresh`: memory
holds the font, the program and zeros, and every other part is as it was switched
on (`loadedWith_eq`). Nothing of what went before is left, so that two machines
with the same keymap and the same display go on alike after the same program has
been loaded into them (`alike_of_loaded`).
-/

namespace Chip8

namespace Memory

/-- The memory that a program is loaded into holds the font and zeros. -/
theorem byteAt_initial (address : Nat) :
    initial.byteAt address = if address < font.length then font.getD address 0 else 0 := by
  have room : font.length ≤ (Bank.blank size).cells.size := by
    rw [(Bank.hasCells_blank size).size_cells]
    decide
  rw [initial_eq, Bank.byteAt_written, Bank.byteAt_blank]
  by_cases inside : address < font.length
  · rw [if_pos inside, if_pos ⟨Nat.zero_le _, by rw [fontStart]; omega, by omega⟩]
    rfl
  · rw [if_neg inside, if_neg (by rw [fontStart]; omega)]

end Memory

namespace Machine

variable {width height : Nat} {machine first second : Machine Framebuffer} {rom : List UInt8}

/-- **A machine that a program has just been loaded into.** -/
structure Fresh (width height : Nat) (rom : List UInt8) (machine : Machine Framebuffer) : Prop where
  size : machine.memory.size = 4096 ∧ machine.memory.cells.size = 4096
  /-- The font lies at the bottom, the program in its area, and zeros elsewhere. -/
  memory : ∀ address < 4096, machine.memory.byteAt address =
    if address < 80 then Memory.font.getD address 0
    else if 0x200 ≤ address ∧ address < 0x200 + min rom.length 3232 then
      rom.getD (address - 0x200) 0
    else 0
  registers : ∀ x, machine.registers.get x = 0
  index : machine.registers.i = 0
  pc : machine.registers.pc = 0x200
  slots : machine.registers.stack.slots = Array.replicate 16 0
  calls : machine.registers.stack.pointer = 15 ∧ machine.registers.stack.items = []
  timers : machine.timers.delay = 0 ∧ machine.timers.sound = 0 ∧ machine.timers.tone = false
  keys : ∀ number, machine.keypad.isPressed number = false
  latch : machine.keypad.latch = none
  sides : machine.display.width = width ∧ machine.display.height = height
  pixels : machine.display.pixels.cells = Array.replicate (width * height) 0
  dirty : machine.display.dirty = true
  opcode : machine.opcode = 0
  fetchedFrom : machine.fetchedFrom = 0

/-! ## What a load leaves -/

theorem reset_timers (timers : Timers) : timers.reset.1 = .initial := by
  obtain ⟨delay, sound, tone⟩ := timers
  cases tone <;> rfl

/-- **A load puts every part back to its start.** Of the machine before it keeps
the keymap and the sides of the display. -/
theorem loadedWith_eq (sound : machine.Sound width height) (rom : List UInt8) :
    machine.loadedWith rom = { machine with
      memory := Memory.initial.written Memory.programStart (rom.take Memory.programCapacity)
      registers := .initial (.empty Registers.stackSize)
      timers := .initial
      keypad := .initial machine.keypad.keymap
      display := Framebuffer.blank width height
      opcode := 0
      fetchedFrom := 0 } := by
  have registers : machine.registers.reset = .initial (.empty Registers.stackSize) := by
    rw [Registers.reset, Stack.clear, sound.registers.size_stack]
  have display : machine.display.cleared = Framebuffer.blank width height := by
    rw [Framebuffer.cleared, sound.display.width_eq, sound.display.height_eq]
    rfl
  rw [loadedWith, restarted, registers, reset_timers, display]
  rfl

theorem byteAt_loadedWith (rom : List UInt8) {address : Nat} (inside : address < 4096) :
    (machine.loadedWith rom).memory.byteAt address =
      if address < 80 then Memory.font.getD address 0
      else if 0x200 ≤ address ∧ address < 0x200 + min rom.length 3232 then
        rom.getD (address - 0x200) 0
      else 0 := by
  have cells : Memory.initial.cells.size = 4096 := Memory.hasCells_initial.size_cells
  have length : (rom.take Memory.programCapacity).length = min rom.length 3232 := by
    rw [List.length_take, Nat.min_comm]
    rfl
  have font : Memory.font.length = 80 := rfl
  change (Memory.initial.written 0x200 (rom.take Memory.programCapacity)).byteAt address = _
  rw [Bank.byteAt_written, length, cells, Memory.byteAt_initial, font]
  by_cases program : 0x200 ≤ address ∧ address < 0x200 + min rom.length 3232
  · -- the byte of what was cut down is the byte of the program
    have under : address - 0x200 < Memory.programCapacity := by
      rw [Memory.programCapacity]
      omega
    rw [if_pos ⟨program.1, program.2, inside⟩, if_neg (by omega), if_pos program,
      List.getD_eq_getElem?_getD, List.getD_eq_getElem?_getD, List.getElem?_take_of_lt under]
  · rw [if_neg fun h => program ⟨h.1, h.2.1⟩, if_neg program]

theorem Sound.fresh (sound : machine.Sound width height) (rom : List UInt8)
    (outbox : Array Signal) :
    ({ machine.loadedWith rom with outbox := outbox } : Machine Framebuffer).Fresh
      width height rom := by
  have memory := (sound.loadedWith rom).memory
  have contents := @byteAt_loadedWith machine rom
  rw [loadedWith_eq sound] at memory contents ⊢
  have keys : ∀ number, (Keypad.initial machine.keypad.keymap).isPressed number = false := by
    intro number
    simp [Keypad.isPressed, Keypad.initial, Vector.get]
  refine ⟨⟨memory.size_eq, memory.size_cells⟩, fun _ => contents, ?_, rfl, rfl, rfl,
    ⟨rfl, Stack.items_empty _⟩, ⟨rfl, rfl, rfl⟩, keys, rfl, ⟨rfl, rfl⟩, ?_, rfl, rfl, rfl⟩
  · intro x
    simp [Registers.get, Registers.initial]
  · change Array.replicate ((width : Int) * height).toNat 0 = _
    rw [← Int.natCast_mul, Int.toNat_natCast]

/-- **Loading the same program leaves machines alike**, if they have the same
keymap, displays of the same size and the same random bytes to come. -/
theorem alike_of_loaded (sound : first.Sound width height) (sound' : second.Sound width height)
    (keymap : first.keypad.keymap = second.keypad.keymap)
    (noise : ∀ k, first.noise (first.drawn + k) = second.noise (second.drawn + k))
    (rom : List UInt8) : Alike (first.loadedWith rom) (second.loadedWith rom) := by
  rw [loadedWith_eq sound, loadedWith_eq sound', keymap]
  exact ⟨rfl, noise⟩

/-- **Loading a program forgets all history.** Into a machine in use a program can
be loaded, as much of it as fits, and that leaves it fresh. So two machines in use
with the same keymap and displays of the same size, to which the same random bytes
are to come, show the same from the load of a program on, whatever is asked of
them. -/
theorem load_forgets (width height : Nat) :
    (∀ machine rom, Reachable width height machine →
      ∃ left, loadRom rom machine = .ok (min rom.length 3232) left ∧ left.Fresh width height rom) ∧
    (∀ first second, Reachable width height first → Reachable width height second →
      first.keypad.keymap = second.keypad.keymap →
      (∀ k, first.noise (first.drawn + k) = second.noise (second.drawn + k)) →
      ∀ rom requests,
        first.transcript (.load rom :: requests) = second.transcript (.load rom :: requests)) := by
  constructor
  · intro machine rom reachable
    have sound := reachable.sound
    obtain ⟨outbox, loaded⟩ := loadRom_eq sound rom
    rw [List.length_take, Nat.min_comm] at loaded
    exact ⟨_, loaded, sound.fresh rom outbox⟩
  · intro first second reachable reachable' keymap noise rom requests
    have sound := reachable.sound
    have sound' := reachable'.sound
    have other : Request.load rom ≠ .step := nofun
    obtain ⟨sent, left⟩ := after_eq sound (.load rom)
    obtain ⟨sent', left'⟩ := after_eq sound' (.load rom)
    have alike : Alike (first.after (.load rom)) (second.after (.load rom)) := by
      rw [left, left']
      exact (alike_of_loaded sound sound' keymap noise rom).withOutbox sent sent'
    rw [transcript, transcript, response_of_ne_step sound other,
      response_of_ne_step sound' other, alike.contents,
      alike.transcript_eq (sound.after (.load rom))]
    rfl

/-- So it is of a machine that waits for a key and of one that has just halted on
a return, whatever is asked of them after the same load. -/
theorem load_forgets_of_wait :
    ∃ waiting before halted, Reachable 64 32 waiting ∧ Reachable 64 32 halted ∧
      waiting.keypad.latch = some 3 ∧
      (∃ report, step before = .error (.halted .stackUnderflow report) halted) ∧
      (∃ left, loadRom [0x12, 0x00] waiting = .ok 2 left ∧ left.Fresh 64 32 [0x12, 0x00]) ∧
      ∀ requests, waiting.transcript (.load [0x12, 0x00] :: requests) =
        halted.transcript (.load [0x12, 0x00] :: requests) := by
  obtain ⟨first, asking, asks⟩ :=
    reachable_first [0xF3, 0x0A] (.ldVxK 3) (by decide) (by decide) rfl
  obtain ⟨second, returning, returns⟩ :=
    reachable_first [0x00, 0xEE] .ret (by decide) (by decide) rfl
  have low : ¬ (0xFFF : Int) ≤ 0x200 := by decide
  obtain ⟨third, -, waits⟩ := asking.granted rfl low (by rw [asks]; rfl)
  obtain ⟨fourth, halts, halted⟩ := returning.refused rfl low (by rw [returns]; rfl)
  rw [asks] at waits
  rw [returns] at halts halted
  refine ⟨_, _, _, waits, halted, rfl, ⟨_, halts⟩, ?_, ?_⟩
  · exact (load_forgets 64 32).1 _ [0x12, 0x00] waits
  · exact (load_forgets 64 32).2 _ _ waits halted rfl (fun _ => rfl) [0x12, 0x00]

end Machine
end Chip8
