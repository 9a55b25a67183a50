import Chip8.Machine.Assembly
import Chip8.Proofs.Machine.Effect
/-!
# Resetting and loading

Neither is ever refused on a sound machine. A reset leaves `restarted`, which
keeps of the machine the keymap and the sides of the display; loading a program
is a reset and a block of bytes laid over the fresh memory (`reset_eq`,
`loadRom_eq`). A machine that is switched on is one that has been reset, and
that never fails on a display with positive sides (`switchOn_eq`).
-/

namespace Chip8
namespace Memory

variable {memory : Bank}

/-! ## Main memory -/

theorem reset_eq_written (h : memory.HasCells size) :
    reset memory = .ok () ((Bank.blank size).written fontStart font) := by
  rw [reset, Operation.bind_of_ok (Bank.clear_of_hasCells h)]
  exact Bank.writeBlock_of_le (Bank.hasCells_blank size)
    (show fontStart + font.length ≤ size by decide)

theorem initial_eq : initial = (Bank.blank size).written fontStart font := by
  rw [initial, reset_eq_written (Bank.hasCells_blank size)]

theorem reset_of_hasCells (h : memory.HasCells size) : reset memory = .ok () initial := by
  rw [reset_eq_written h, initial_eq]

theorem hasCells_initial : initial.HasCells size := by
  rw [initial_eq]
  exact (Bank.hasCells_blank size).written fontStart font

/-- A program is cut down to what fits, and that is written. -/
theorem load_of_hasCells (h : memory.HasCells size) (rom : List UInt8) :
    load rom memory =
      .ok (rom.take programCapacity).length
        (memory.written programStart (rom.take programCapacity)) := by
  have fits : programStart + (rom.take programCapacity).length ≤ size := by
    have capacity : programStart + programCapacity ≤ size := by decide
    have := List.length_take_le programCapacity rom
    omega
  rw [load, Operation.bind_of_ok (Bank.writeBlock_of_le h fits)]
  rfl

/-- The bytes of a program that fits are found from the start of the program area on. -/
theorem byteAt_loaded {rom : List UInt8} (fits : rom.length ≤ programCapacity) {k : Nat}
    (inside : k < rom.length) :
    (initial.written programStart (rom.take programCapacity)).byteAt (programStart + k) =
      rom.getD k 0 := by
  have capacity : programStart + programCapacity ≤ size := by decide
  rw [List.take_of_length_le fits]
  exact Bank.byteAt_written_inside hasCells_initial (by omega) inside

end Memory

theorem Registers.sound_initial : (initial (.empty stackSize)).Sound := by
  have none : (Stack.empty stackSize).items = [] := Stack.items_empty _
  refine ⟨by decide, by decide, Stack.sound_empty _, rfl, fun address active => ?_⟩
  exact absurd (none ▸ active) List.not_mem_nil

namespace Machine

variable {width height : Nat} {machine : Machine Framebuffer}

/-! ## Resetting a machine -/

/-- The machine after a reset, with the outbox as it was. -/
def restarted (machine : Machine Framebuffer) : Machine Framebuffer :=
  { machine with
    memory := Memory.initial
    registers := machine.registers.reset
    timers := machine.timers.reset.1
    keypad := machine.keypad.reset
    display := machine.display.cleared
    opcode := 0
    fetchedFrom := 0 }

/-- A reset takes a memory and a display of the right size, and nothing else. -/
theorem reset_of_sizes (memory : machine.memory.HasCells Memory.size)
    (display : machine.display.Sound width height) :
    ∃ outbox, reset machine = .ok () { machine.restarted with outbox := outbox } := by
  have emptied := onMemory_of_ok (Memory.reset_of_hasCells memory)
  obtain ⟨before, timers⟩ := updateTimers_eq Timers.reset { machine with
    memory := Memory.initial, registers := machine.registers.reset }
  obtain ⟨after, cleared⟩ := @clearDisplay_of_sound width height { machine with
    memory := Memory.initial, registers := machine.registers.reset
    timers := machine.timers.reset.1, keypad := machine.keypad.reset, outbox := before } display
  refine ⟨after, ?_⟩
  rw [reset, Operation.bind_of_ok emptied]
  refine (Operation.bind_of_ok timers).trans ?_
  exact (Operation.bind_of_ok cleared).trans rfl

/-- **A sound machine can be reset.** -/
theorem reset_eq (sound : machine.Sound width height) :
    ∃ outbox, reset machine = .ok () { machine.restarted with outbox := outbox } :=
  reset_of_sizes sound.memory sound.display

theorem Sound.restarted (sound : machine.Sound width height) :
    machine.restarted.Sound width height := by
  have registers : machine.registers.reset.Sound := by
    rw [Registers.reset, Stack.clear, sound.registers.size_stack]
    exact Registers.sound_initial
  have latch : ∀ number, machine.keypad.reset.latch = some number → 0 ≤ number ∧ number < 16 :=
    fun number awaited => absurd awaited (Option.some_ne_none number).symm
  exact ⟨Memory.hasCells_initial, registers, latch, sound.display.cleared⟩

/-! ## Loading a program -/

/-- The machine after a program is loaded, with the outbox as it was. -/
def loadedWith (rom : List UInt8) (machine : Machine Framebuffer) : Machine Framebuffer :=
  { machine.restarted with
    memory := Memory.initial.written Memory.programStart (rom.take Memory.programCapacity) }

/-- **A sound machine can be loaded** with any program. -/
theorem loadRom_eq (sound : machine.Sound width height) (rom : List UInt8) :
    ∃ outbox, loadRom rom machine =
      .ok (rom.take Memory.programCapacity).length
        { machine.loadedWith rom with outbox := outbox } := by
  obtain ⟨first, emptied⟩ := reset_eq sound
  obtain ⟨second, noted⟩ := forM_emit .noted (Memory.loadingNotes rom)
    { machine.restarted with outbox := first }
  have loaded := @onMemory_of_ok Framebuffer Nat { machine.restarted with outbox := second } _ _ _
    (Memory.load_of_hasCells Memory.hasCells_initial rom)
  let count := (rom.take Memory.programCapacity).length
  let report : Signal := .noted ⟨.info, "Loaded " ++ toString count ++ " byte ROM ("
    ++ toString rom.length ++ " bytes supplied)"⟩
  refine ⟨second.push report, ?_⟩
  rw [loadRom, Operation.bind_of_ok emptied, Operation.bind_of_ok noted,
    Operation.bind_of_ok loaded]
  rfl

theorem Sound.loadedWith (sound : machine.Sound width height) (rom : List UInt8) :
    (machine.loadedWith rom).Sound width height :=
  ⟨Memory.hasCells_initial.written _ _, sound.restarted.registers, sound.restarted.latch,
    sound.restarted.display⟩

/-! ## Switching on -/

theorem sound_parts (width_pos : 0 < width) (height_pos : 0 < height) (keymap : Keymap)
    (traced : Bool) (noise : Nat → UInt8) :
    (parts keymap (Framebuffer.blank width height) traced noise).Sound width height :=
  ⟨Memory.hasCells_initial, Registers.sound_initial,
    fun number awaited => absurd awaited (Option.some_ne_none number).symm,
    Framebuffer.sound_blank width_pos height_pos⟩

/-- **A machine with a display can be switched on.** -/
theorem switchOn_eq (width_pos : 0 < width) (height_pos : 0 < height) (keymap : Keymap)
    (traced : Bool) (noise : Nat → UInt8) :
    ∃ outbox, switchOn keymap (Framebuffer.blank width height) traced noise =
      .ok { (parts keymap (Framebuffer.blank width height) traced noise).restarted with
        outbox := outbox } := by
  obtain ⟨outbox, emptied⟩ := reset_eq (sound_parts width_pos height_pos keymap traced noise)
  refine ⟨outbox, ?_⟩
  rw [switchOn, emptied]

/-- Over sockets that provide all their duties only the keymap can be refused. -/
theorem assemble_of_duties {δ : Type} [Display δ] (keymap : String) (display : δ) (traced : Bool)
    (noise : Nat → UInt8) :
    assemble (fun socket => some socket.duties) keymap display traced noise =
      ((Keymap.parse keymap).mapError .keymap >>= fun names =>
        (switchOn names display traced noise).mapError .fault) := by
  have display_ok : Socket.display.check (some Socket.display.duties) = .ok () := rfl
  have audio_ok : Socket.audio.check (some Socket.audio.duties) = .ok () := rfl
  rw [assemble, display_ok, audio_ok]
  rfl

end Machine
end Chip8
