import Chip8.Framebuffer
import Chip8.Instruction
import Chip8.Keypad
import Chip8.Registers
import Chip8.Signal
/-!
# The machine

The parts of the machine put together: memory, registers, timers, keypad and
a display of any kind, with the opcode being executed and the address that
it was fetched from. Random bytes come from a fixed stream, of which the
machine counts how many it has drawn. Signals collect in the outbox until
someone takes them; nothing that the machine does looks at it.

An operation on a part becomes an operation on the machine that leaves the
other parts alone.
-/

namespace Chip8

/-- A machine with a display of type `δ`. -/
structure Machine (δ : Type) where
  memory : Bank
  registers : Registers
  timers : Timers
  keypad : Keypad
  display : δ
  /-- The opcode fetched last. -/
  opcode : Int
  /-- The address of the last fetch. -/
  fetchedFrom : Int
  /-- Every instruction is noted before it is executed. -/
  traced : Bool
  /-- The stream of random bytes. -/
  noise : Nat → UInt8
  /-- How many random bytes have been drawn. -/
  drawn : Nat
  /-- The signals sent and not yet taken, oldest first. -/
  outbox : Array Signal

namespace Machine

variable {δ α : Type}

/-! ## Operations on the parts -/

/-- An operation on the memory. -/
def onMemory (operation : Operation Bank α) : Operation (Machine δ) α :=
  fun ⟨memory, registers, timers, keypad, display, opcode, fetchedFrom, traced, noise, drawn,
      outbox⟩ =>
    match operation memory with
    | .ok result memory => .ok result
        ⟨memory, registers, timers, keypad, display, opcode, fetchedFrom, traced, noise, drawn,
          outbox⟩
    | .error fault memory => .error fault
        ⟨memory, registers, timers, keypad, display, opcode, fetchedFrom, traced, noise, drawn,
          outbox⟩

/-- An operation on the registers. -/
def onRegisters (operation : Operation Registers α) : Operation (Machine δ) α :=
  fun ⟨memory, registers, timers, keypad, display, opcode, fetchedFrom, traced, noise, drawn,
      outbox⟩ =>
    match operation registers with
    | .ok result registers => .ok result
        ⟨memory, registers, timers, keypad, display, opcode, fetchedFrom, traced, noise, drawn,
          outbox⟩
    | .error fault registers => .error fault
        ⟨memory, registers, timers, keypad, display, opcode, fetchedFrom, traced, noise, drawn,
          outbox⟩

/-- An operation on the display. -/
def onDisplay (operation : Operation δ α) : Operation (Machine δ) α :=
  fun ⟨memory, registers, timers, keypad, display, opcode, fetchedFrom, traced, noise, drawn,
      outbox⟩ =>
    match operation display with
    | .ok result display => .ok result
        ⟨memory, registers, timers, keypad, display, opcode, fetchedFrom, traced, noise, drawn,
          outbox⟩
    | .error fault display => .error fault
        ⟨memory, registers, timers, keypad, display, opcode, fetchedFrom, traced, noise, drawn,
          outbox⟩

/-- A change of the registers that cannot fail. -/
def updateRegisters (change : Registers → Registers) : Operation (Machine δ) Unit :=
  modify fun machine => { machine with registers := change machine.registers }

/-- A change of the keypad. -/
def updateKeypad (change : Keypad → Keypad) : Operation (Machine δ) Unit :=
  modify fun machine => { machine with keypad := change machine.keypad }

/-! ## Signals -/

/-- Sends a signal. -/
def emit (signal : Signal) : Operation (Machine δ) Unit :=
  modify fun machine => { machine with outbox := machine.outbox.push signal }

/-- Notes an entry in the journal. -/
def note (level : Level) (text : String) : Operation (Machine δ) Unit :=
  emit (.noted ⟨level, text⟩)

/-- Makes calls to the renderer. -/
def paint (calls : List RendererCall) : Operation (Machine δ) Unit :=
  calls.forM fun call => emit (.paint call)

/-- A change of the timers, with the requests that it makes of the sound
output. -/
def updateTimers (change : Timers → Timers × List ToneRequest) : Operation (Machine δ) Unit := do
  let (timers, requests) := change (← get).timers
  modify fun machine => { machine with timers := timers }
  requests.forM fun request => emit (.tone request)

/-- Takes the signals out of the outbox. -/
def takeSignals (machine : Machine δ) : Array Signal × Machine δ :=
  (machine.outbox, { machine with outbox := #[] })

/-! ## Registers, randomness and the display -/

/-- The contents of a register. -/
def reg (x : Fin 16) : Operation (Machine δ) UInt8 :=
  return (← get).registers.get x

/-- Replaces the contents of a register. -/
def setReg (x : Fin 16) (value : UInt8) : Operation (Machine δ) Unit :=
  updateRegisters (·.set x value)

/-- Sets the flag register to one or zero. -/
def setFlag (value : Bool) : Operation (Machine δ) Unit :=
  setReg Registers.flag (if value then 1 else 0)

/-- Skips the next instruction, if told so. -/
def skipIf (condition : Bool) : Operation (Machine δ) Unit :=
  if condition then updateRegisters Registers.advance else pure ()

/-- Draws a random byte. -/
def draw : Operation (Machine δ) UInt8 := do
  let machine ← get
  modify fun machine => { machine with drawn := machine.drawn + 1 }
  return machine.noise machine.drawn

variable [Display δ]

/-- Clears the display. -/
def clearDisplay : Operation (Machine δ) Unit := do
  paint (← onDisplay Display.clear)

/-- Wants a repaint. -/
def renderDisplay : Operation (Machine δ) Unit :=
  onDisplay (modify Display.render)

/-- Inverts a pixel and tells whether it was lit. -/
def togglePixel (x y : Int) : Operation (Machine δ) Bool := do
  let (lit, calls) ← onDisplay (Display.toggle x y)
  paint calls
  return lit

/-- Hands the display to its renderer. -/
def refreshDisplay : Operation (Machine δ) Unit := do
  paint (← onDisplay Display.refresh)

/-- Reports frames and instructions per second. -/
def reportPerformance (fps ops : Int) : Operation (Machine δ) Unit := do
  paint (← onDisplay (Display.report fps ops))

/-! ## Reset and loading -/

/-- Puts every part back to its start, with the display cleared. -/
def reset : Operation (Machine δ) Unit := do
  onMemory Memory.reset
  updateRegisters Registers.reset
  updateTimers Timers.reset
  updateKeypad Keypad.reset
  clearDisplay
  renderDisplay
  modify fun machine => { machine with opcode := 0, fetchedFrom := 0 }

/-- Resets the machine and loads a program. The result is how many of its
bytes fit. -/
def loadRom (rom : List UInt8) : Operation (Machine δ) Nat := do
  reset
  (Memory.loadingNotes rom).forM fun entry => emit (.noted entry)
  let loaded ← onMemory (Memory.load rom)
  note .info ("Loaded " ++ toString loaded ++ " byte ROM (" ++ toString rom.length
    ++ " bytes supplied)")
  return loaded

/-! ## Keys -/

/-- A key goes down. If it is one of the keymap it counts as held, and it
fills the register that a program waits to have filled. -/
def keyDown (code : Option KeyCode) : Operation (Machine δ) (Option (Fin 16)) := do
  match (← get).keypad.logical? code with
  | none => return none
  | some key =>
    updateKeypad (Keypad.press key)
    match (← get).keypad.latch with
    | none => return some key
    | some register =>
      onRegisters (Registers.write register key.val)
      note .debug ("Key 0x" ++ Hex.padded 1 key.val ++ " released wait on V"
        ++ Hex.padded 1 register)
      updateKeypad Keypad.unlatch
      return some key

/-- A key goes up. -/
def keyUp (code : Option KeyCode) : Operation (Machine δ) (Option (Fin 16)) := do
  match (← get).keypad.logical? code with
  | none => return none
  | some key =>
    updateKeypad (Keypad.release key)
    return some key

/-- One tick of the timers. -/
def tick : Operation (Machine δ) Unit := updateTimers Timers.tick

end Machine
end Chip8
