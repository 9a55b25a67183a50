import Chip8.Machine.Basic
/-!
# What each instruction does

`execute` gives the effect of every instruction on a machine whose program
counter has already moved on. An instruction with a flag sets the flag last,
so that the flag wins where the result goes to the flag register too.

Storing registers, and storing decimal digits, checks the whole range first
and then writes; loading registers and drawing a sprite go byte by byte, and
what they did before a fault stays done. Sprites wrap at the edges of the
display that programs are written for.

The operands are read off the opcode once more, by masks and shifts, and not
taken from the decoder.
-/

namespace Chip8
namespace Machine

variable {δ : Type}

/-- The operand fields of the opcode, as the processor reads them. -/
def operands (machine : Machine δ) : Operands :=
  let word := Opcode.word machine.opcode
  { x := Fin.ofNat 16 ((word &&& 0xF00) >>> 8)
    y := Fin.ofNat 16 ((word &&& 0xF0) >>> 4)
    n := Fin.ofNat 16 (word &&& 0xF)
    kk := UInt8.ofNat (word &&& 0xFF)
    nnn := Fin.ofNat 4096 (word &&& 0xFFF) }

variable [Display δ]

/-- The registers from the first to `x`. -/
def upTo (x : Fin 16) : List (Fin 16) :=
  (List.finRange 16).take (x.val + 1)

/-- Draws one row of a sprite, the highest bit leftmost, and tells whether a
pixel was put out. -/
def drawRow (left top : Nat) (bits : UInt8) : Operation (Machine δ) Bool :=
  (List.range 8).foldlM (fun hit column => do
    if bits.toNat.testBit (7 - column) then
      let lit ← togglePixel (((left + column) % Framebuffer.usualWidth : Nat) : Int) (top : Int)
      return lit || hit
    else return hit) false

/-- Draws the rows of a sprite held from an address on, and tells whether a
pixel was put out. -/
def drawRows (left top address height : Nat) : Operation (Machine δ) Bool :=
  (List.range height).foldlM (fun hit row => do
    let bits ← onMemory (Bank.read ((address + row : Nat) : Int))
    let rowHit ← drawRow left ((top + row) % Framebuffer.usualHeight) bits
    return rowHit || hit) false

/-- Draws the sprite that the index register points at, at the position that
two registers give. -/
def drawSprite (x y n : Fin 16) : Operation (Machine δ) Unit := do
  let left := (← reg x).toNat % Framebuffer.usualWidth
  let top := (← reg y).toNat % Framebuffer.usualHeight
  let collided ← drawRows left top (← get).registers.i.toNat n.val
  setFlag collided
  renderDisplay

/-- Stores the three decimal digits of a register. -/
def storeDecimal (x : Fin 16) : Operation (Machine δ) Unit := do
  let value := (← reg x).toNat
  let address := (← get).registers.i.toNat
  onMemory (Bank.check (address + 2))
  onMemory (Bank.write address (value / 100))
  onMemory (Bank.write (address + 1) (value / 10 % 10))
  onMemory (Bank.write (address + 2) (value % 10))

/-- Stores the registers up to `x`. -/
def storeRegisters (x : Fin 16) : Operation (Machine δ) Unit := do
  let address := (← get).registers.i.toNat
  onMemory (Bank.check (address + x.val))
  (upTo x).forM fun r => do
    onMemory (Bank.write (address + r.val) (← reg r).toNat)

/-- Loads the registers up to `x`. -/
def loadRegisters (x : Fin 16) : Operation (Machine δ) Unit := do
  let address := (← get).registers.i.toNat
  (upTo x).forM fun r => do
    setReg r (← onMemory (Bank.read (address + r.val)))

/-- The effect of an instruction. -/
def execute : Instruction → Operation (Machine δ) Unit
  | .cls => do
    clearDisplay
    renderDisplay
  | .ret => onRegisters Registers.ret
  | .jp nnn => updateRegisters (Registers.jump nnn.val)
  | .call nnn => onRegisters (Registers.call nnn.val)
  | .seByte x kk => do skipIf ((← reg x) == kk)
  | .sneByte x kk => do skipIf ((← reg x) != kk)
  | .seReg x y => do skipIf ((← reg x) == (← reg y))
  | .ldByte x kk => setReg x kk
  | .addByte x kk => do setReg x ((← reg x) + kk)
  | .ldReg x y => do setReg x (← reg y)
  | .orReg x y => do setReg x ((← reg x) ||| (← reg y))
  | .andReg x y => do setReg x ((← reg x) &&& (← reg y))
  | .xorReg x y => do setReg x ((← reg x) ^^^ (← reg y))
  | .addReg x y => do
    let a ← reg x
    let b ← reg y
    setReg x (a + b)
    setFlag (a.toNat + b.toNat > 255)
  | .sub x y => do
    let a ← reg x
    let b ← reg y
    setReg x (a - b)
    setFlag (a ≥ b)
  | .shr x => do
    let a ← reg x
    setReg x (a >>> 1)
    setFlag (a.toNat % 2 == 1)
  | .subn x y => do
    let a ← reg x
    let b ← reg y
    setReg x (b - a)
    setFlag (b ≥ a)
  | .shl x => do
    let a ← reg x
    setReg x (a <<< 1)
    setFlag (a ≥ 128)
  | .sneReg x y => do skipIf ((← reg x) != (← reg y))
  | .ldI nnn => updateRegisters (Registers.setIndex nnn.val)
  | .jpV0 nnn => do
    let offset := (← reg 0).toNat
    updateRegisters (Registers.jump (offset + nnn.val))
  | .rnd x kk => do setReg x ((← draw) &&& kk)
  | .drw x y n => drawSprite x y n
  | .skp x => do skipIf ((← get).keypad.isPressed (← reg x).toNat)
  | .sknp x => do skipIf (!(← get).keypad.isPressed (← reg x).toNat)
  | .ldVxDt x => do setReg x (← get).timers.delay
  | .ldVxK x => updateKeypad (Keypad.await x.val)
  | .ldDtVx x => do
    let value := (← reg x).toNat
    updateTimers fun timers => (timers.setDelay value, [])
  | .ldStVx x => do
    let value := (← reg x).toNat
    updateTimers (Timers.setSound value)
  | .addI x => do
    let value := (← reg x).toNat
    updateRegisters fun registers => registers.setIndex (registers.i.toNat + value)
  | .ldF x => do
    let character := (← reg x).toNat
    updateRegisters (Registers.setIndex (Memory.fontStart + Memory.fontRows * character))
  | .ldB x => storeDecimal x
  | .ldMemVx x => storeRegisters x
  | .ldVxMem x => loadRegisters x
  | .unknown => do
    let machine ← get
    note .warning ("Ignoring unrecognised opcode 0x" ++ Hex.padded 4 machine.opcode
      ++ " at address 0x" ++ Hex.padded 3 machine.fetchedFrom)

end Machine
end Chip8
