import Chip8.Bank
import Chip8.Display
/-!
# The framebuffer

A rectangle of pixels, kept row by row in a memory bank with one byte a
pixel: zero when the pixel is out, all bits set when it is lit. Drawing is
exclusive-or, so a pixel is only ever toggled; coordinates wrap onto the
rectangle. The framebuffer remembers whether its contents have changed since
they were last handed to the renderer.

Sides may be of any integer length as long as the bank can have the size of
the rectangle. With a side of length zero there is no pixel to wrap onto and a
toggle is refused; with one negative side the bank is refused its size when it
is cleared.
-/

namespace Chip8

/-- The name under which the emulator presents itself. -/
def applicationName : String := "MonoChip Emulator"

/-- A rectangle of pixels, and whether a repaint is wanted. -/
structure Framebuffer where
  width : Int
  height : Int
  pixels : Bank
  dirty : Bool
  deriving DecidableEq, Repr

namespace Framebuffer

/-- The width of the display that programs are written for. -/
def usualWidth : Nat := 64

/-- The height of the display that programs are written for. -/
def usualHeight : Nat := 32

/-- The framebuffer of the given size, all pixels out and a repaint wanted. -/
def blank (width height : Int) : Framebuffer :=
  ⟨width, height, Bank.blank (width * height), true⟩

/-- The title that reports frames and instructions per second. -/
def title (fps ops : Int) : String :=
  applicationName ++ " - " ++ toString fps ++ " FPS, " ++ toString ops ++ " OPS"

/-- Reports frames and instructions per second. -/
def report (fps ops : Int) : List RendererCall :=
  [.setTitle (title fps ops)]

/-- What a new framebuffer of a given size tells its renderer. -/
def opening (width height : Int) : List RendererCall :=
  report 0 0 ++ [.setResolution width height]

/-- A new framebuffer, and what it tells its renderer. There is none of a size
that its bank cannot have. -/
def create [HostMemory] (width height : Int) : Except Fault (Framebuffer × List RendererCall) := do
  Extent.check Extent.room (width * height)
  return (blank width height, opening width height)

/-- A new framebuffer of the usual size, and what it tells its renderer. -/
def usual : Framebuffer × List RendererCall :=
  (blank usualWidth usualHeight, opening usualWidth usualHeight)

/-- A framebuffer of the usual size can be had. -/
theorem create_usual [HostMemory] : create usualWidth usualHeight = .ok usual := by
  have passed : Extent.check Extent.room (usualWidth * usualHeight : Nat) = .ok () :=
    Extent.check_of_room (Extent.le_room (by decide))
  rw [create, ← Int.natCast_mul, passed]
  rfl

/-- The location of a pixel, not wrapped. -/
def location (x y : Int) (framebuffer : Framebuffer) : Int :=
  y * framebuffer.width + x

/-- An operation on the pixels. -/
def onPixels {α : Type} (operation : Operation Bank α) : Operation Framebuffer α :=
  fun ⟨width, height, pixels, dirty⟩ =>
    match operation pixels with
    | .ok result pixels => .ok result ⟨width, height, pixels, dirty⟩
    | .error fault pixels => .error fault ⟨width, height, pixels, dirty⟩

/-- The pixel is lit. Coordinates are not wrapped. -/
def getPixel (x y : Int) : Operation Framebuffer Bool := do
  let byte ← onPixels (Bank.read (location x y (← get)))
  return byte != 0

/-- Wants a repaint at the next refresh. -/
def render (framebuffer : Framebuffer) : Framebuffer :=
  { framebuffer with dirty := true }

/-- Gives the framebuffer other sides and a bank of their size; all pixels are
out. If the bank cannot have the size, the sides are new and the pixels are the
old ones. -/
def reshape [HostMemory] (width height : Int) : Operation Framebuffer (List RendererCall) := do
  modify fun framebuffer => { framebuffer with width := width, height := height }
  onPixels (Bank.resize (width * height))
  return [.setResolution width height]

/-- Puts every pixel out, and leaves it at that. -/
def wipe : Operation Framebuffer (List RendererCall) := do
  onPixels Bank.clear
  let framebuffer ← get
  return [.blank framebuffer.width framebuffer.height]

/-- An operation after which, its calls being followed, a repaint is wanted. -/
def thenRender (operation : Operation Framebuffer (List RendererCall)) :
    Operation Framebuffer (List RendererCall) := do
  let calls ← operation
  modify render
  return calls

/-- Gives the framebuffer another size. -/
def resize [HostMemory] (width height : Int) : Operation Framebuffer (List RendererCall) :=
  thenRender (reshape width height)

/-- Puts every pixel out. -/
def clear : Operation Framebuffer (List RendererCall) := thenRender wipe

/-- Inverts a pixel and tells whether it was lit. The coordinates wrap onto
the framebuffer, with the sign of its sides. -/
def toggle (x y : Int) : Operation Framebuffer (Bool × List RendererCall) := do
  let width := (← get).width
  let height := (← get).height
  if width = 0 ∨ height = 0 then throw .zeroDivisor
  let x := x.fmod width
  let y := y.fmod height
  let place := y * width + x
  let byte ← onPixels (Bank.read place)
  let inverted := byte ^^^ 0xFF
  onPixels (Bank.write place inverted.toNat)
  return (byte != 0, [.setPixel x y (if inverted != 0 then 1 else 0)])

/-- Hands the contents to the renderer. -/
def refresh (framebuffer : Framebuffer) : Framebuffer × List RendererCall :=
  ({ framebuffer with dirty := false }, [.refresh framebuffer.dirty])

/-- The rows of pixels, lit or not. -/
def rows (framebuffer : Framebuffer) : List (List Bool) :=
  (List.range framebuffer.height.toNat).map fun y =>
    (List.range framebuffer.width.toNat).map fun x =>
      framebuffer.pixels.byteAt (y * framebuffer.width.toNat + x) != 0

instance : Display Framebuffer where
  toggle := toggle
  clear := clear
  render := render
  refresh := modifyGet fun framebuffer => (refresh framebuffer).swap
  report := fun fps ops => pure (report fps ops)

end Framebuffer
end Chip8
