import Chip8.Fault
/-!
# Displays

What a machine needs of its display: to toggle a pixel and learn whether it
was lit, to clear, and to be told that a repaint is wanted. The clock that
drives a machine asks for a repaint and reports how fast it runs.

A display hands on to its renderer: each operation gives the renderer calls
that it makes, in order. `Scripted` is the display without a screen or a
renderer, whose answers are laid down beforehand; it can be drawn on, but
neither repainted nor given a report to show.
-/

namespace Chip8

/-- A call to the renderer that shows a display. Colour `0` is background
and `1` is foreground. -/
inductive RendererCall where
  /-- The display has a new size. -/
  | setResolution (width height : Int)
  /-- One pixel has a new colour. -/
  | setPixel (x y colour : Int)
  /-- Every pixel of a display of this size is background, row by row. -/
  | blank (width height : Int)
  /-- Show the display, if it changed. -/
  | refresh (changed : Bool)
  /-- The window has a new title. -/
  | setTitle (title : String)
  deriving DecidableEq, Repr

namespace RendererCall

/-- The integers from zero up to a size, none for a negative one. -/
def span (size : Int) : List Int :=
  (List.range size.toNat).map Int.ofNat

/-- The calls for single pixels that a call stands for. -/
def expand : RendererCall → List RendererCall
  | blank width height =>
    (span height).flatMap fun y => (span width).map fun x => setPixel x y 0
  | call => [call]

/-- How many pixels a call sets. -/
def pixelCount : RendererCall → Nat
  | setPixel _ _ _ => 1
  | blank width height => width.toNat * height.toNat
  | _ => 0

end RendererCall

/-- What a machine and its clock ask of a display of type `δ`. -/
class Display (δ : Type) where
  /-- Inverts a pixel and tells whether it was lit. -/
  toggle (x y : Int) : Operation δ (Bool × List RendererCall)
  /-- Puts every pixel out. -/
  clear : Operation δ (List RendererCall)
  /-- Wants a repaint at the next refresh. -/
  render (display : δ) : δ
  /-- Repaints, if one was wanted. -/
  refresh : Operation δ (List RendererCall)
  /-- Reports frames and instructions per second. -/
  report (fps ops : Int) : Operation δ (List RendererCall)

/-- A request to a scripted display. -/
inductive DisplayRequest where
  | toggle (x y : Int)
  | clear
  | render
  deriving DecidableEq, Repr

/-- A display without pixels: it answers each toggle with the next of the
answers it was given, unlit when there are none left, and remembers what it
was asked. -/
structure Scripted where
  answers : List Bool
  requests : List DisplayRequest
  deriving DecidableEq, Repr

namespace Scripted

/-- Remembers one more request. -/
def remember (request : DisplayRequest) (display : Scripted) : Scripted :=
  { display with requests := display.requests ++ [request] }

/-- The next answer. -/
def toggle (x y : Int) : Operation Scripted (Bool × List RendererCall) := fun display =>
  .ok (display.answers.headD false, [])
    (remember (.toggle x y) { display with answers := display.answers.tail })

instance : Display Scripted where
  toggle := toggle
  clear := fun display => .ok [] (remember .clear display)
  render := remember .render
  refresh := throw .unsupported
  report := fun _ _ => throw .unsupported

end Scripted
end Chip8
