import Chip8.Framebuffer
import Chip8.Host.Renderer
/-!
# Screens

A framebuffer together with the renderer that follows it. An operation of
the screen is one of the framebuffer, after which the renderer follows the
calls that the framebuffer made, in order and up to the first that it
refuses. A screen needs a renderer, be it one that shows nothing.
-/

namespace Chip8

/-- Why there is no screen. -/
inductive ScreenError where
  | noRenderer
  /-- The framebuffer or the renderer refuses the size. -/
  | fault (cause : Fault)
  deriving DecidableEq, Repr

/-- The wording of a screen error. -/
def ScreenError.message : ScreenError → String
  | noRenderer => "A renderer is required"
  | fault cause => cause.message

/-- A framebuffer and its renderer. -/
structure Screen where
  framebuffer : Framebuffer
  renderer : Renderer
  deriving DecidableEq, Repr

namespace Screen

variable {α : Type}

/-- What an operation gives: its result, the calls to the renderer, and the
calls that the renderer makes of the host. -/
structure Shown (α : Type) where
  result : α
  calls : List RendererCall
  hostCalls : List HostCall
  deriving Repr

/-- An operation of the framebuffer, which the renderer follows. -/
def perform [HostMemory] (operation : Operation Framebuffer (α × List RendererCall)) :
    Operation Screen (Shown α) := fun ⟨framebuffer, renderer⟩ =>
  match operation framebuffer with
  | .error fault framebuffer => .error fault ⟨framebuffer, renderer⟩
  | .ok (result, calls) framebuffer =>
    match Renderer.receiveAll calls renderer with
    | .ok hostCalls renderer => .ok ⟨result, calls, hostCalls⟩ ⟨framebuffer, renderer⟩
    | .error fault renderer => .error fault ⟨framebuffer, renderer⟩

/-- A change of the framebuffer, which the renderer follows. -/
def update [HostMemory] (change : Framebuffer → Framebuffer × List RendererCall) :
    Operation Screen (Shown Unit) :=
  perform fun framebuffer =>
    let (framebuffer, calls) := change framebuffer
    .ok ((), calls) framebuffer

/-- Inverts a pixel and tells whether it was lit. -/
def toggle [HostMemory] (x y : Int) : Operation Screen (Shown Bool) :=
  perform (Framebuffer.toggle x y)

/-- The pixel is lit. -/
def getPixel [HostMemory] (x y : Int) : Operation Screen (Shown Bool) :=
  perform do return (← Framebuffer.getPixel x y, [])

/-- An operation of the framebuffer, which the renderer follows. Only if it does
is a repaint wanted. -/
def performThenRender [HostMemory] (operation : Operation Framebuffer (List RendererCall)) :
    Operation Screen (Shown Unit) := do
  let shown ← perform do return ((), ← operation)
  modify fun screen => { screen with framebuffer := screen.framebuffer.render }
  return shown

/-- Puts every pixel out. -/
def clear [HostMemory] : Operation Screen (Shown Unit) := performThenRender Framebuffer.wipe

/-- Wants a repaint at the next refresh. -/
def render [HostMemory] : Operation Screen (Shown Unit) :=
  update fun framebuffer => (framebuffer.render, [])

/-- Hands the contents to the renderer. -/
def refresh [HostMemory] : Operation Screen (Shown Unit) := update Framebuffer.refresh

/-- Gives the framebuffer another size. -/
def resize [HostMemory] (width height : Int) : Operation Screen (Shown Unit) :=
  performThenRender (Framebuffer.reshape width height)

/-- Reports frames and instructions per second. -/
def report [HostMemory] (fps ops : Int) : Operation Screen (Shown Unit) :=
  update fun framebuffer => (framebuffer, Framebuffer.report fps ops)

/-- A new framebuffer over a renderer, and what it told the renderer. -/
def create [HostMemory] (renderer : Option Renderer) (width height : Int) :
    Except ScreenError (Screen × List RendererCall) :=
  match renderer with
  | none => .error .noRenderer
  | some renderer =>
    match Framebuffer.create width height with
    | .error fault => .error (.fault fault)
    | .ok (framebuffer, calls) =>
      match Renderer.receiveAll calls renderer with
      | .ok _ renderer => .ok (⟨framebuffer, renderer⟩, calls)
      | .error fault _ => .error (.fault fault)

end Screen
end Chip8
