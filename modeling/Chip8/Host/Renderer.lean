import Chip8.Bank
import Chip8.Display
import Chip8.Framebuffer
import Chip8.Host.Call
import Chip8.Setting
/-!
# Renderers

A renderer follows the calls that a display makes. It keeps the title and
the size of the display, and counts the refreshes that showed a change. A
headless renderer does no more than that. A windowed one also keeps the
picture, three bytes a pixel and row by row, and shows it stretched over a
window twice as wide as high.

A picture has the size of the display, so a display with one negative side
is refused, and so is one whose picture there cannot be; one with two
negative sides has a picture without rows. A pixel is addressed by its place
in the picture, counted from the end if negative.
-/

namespace Chip8

/-- A window of the host, and the picture shown in it. -/
structure Window where
  width : Int
  height : Int
  picture : Array UInt8
  deriving DecidableEq, Repr

namespace Window

/-- The bytes of one pixel. -/
def pixelSize : Nat := 3

/-- The colours of the picture, background and foreground. -/
def palette : List (List UInt8) :=
  [[0x22, 0x22, 0x22], [0xDD, 0xDD, 0xDD]]

/-- The usual width of a window. -/
def usualWidth : Int := 512

/-- A window of a given width, with an empty picture. -/
def ofWidth (width : Int) : Window := ⟨width, width.fdiv 2, #[]⟩

/-- The picture of so many pixels before any of them is given a colour. Its
length has to be one that there is room for and must not be negative. -/
def unpainted [HostMemory] (pixels : Int) : Except Fault (Array UInt8) := do
  Extent.check Extent.room (pixels * pixelSize)
  if pixels < 0 then throw .badValue
  return Array.replicate (pixels * pixelSize).toNat 0

/-- The colour with a given number. Negative numbers count from the last
colour downwards. -/
def colour? (number : Int) : Option (List UInt8) :=
  if number < 0 then
    if number + palette.length < 0 then none else palette[(number + palette.length).toNat]?
  else palette[number.toNat]?

/-- A place in a run of so many bytes: negative places count from the end, and
places beyond the run are moved to its ends. -/
def place (length : Nat) (location : Int) : Nat :=
  if location < 0 then (location + length).toNat else min location.toNat length

/-- Gives the pixel at a location of the picture a colour. The location has to
leave room for a whole pixel. -/
def put (location colour : Int) : Operation (Array UInt8) Unit := fun picture =>
  match colour? colour with
  | none => .error .badIndex picture
  | some bytes =>
    let start := place picture.size location
    let stop := place picture.size (location + pixelSize)
    if stop = start + pixelSize then .ok () (Bank.overwrite picture start bytes)
    else .error .badValue picture

/-- The colour number of the pixel that begins at an index, if it is one of
the palette. -/
def colourAt? (picture : Array UInt8) (start : Nat) : Option Nat :=
  palette.findIdx? fun colour => colour == (picture.extract start (start + pixelSize)).toList

end Window

/-- A renderer; a headless one has no window. -/
structure Renderer where
  title : String
  refreshes : Nat
  width : Int
  height : Int
  scale : Int
  window : Option Window
  deriving DecidableEq, Repr

namespace Renderer

/-- A renderer without a window. -/
def headless (scale : Option Int) : Renderer :=
  ⟨"", 0, 0, 0, scale.getD 1, none⟩

/-- A change of the picture, of a renderer that has one. -/
def onPicture (operation : Operation (Array UInt8) Unit) : Operation Renderer Unit :=
  fun ⟨title, refreshes, width, height, scale, window⟩ =>
    match window with
    | none => .ok () ⟨title, refreshes, width, height, scale, none⟩
    | some ⟨windowWidth, windowHeight, picture⟩ =>
      match operation picture with
      | .ok _ picture =>
        .ok () ⟨title, refreshes, width, height, scale, some ⟨windowWidth, windowHeight, picture⟩⟩
      | .error fault picture => .error fault
        ⟨title, refreshes, width, height, scale, some ⟨windowWidth, windowHeight, picture⟩⟩

/-- Gives one pixel a colour. -/
def setPixel (x y colour : Int) : Operation Renderer Unit := fun renderer =>
  onPicture (Window.put ((y * renderer.width + x) * Window.pixelSize) colour) renderer

/-- Gives every pixel of a display of this size the background colour. -/
def fill (width height : Int) : Operation Renderer Unit :=
  (RendererCall.span height).forM fun y =>
    (RendererCall.span width).forM fun x => setPixel x y 0

/-- The calls that show the picture, none for an empty one. -/
def show? (renderer : Renderer) : List HostCall :=
  match renderer.window with
  | none => []
  | some window =>
    if window.picture.isEmpty then []
    else [.imageFromBuffer window.picture.size renderer.width renderer.height,
      .scaleImage window.width window.height, .blit 0 0, .flip]

/-- Shows the picture and counts the refresh, if there was a change. -/
def refresh (changed : Bool) : Operation Renderer (List HostCall) := fun renderer =>
  if changed then .ok renderer.show? { renderer with refreshes := renderer.refreshes + 1 }
  else .ok [] renderer

/-- Sets the size of the display, and leaves the picture. -/
def setSize (width height : Int) (renderer : Renderer) : Renderer :=
  { renderer with width := width, height := height }

/-- Follows the display to a new size. The picture becomes all background and
is shown at once. -/
def setResolution [HostMemory] (width height : Int) : Operation Renderer (List HostCall) := do
  if (← get).window.isSome then
    let picture ← Operation.ofExcept (Window.unpainted (width * height))
    onPicture (set picture)
    modify (setSize width height)
    fill width height
    refresh true
  else
    modify (setSize width height)
    return []

/-- Gives the window a title. -/
def setTitle (title : String) : Operation Renderer (List HostCall) := fun renderer =>
  .ok (if renderer.window.isSome then [.setCaption title] else [])
    { renderer with title := title }

/-- Follows a call of the display. -/
def receive [HostMemory] : RendererCall → Operation Renderer (List HostCall)
  | .setResolution width height => setResolution width height
  | .setPixel x y colour => do
    setPixel x y colour
    return []
  | .blank width height => do
    fill width height
    return []
  | .refresh changed => refresh changed
  | .setTitle title => setTitle title

/-- Follows calls in order, up to the first that is refused. -/
def receiveAll [HostMemory] : List RendererCall → Operation Renderer (List HostCall)
  | [] => pure []
  | call :: rest => do
    let first ← receive call
    return first ++ (← receiveAll rest)

/-- The renderer after a call, with the calls that it makes of the host. A call
that it refuses changes what it changed until then, and asks nothing of the
host. -/
def follow [HostMemory] (renderer : Renderer) (call : RendererCall) : Renderer × List HostCall :=
  match receive call renderer with
  | .ok calls renderer => (renderer, calls)
  | .error _ renderer => (renderer, [])

/-- The renderer after calls in order. -/
def followAll [HostMemory] (renderer : Renderer) (calls : List RendererCall) : Renderer :=
  calls.foldl (fun renderer call => (renderer.follow call).1) renderer

/-- A renderer with a window, and the calls that open it. The window is
captioned with the name of the emulator before it has a size; the renderer's
own title is still empty. Without a width there is no window. -/
def windowed (scale : Setting Int) : Option Renderer × List HostCall :=
  let calls := [.openDisplay, .setCaption applicationName]
  match scale.resolve Window.usualWidth with
  | none => (none, calls)
  | some scale =>
    let window := Window.ofWidth scale
    (some ⟨"", 1, 0, 0, scale, some window⟩, calls ++ [.setMode window.width window.height])

/-- The calls that shut the renderer down. -/
def shutdown (renderer : Renderer) : List HostCall :=
  if renderer.window.isSome then [.closeDisplay] else []

/-- The colour numbers of the pixels in the picture, row by row; none for a
colour that is not of the palette. An empty picture has no rows. -/
def shown (renderer : Renderer) : List (List (Option Nat)) :=
  match renderer.window with
  | none => []
  | some window =>
    if window.picture.isEmpty then []
    else (List.range renderer.height.toNat).map fun y =>
      (List.range renderer.width.toNat).map fun x =>
        Window.colourAt? window.picture ((y * renderer.width.toNat + x) * Window.pixelSize)

end Renderer
end Chip8
