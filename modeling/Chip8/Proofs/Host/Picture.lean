import Chip8.Host.Renderer
import Chip8.Proofs.Framebuffer.Inversion
import Chip8.Proofs.Operation
/-!
# The picture of a renderer

A picture holds three bytes a pixel, so that a pixel which is given a colour takes
its own three bytes and no other pixel's (`pixelAt_painted`). On a canvas, which is
a renderer whose picture has the size of its sides, a pixel inside the sides can
always be given a colour (`Canvas.setPixel`); filling a canvas makes all of it
background (`Canvas.fill`), and so does a new size, for whose picture there only has to
be room (`Renderer.setResolution_of_room`).
-/

namespace Chip8

/-! ## Pixels of a picture -/

namespace Window

/-- The bytes of a colour, foreground if lit. -/
def shade (lit : Bool) : List UInt8 := palette.getD lit.toNat []

/-- The bytes of a pixel, counted from the first. -/
def pixelAt (picture : Array UInt8) (k : Nat) : List UInt8 :=
  (picture.extract (k * 3) (k * 3 + 3)).toList

/-- The picture with one pixel given a colour. -/
def painted (k : Nat) (lit : Bool) (picture : Array UInt8) : Array UInt8 :=
  Bank.overwrite picture (k * 3) (shade lit)

variable {picture : Array UInt8} {pixels k : Nat}

theorem length_shade (lit : Bool) : (shade lit).length = 3 := by
  cases lit <;> rfl

theorem size_painted (k : Nat) (lit : Bool) (picture : Array UInt8) :
    (painted k lit picture).size = picture.size :=
  Bank.size_overwrite _ _ _

theorem getElem?_pixelAt (size : picture.size = pixels * 3) (inside : k < pixels) (j : Nat) :
    (pixelAt picture k)[j]? = if j < 3 then picture[k * 3 + j]? else none := by
  have all : j < min (k * 3 + 3) picture.size - k * 3 ↔ j < 3 := by omega
  rw [pixelAt, Array.getElem?_toList, Array.getElem?_extract]
  simp only [all]

/-- **A pixel takes its colour**, and the other pixels keep theirs. -/
theorem pixelAt_painted (size : picture.size = pixels * 3) (inside : k < pixels) (lit : Bool)
    {other : Nat} (other_inside : other < pixels) :
    pixelAt (painted k lit picture) other =
      if other = k then shade lit else pixelAt picture other := by
  have whole : (painted k lit picture).size = pixels * 3 := (size_painted k lit picture).trans size
  apply List.ext_getElem?
  intro j
  rw [getElem?_pixelAt whole other_inside, painted, Bank.getElem?_overwrite, length_shade]
  by_cases same : other = k
  · subst same
    rw [if_pos rfl]
    by_cases j_lt : j < 3
    · rw [if_pos j_lt, if_pos (by omega), Nat.add_sub_cancel_left]
    · rw [if_neg j_lt, List.getElem?_eq_none (by rw [length_shade]; omega)]
  · rw [if_neg same, getElem?_pixelAt size other_inside]
    by_cases j_lt : j < 3
    · rw [if_pos j_lt, if_pos j_lt, if_neg (by omega)]
    · rw [if_neg j_lt, if_neg j_lt]

theorem place_of_le {length location : Nat} (le : location ≤ length) :
    place length location = location := by
  rw [place, if_neg (by omega), Int.toNat_natCast, Nat.min_eq_left le]

/-- A pixel of the picture can be given either colour. -/
theorem put_of_lt (size : picture.size = pixels * 3) (inside : k < pixels) (lit : Bool) :
    put ((k * 3 : Nat) : Int) (if lit then 1 else 0) picture = .ok () (painted k lit picture) := by
  have colour : colour? (if lit then 1 else 0) = some (shade lit) := by
    cases lit <;> rfl
  have start : place picture.size ((k * 3 : Nat) : Int) = k * 3 := place_of_le (by omega)
  have stop : place picture.size ((k * 3 : Nat) + (pixelSize : Nat)) = k * 3 + 3 :=
    place_of_le (show k * 3 + 3 ≤ picture.size by omega)
  rw [put, colour]
  dsimp only
  rw [start, stop]
  exact if_pos rfl

/-- A picture for whose bytes there is room. -/
theorem unpainted_of_room [HostMemory] {area : Nat} (room : area * 3 ≤ Extent.room) :
    unpainted area = .ok (Array.replicate (area * 3) 0) := by
  have passed : Extent.check Extent.room (area * pixelSize : Nat) = .ok () :=
    Extent.check_of_room room
  rw [Int.natCast_mul] at passed
  have nonneg : ¬ (area : Int) < 0 := by omega
  simp only [unpainted, passed, if_neg nonneg]
  rfl

/-- A picture for whose bytes there is no room. -/
theorem unpainted_of_no_room [HostMemory] {area : Nat} (full : Extent.room < area * 3) :
    ∃ fault, unpainted area = .error fault ∧ (fault = .tooLarge ∨ fault = .outOfMemory) := by
  obtain ⟨fault, refused, kind⟩ := Extent.check_of_gt full
  refine ⟨fault, ?_, kind⟩
  rw [show ((area * 3 : Nat) : Int) = area * pixelSize from Int.natCast_mul area 3] at refused
  rw [unpainted, refused]
  rfl

end Window

/-! ## Canvases -/

/-- **A renderer that can be drawn on**: its picture has the size of its sides. -/
structure Renderer.Canvas (width height : Nat) (picture : Array UInt8) (renderer : Renderer) :
    Prop where
  width_eq : renderer.width = width
  height_eq : renderer.height = height
  window : ∃ windowWidth windowHeight, renderer.window = some ⟨windowWidth, windowHeight, picture⟩
  size : picture.size = width * height * 3

namespace Renderer

open Operation

variable {width height : Nat} {picture : Array UInt8} {renderer : Renderer}

theorem onPicture_of_ok {operation : Operation (Array UInt8) Unit} {after : Array UInt8}
    {windowWidth windowHeight : Int}
    (window : renderer.window = some ⟨windowWidth, windowHeight, picture⟩)
    (run : operation picture = .ok () after) :
    onPicture operation renderer =
      .ok () { renderer with window := some ⟨windowWidth, windowHeight, after⟩ } := by
  obtain ⟨title, refreshes, width, height, scale, shown⟩ := renderer
  subst window
  simp only [onPicture, run]

theorem Canvas.windowed (canvas : renderer.Canvas width height picture) :
    renderer.window.isSome = true := by
  obtain ⟨windowWidth, windowHeight, window⟩ := canvas.window
  rw [window]
  rfl

/-- A pixel inside the sides of a canvas can be given either colour. -/
theorem Canvas.setPixel (canvas : renderer.Canvas width height picture) {x y : Nat}
    (column : x < width) (row : y < height) (lit : Bool) :
    ∃ after, setPixel x y (if lit then 1 else 0) renderer = .ok () after ∧
      after.Canvas width height (Window.painted (y * width + x) lit picture) := by
  obtain ⟨windowWidth, windowHeight, window⟩ := canvas.window
  have inside := Framebuffer.place_lt column row
  have location : (y * renderer.width + x) * Window.pixelSize =
      (((y * width + x) * 3 : Nat) : Int) := by
    rw [canvas.width_eq]
    rfl
  refine ⟨{ renderer with
    window := some ⟨windowWidth, windowHeight, Window.painted (y * width + x) lit picture⟩ }, ?_,
    canvas.width_eq, canvas.height_eq, ⟨_, _, rfl⟩, (Window.size_painted _ _ _).trans canvas.size⟩
  rw [Renderer.setPixel, location]
  exact onPicture_of_ok window (Window.put_of_lt canvas.size inside lit)

/-- So many pixels of a canvas, counted from the first, are background. -/
def Emptied (width height count : Nat) (renderer : Renderer) : Prop :=
  ∃ picture, renderer.Canvas width height picture ∧
    ∀ k < count, Window.pixelAt picture k = Window.shade false

/-- One more pixel is made background. -/
theorem Emptied.setPixel {x y : Nat} (emptied : renderer.Emptied width height (y * width + x))
    (column : x < width) (row : y < height) :
    ∃ after, Renderer.setPixel x y 0 renderer = .ok () after ∧
      after.Emptied width height (y * width + x + 1) := by
  obtain ⟨picture, canvas, background⟩ := emptied
  obtain ⟨after, run, painted⟩ := canvas.setPixel column row false
  have inside := Framebuffer.place_lt column row
  refine ⟨after, run, _, painted, fun k lt => ?_⟩
  rw [Window.pixelAt_painted canvas.size inside false (by omega)]
  by_cases last : k = y * width + x
  · exact if_pos last
  · exact (if_neg last).trans (background k (by omega))

/-- **A canvas can be filled**: all its pixels become background. -/
theorem Canvas.fill (canvas : renderer.Canvas width height picture) :
    ∃ after, fill width height renderer = .ok () after ∧
      after.Emptied width height (width * height) := by
  -- Before each row all the rows above it are background, and within a row all the
  -- pixels to the left: what has been filled is a first part of the picture.
  have row : ∀ y < height, ∀ before : Renderer, before.Emptied width height (y * width) →
      ∃ after, ((RendererCall.span width).forM fun x => Renderer.setPixel x y 0) before =
        .ok ⟨⟩ after ∧ after.Emptied width height ((y + 1) * width) := by
    intro y inside before emptied
    rw [Nat.succ_mul]
    exact forM_of_rounds (fun x middle => Emptied width height (y * width + x) middle)
      (fun x column middle here => here.setPixel column inside) emptied
  have none : renderer.Emptied width height (0 * width) :=
    ⟨picture, canvas, fun k lt => absurd lt (by omega)⟩
  rw [Nat.mul_comm width height]
  exact forM_of_rounds (fun y middle => Emptied width height (y * width) middle) row none

/-- **A new size.** A renderer with a window takes any size for whose picture there is room,
and the picture becomes all background. -/
theorem setResolution_of_room [HostMemory] (windowed : renderer.window.isSome = true)
    (room : width * height * 3 ≤ Extent.room) :
    ∃ calls after, setResolution width height renderer = .ok calls after ∧
      after.Emptied width height (width * height) := by
  obtain ⟨⟨windowWidth, windowHeight, old⟩, window⟩ := Option.isSome_iff_exists.1 windowed
  -- The new picture is all zeros, which is no colour: it is a canvas, but not emptied yet.
  let sized : Renderer := { renderer with
    width := width, height := height,
    window := some ⟨windowWidth, windowHeight, Array.replicate (width * height * 3) 0⟩ }
  have canvas : sized.Canvas width height (Array.replicate (width * height * 3) 0) :=
    ⟨rfl, rfl, ⟨_, _, rfl⟩, Array.size_replicate⟩
  obtain ⟨after, filled, picture, full, background⟩ := canvas.fill
  have unpainted : ofExcept (Window.unpainted (width * height)) renderer =
      .ok (Array.replicate (width * height * 3) 0) renderer := by
    rw [← Int.natCast_mul, Window.unpainted_of_room room]
    rfl
  have emptied : onPicture (set (Array.replicate (width * height * 3) (0 : UInt8))) renderer =
      .ok () { sized with width := renderer.width, height := renderer.height } :=
    onPicture_of_ok window rfl
  refine ⟨after.show?, { after with refreshes := after.refreshes + 1 }, ?_, picture,
    ⟨full.width_eq, full.height_eq, full.window, full.size⟩, background⟩
  have looked : (get : Operation Renderer Renderer) renderer = .ok renderer renderer := rfl
  rw [setResolution, bind_of_ok looked, if_pos windowed, bind_of_ok unpainted,
    bind_of_ok emptied]
  exact bind_of_ok filled

/-- It refuses a size for whose picture there is no room, and stays as it is. -/
theorem setResolution_of_no_room [HostMemory] (windowed : renderer.window.isSome = true)
    (full : Extent.room < width * height * 3) :
    ∃ fault, setResolution width height renderer = .error fault renderer ∧
      (fault = .tooLarge ∨ fault = .outOfMemory) := by
  obtain ⟨fault, refused, kind⟩ := Window.unpainted_of_no_room full
  have unpainted : ofExcept (Window.unpainted (width * height)) renderer =
      .error fault renderer := by
    rw [← Int.natCast_mul, refused]
    rfl
  have looked : (get : Operation Renderer Renderer) renderer = .ok renderer renderer := rfl
  refine ⟨fault, ?_, kind⟩
  rw [setResolution, bind_of_ok looked, if_pos windowed]
  exact bind_of_error unpainted

/-! ## Windows stay -/

/-- The renderer has a window. -/
def Windowed (renderer : Renderer) : Prop := renderer.window.isSome = true

theorem keeps_windowed_onPicture (operation : Operation (Array UInt8) Unit) :
    Keeps Windowed (onPicture operation) := by
  rintro ⟨title, refreshes, width, height, scale, _ | ⟨windowWidth, windowHeight, picture⟩⟩ windowed
  · exact nomatch windowed
  · dsimp only [onPicture]
    cases operation picture <;> rfl

theorem keeps_windowed_setPixel (x y colour : Int) :
    Keeps Windowed (setPixel x y colour) :=
  fun renderer windowed => keeps_windowed_onPicture _ renderer windowed

theorem keeps_windowed_fill (width height : Int) : Keeps Windowed (fill width height) :=
  Keeps.forM fun y => Keeps.forM fun x => keeps_windowed_setPixel x y 0

/-- A renderer keeps its window, whatever it is told and whether or not it refuses. -/
theorem keeps_windowed_receive [HostMemory] (call : RendererCall) :
    Keeps Windowed (receive call) := by
  have refresh : ∀ changed, Keeps Windowed (Renderer.refresh changed) := by
    rintro (_ | _) renderer windowed <;> exact windowed
  cases call with
  | setResolution width height =>
    refine Keeps.bind Keeps.get fun _ => ?_
    split
    · refine Keeps.bind (Keeps.ofExcept _) fun picture => ?_
      refine Keeps.bind (keeps_windowed_onPicture _) fun _ => ?_
      refine Keeps.bind (Keeps.modify fun _ windowed => windowed) fun _ => ?_
      exact Keeps.bind (keeps_windowed_fill width height) fun _ => refresh true
    · exact Keeps.bind (Keeps.modify fun _ windowed => windowed) fun _ => Keeps.pure _
  | setPixel x y colour =>
    exact Keeps.bind (keeps_windowed_setPixel x y colour) fun _ => Keeps.pure _
  | blank width height => exact Keeps.bind (keeps_windowed_fill width height) fun _ => Keeps.pure _
  | refresh changed => exact refresh changed
  | setTitle title => exact fun _ windowed => windowed

theorem keeps_windowed_receiveAll [HostMemory] (calls : List RendererCall) :
    Keeps Windowed (receiveAll calls) := by
  induction calls with
  | nil => exact Keeps.pure _
  | cons call rest ih =>
    exact Keeps.bind (keeps_windowed_receive call) fun _ => Keeps.bind ih fun _ => Keeps.pure _

end Renderer
end Chip8
