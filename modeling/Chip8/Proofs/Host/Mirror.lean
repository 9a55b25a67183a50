import Chip8.Host.Screen
import Chip8.Proofs.Framebuffer.Sizes
import Chip8.Proofs.Host.Picture
/-!
# The picture mirrors the display

A screen keeps its pixels twice: one byte each in the bank of its framebuffer, and
three bytes each in the picture of its renderer. Neither is ever made from the other;
both follow the same requests. A screen `Mirrors` its display if each pixel of the
picture has the colour that its cell asks for. A new screen over a renderer with a
window does, and every request of a screen that does is served and leaves one that
does, unless it asks for a size for which there is no room (`Mirrors.serve`). So does
every screen in use (`InUse.mirror`).

A size for which there is no room is refused when the framebuffer has taken its sides and
its renderer has not (`mirror_lost`). Such a screen is `Reached`, but it is not in use
until it is given a size that there is room for.
-/

namespace Chip8

namespace Framebuffer

variable {width height : Nat} {framebuffer : Framebuffer}

/-- A toggle inverts a dot that lies inside. -/
theorem toggle_eq_flip (sound : framebuffer.Sound width height) (x y : Int) :
    ∃ column row : Nat, column < width ∧ row < height ∧
      let byte := framebuffer.pixel (column, row)
      toggle x y framebuffer =
        .ok (byte != 0, [.setPixel column row (if byte ^^^ 0xFF != 0 then 1 else 0)])
          (framebuffer.flip (column, row)) := by
  have width_pos := sound.width_pos
  have height_pos := sound.height_pos
  obtain ⟨column, column_eq⟩ :=
    Int.eq_ofNat_of_zero_le (Int.fmod_nonneg_of_pos x (show 0 < (width : Int) by omega))
  obtain ⟨row, row_eq⟩ :=
    Int.eq_ofNat_of_zero_le (Int.fmod_nonneg_of_pos y (show 0 < (height : Int) by omega))
  have column_lt := Int.fmod_lt_of_pos x (show 0 < (width : Int) by omega)
  have row_lt := Int.fmod_lt_of_pos y (show 0 < (height : Int) by omega)
  have toggled := toggle_of_sound sound x y
  rw [column_eq, row_eq] at toggled
  exact ⟨column, row, by omega, by omega, toggled⟩

/-- The cells after one dot is inverted. -/
theorem byteAt_flip (sound : framebuffer.Sound width height) (dot : Nat × Nat) {k : Nat}
    (inside : k < width * height) :
    (framebuffer.flip dot).pixels.byteAt k =
      if k = dot.2 * width + dot.1 then framebuffer.pixel dot ^^^ 0xFF
      else framebuffer.pixels.byteAt k := by
  have side : framebuffer.width.toNat = width := by
    rw [sound.width_eq, Int.toNat_natCast]
  have cells := sound.pixels.size_cells
  rw [flip, Bank.byteAt_written, side, List.length_singleton]
  by_cases same : k = dot.2 * width + dot.1
  · subst same
    rw [if_pos (by omega), if_pos rfl, Nat.sub_self]
    rfl
  · rw [if_neg (by omega), if_neg same]

end Framebuffer

namespace Screen

open Operation

/-! ## Requests -/

/-- What a screen is asked to do. -/
inductive Request where
  /-- Take another size. -/
  | resize (width height : Int)
  /-- Invert a pixel. -/
  | toggle (x y : Int)
  /-- Put every pixel out. -/
  | clear
  /-- Want a repaint. -/
  | render
  /-- Repaint. -/
  | refresh
  /-- Report frames and instructions per second. -/
  | report (fps ops : Int)
  deriving DecidableEq, Repr

namespace Request

/-- A size that is asked for has positive sides. -/
def Positive : Request → Prop
  | resize width height => 0 < width ∧ 0 < height
  | _ => True

end Request

/-- **The picture mirrors the display**: it has the size of the display, and each of its
pixels is foreground where the cell of the display is not zero, and background where it
is. -/
structure Mirrors (width height : Nat) (screen : Screen) : Prop where
  display : screen.framebuffer.Sound width height
  picture : ∃ picture, screen.renderer.Canvas width height picture ∧
    ∀ k < width * height, Window.pixelAt picture k =
      Window.shade (screen.framebuffer.pixels.byteAt k != 0)

variable {width height : Nat} {screen left : Screen} {framebuffer after : Framebuffer}
variable {renderer painted : Renderer} {α : Type} {result : α}

/-! ## Mirrors -/

/-- A request that makes the renderer's picture all background, of a framebuffer with all
pixels out, leaves a mirror. -/
theorem mirrors_of_emptied (display : framebuffer.Sound width height)
    (out : ∀ k, framebuffer.pixels.byteAt k = 0)
    (emptied : renderer.Emptied width height (width * height)) :
    Mirrors width height ⟨framebuffer, renderer⟩ := by
  obtain ⟨picture, canvas, background⟩ := emptied
  refine ⟨display, picture, canvas, fun k inside => ?_⟩
  rw [background k inside, out k]
  rfl

/-- So does one that does it to the renderer of a new framebuffer. -/
theorem mirrors_of_blank (width_pos : 0 < width) (height_pos : 0 < height)
    (emptied : renderer.Emptied width height (width * height)) :
    Mirrors width height ⟨Framebuffer.blank width height, renderer⟩ :=
  mirrors_of_emptied (Framebuffer.sound_blank width_pos height_pos)
    (fun k => Bank.byteAt_blank _ k) emptied

/-- Neither the flag of the framebuffer nor the title and the count of the renderer
matter to the mirror. -/
theorem Mirrors.with (mirrors : Mirrors width height ⟨framebuffer, renderer⟩) (dirty : Bool)
    (title : String) (refreshes : Nat) :
    Mirrors width height
      ⟨{ framebuffer with dirty := dirty },
        { renderer with title := title, refreshes := refreshes }⟩ := by
  obtain ⟨display, picture, canvas, colours⟩ := mirrors
  exact ⟨⟨display.width_eq, display.height_eq, display.width_pos, display.height_pos,
    display.pixels, display.twoValued⟩, picture,
    ⟨canvas.width_eq, canvas.height_eq, canvas.window, canvas.size⟩, colours⟩

/-- What gives the calls only gives them with nothing besides. -/
theorem told_of_ok {operation : Operation Framebuffer (List RendererCall)}
    {calls : List RendererCall} (run : operation framebuffer = .ok calls after) :
    (do return ((), ← operation) : Operation Framebuffer (Unit × List RendererCall)) framebuffer =
      .ok ((), calls) after := bind_of_ok run

/-- An operation that leaves a mirror serves a request that asks for no more. -/
theorem served_of_mirrors {operation : Operation Screen (Shown α)}
    (mirrored : ∃ shown left, operation screen = .ok shown left ∧ Mirrors width height left) :
    ∃ width height left, (do let _ ← operation : Operation Screen Unit) screen = .ok () left ∧
      Mirrors width height left := by
  obtain ⟨shown, left, run, mirrors⟩ := mirrored
  exact ⟨width, height, left, bind_of_ok run, mirrors⟩

/-! ## Screens in use -/

section OnHost

variable [HostMemory]

/-- There is no room for a picture of the size that is asked for. -/
def Request.Roomless : Request → Prop
  | resize width height => Extent.room < width * height * Window.pixelSize
  | _ => False

/-- What a screen does on a request. -/
def serve : Request → Operation Screen Unit
  | .resize width height => do
    let _ ← resize width height
  | .toggle x y => do
    let _ ← toggle x y
  | .clear => do
    let _ ← clear
  | .render => do
    let _ ← render
  | .refresh => do
    let _ ← refresh
  | .report fps ops => do
    let _ ← report fps ops

/-- **The screens that can be reached** by requests for positive sides from those made over a
renderer with a window, whether the requests are served or not. -/
inductive Reached : Screen → Prop where
  /-- A new screen. -/
  | created {renderer : Renderer} {width height : Int} {screen : Screen} {calls : List RendererCall}
      (windowed : renderer.window.isSome = true) (width_pos : 0 < width) (height_pos : 0 < height)
      (made : create (some renderer) width height = .ok (screen, calls)) : Reached screen
  /-- One more request. -/
  | asked {screen : Screen} (reached : Reached screen) {request : Request}
      (positive : request.Positive) : Reached (Operation.left (serve request screen))

/-- **The screens in use**: those made over a renderer with a window, those that were reached
and then took a size, and those left by a request that was served. Sides are positive. -/
inductive InUse : Screen → Prop where
  /-- A new screen. -/
  | created {renderer : Renderer} {width height : Int} {screen : Screen} {calls : List RendererCall}
      (windowed : renderer.window.isSome = true) (width_pos : 0 < width) (height_pos : 0 < height)
      (made : create (some renderer) width height = .ok (screen, calls)) : InUse screen
  /-- A screen that took a size, whatever came of the requests before. -/
  | resized {screen left : Screen} (reached : Reached screen) {width height : Int}
      (width_pos : 0 < width) (height_pos : 0 < height)
      (run : serve (.resize width height) screen = .ok () left) : InUse left
  /-- One more request. -/
  | served {screen left : Screen} (inUse : InUse screen) {request : Request}
      (positive : request.Positive) (run : serve request screen = .ok () left) : InUse left

/-! ## Following a framebuffer -/

theorem perform_of_ok {operation : Operation Framebuffer (α × List RendererCall)}
    {calls : List RendererCall} {hostCalls : List HostCall}
    (run : operation framebuffer = .ok (result, calls) after)
    (follows : Renderer.receiveAll calls renderer = .ok hostCalls painted) :
    perform operation ⟨framebuffer, renderer⟩ =
      .ok ⟨result, calls, hostCalls⟩ ⟨after, painted⟩ := by
  simp only [perform, run, follows]

theorem perform_of_error {operation : Operation Framebuffer (α × List RendererCall)}
    {fault : Fault} (run : operation framebuffer = .error fault after) :
    perform operation ⟨framebuffer, renderer⟩ = .error fault ⟨after, renderer⟩ := by
  simp only [perform, run]

theorem performThenRender_of_ok {operation : Operation Framebuffer (List RendererCall)}
    {calls : List RendererCall} {hostCalls : List HostCall}
    (run : operation framebuffer = .ok calls after)
    (follows : Renderer.receiveAll calls renderer = .ok hostCalls painted) :
    performThenRender operation ⟨framebuffer, renderer⟩ =
      .ok ⟨(), calls, hostCalls⟩ ⟨after.render, painted⟩ :=
  bind_of_ok (perform_of_ok (told_of_ok run) follows)

theorem performThenRender_of_error {operation : Operation Framebuffer (List RendererCall)}
    {fault : Fault} (run : operation framebuffer = .error fault after) :
    performThenRender operation ⟨framebuffer, renderer⟩ = .error fault ⟨after, renderer⟩ :=
  bind_of_error (perform_of_error (bind_of_error run))

/-- The framebuffer goes along and its renderer does not. -/
theorem performThenRender_of_refused {operation : Operation Framebuffer (List RendererCall)}
    {calls : List RendererCall} {fault : Fault}
    (run : operation framebuffer = .ok calls after)
    (refused : Renderer.receiveAll calls renderer = .error fault painted) :
    performThenRender operation ⟨framebuffer, renderer⟩ = .error fault ⟨after, painted⟩ := by
  have performed : perform (do return ((), ← operation)) ⟨framebuffer, renderer⟩ =
      .error fault ⟨after, painted⟩ := by
    simp only [perform, told_of_ok run, refused]
  exact bind_of_error performed

theorem update_of_ok {change : Framebuffer → Framebuffer × List RendererCall}
    {calls : List RendererCall} {hostCalls : List HostCall}
    (changed : change framebuffer = (after, calls))
    (follows : Renderer.receiveAll calls renderer = .ok hostCalls painted) :
    update change ⟨framebuffer, renderer⟩ = .ok ⟨(), calls, hostCalls⟩ ⟨after, painted⟩ := by
  simp only [update, perform, changed, follows]

theorem receiveAll_singleton {call : RendererCall} {hostCalls : List HostCall}
    (follows : Renderer.receive call renderer = .ok hostCalls painted) :
    Renderer.receiveAll [call] renderer = .ok (hostCalls ++ []) painted :=
  bind_of_ok follows

/-! ## Windows stay -/

/-- The renderer of the screen has a window. -/
def Windowed (screen : Screen) : Prop := screen.renderer.window.isSome = true

theorem keeps_windowed_perform (operation : Operation Framebuffer (α × List RendererCall)) :
    Keeps Windowed (perform operation) := by
  rintro ⟨framebuffer, renderer⟩ windowed
  dsimp only [perform]
  cases operation framebuffer with
  | error fault after => exact windowed
  | ok pair after =>
    have follows := Renderer.keeps_windowed_receiveAll pair.2 renderer windowed
    dsimp only
    cases received : Renderer.receiveAll pair.2 renderer <;>
    · rw [received] at follows
      exact follows

theorem keeps_windowed_serve (request : Request) : Keeps Windowed (serve request) := by
  have thenRender : ∀ operation, Keeps Windowed (performThenRender operation) := fun operation =>
    Keeps.bind (keeps_windowed_perform _) fun _ =>
      Keeps.bind (Keeps.modify fun _ windowed => windowed) fun _ => Keeps.pure _
  have update : ∀ change, Keeps Windowed (update change) := fun change => keeps_windowed_perform _
  cases request with
  | resize width height => exact Keeps.bind (thenRender _) fun _ => Keeps.pure _
  | clear => exact Keeps.bind (thenRender _) fun _ => Keeps.pure _
  | toggle x y => exact Keeps.bind (keeps_windowed_perform _) fun _ => Keeps.pure _
  | render | refresh | report fps ops => exact Keeps.bind (update _) fun _ => Keeps.pure _

/-- **A screen that was reached has a window.** -/
theorem Reached.windowed (reached : Reached screen) : Windowed screen := by
  induction reached with
  | @created renderer width height screen calls windowed _ _ made =>
    unfold create at made
    dsimp only at made
    cases fresh : Framebuffer.create width height with
    | error fault =>
      rw [fresh] at made
      exact nomatch made
    | ok pair =>
      have follows := Renderer.keeps_windowed_receiveAll pair.2 renderer windowed
      rw [fresh] at made
      dsimp only at made
      cases received : Renderer.receiveAll pair.2 renderer with
      | error fault after =>
        rw [received] at made
        exact nomatch made
      | ok hostCalls after =>
        rw [received] at made follows
        injection made with same
        injection same with same
        exact same ▸ follows
  | asked _ _ ih => exact keeps_windowed_serve _ _ ih

/-! ## One request -/

/-- A toggle changes a cell and its pixel together. -/
theorem Mirrors.toggle (mirrors : Mirrors width height screen) (x y : Int) :
    ∃ shown left, Screen.toggle x y screen = .ok shown left ∧ Mirrors width height left := by
  obtain ⟨framebuffer, renderer⟩ := screen
  obtain ⟨display, picture, canvas, colours⟩ := mirrors
  obtain ⟨column, row, column_lt, row_lt, toggled⟩ := Framebuffer.toggle_eq_flip display x y
  let lit := framebuffer.pixel (column, row) ^^^ 0xFF != 0
  obtain ⟨after, painted, full⟩ := canvas.setPixel column_lt row_lt lit
  have received : Renderer.receive (.setPixel column row (if lit then 1 else 0)) renderer =
      .ok [] after := bind_of_ok painted
  refine ⟨_, _, perform_of_ok toggled (receiveAll_singleton received), display.flip _, _, full,
    fun k inside => ?_⟩
  rw [Window.pixelAt_painted canvas.size (Framebuffer.place_lt column_lt row_lt) lit inside,
    Framebuffer.byteAt_flip display (column, row) inside, colours k inside]
  by_cases same : k = row * width + column
  · rw [if_pos same, if_pos same]
  · rw [if_neg same, if_neg same]

theorem Mirrors.wipe (mirrors : Mirrors width height screen) :
    ∃ shown left, perform (do return ((), ← Framebuffer.wipe)) screen = .ok shown left ∧
      Mirrors width height left := by
  obtain ⟨framebuffer, renderer⟩ := screen
  obtain ⟨display, picture, canvas, -⟩ := mirrors
  obtain ⟨after, filled, emptied⟩ := canvas.fill
  have wiped := Framebuffer.wipe_of_sound display
  rw [display.width_eq, display.height_eq] at wiped
  have received : Renderer.receive (.blank width height) renderer = .ok [] after :=
    bind_of_ok filled
  have performed := perform_of_ok (told_of_ok wiped) (receiveAll_singleton received)
  have cleared := display.cleared
  exact ⟨_, _, performed, mirrors_of_emptied
    ⟨cleared.width_eq, cleared.height_eq, cleared.width_pos, cleared.height_pos, cleared.pixels,
      cleared.twoValued⟩ (Bank.byteAt_blank _) emptied⟩

theorem Mirrors.clear (mirrors : Mirrors width height screen) :
    ∃ shown left, Screen.clear screen = .ok shown left ∧ Mirrors width height left := by
  obtain ⟨shown, ⟨framebuffer, renderer⟩, wiped, again⟩ := mirrors.wipe
  exact ⟨shown, _, bind_of_ok wiped, again.with true renderer.title renderer.refreshes⟩

theorem Mirrors.render (mirrors : Mirrors width height screen) :
    ∃ shown left, Screen.render screen = .ok shown left ∧ Mirrors width height left := by
  obtain ⟨framebuffer, renderer⟩ := screen
  exact ⟨_, _, update_of_ok rfl rfl, mirrors.with true renderer.title renderer.refreshes⟩

theorem Mirrors.refresh (mirrors : Mirrors width height screen) :
    ∃ shown left, Screen.refresh screen = .ok shown left ∧ Mirrors width height left := by
  obtain ⟨framebuffer, renderer⟩ := screen
  cases dirty : framebuffer.dirty with
  | true =>
    have received : Renderer.receive (.refresh framebuffer.dirty) renderer =
        .ok renderer.show? { renderer with refreshes := renderer.refreshes + 1 } := by
      rw [dirty]
      rfl
    exact ⟨_, _, update_of_ok rfl (receiveAll_singleton received),
      mirrors.with false renderer.title (renderer.refreshes + 1)⟩
  | false =>
    have received : Renderer.receive (.refresh framebuffer.dirty) renderer = .ok [] renderer := by
      rw [dirty]
      rfl
    exact ⟨_, _, update_of_ok rfl (receiveAll_singleton received),
      mirrors.with false renderer.title renderer.refreshes⟩

theorem Mirrors.report (mirrors : Mirrors width height screen) (fps ops : Int) :
    ∃ shown left, Screen.report fps ops screen = .ok shown left ∧ Mirrors width height left := by
  obtain ⟨framebuffer, renderer⟩ := screen
  exact ⟨_, _, update_of_ok rfl (receiveAll_singleton rfl),
    mirrors.with framebuffer.dirty (Framebuffer.title fps ops) renderer.refreshes⟩

/-- A new size that there is room for leaves a mirror, whatever the picture was. -/
theorem mirrors_of_resize (windowed : screen.renderer.window.isSome = true) (width_pos : 0 < width)
    (height_pos : 0 < height) (room : width * height * 3 ≤ Extent.room) :
    ∃ shown left, Screen.resize width height screen = .ok shown left ∧
      Mirrors width height left := by
  obtain ⟨framebuffer, renderer⟩ := screen
  have reshaped :=
    Framebuffer.reshape_of_room (show width * height ≤ Extent.room by omega) framebuffer
  obtain ⟨hostCalls, after, run, emptied⟩ := Renderer.setResolution_of_room windowed room
  exact ⟨_, _, performThenRender_of_ok reshaped (receiveAll_singleton run),
    mirrors_of_blank width_pos height_pos emptied⟩

/-- A new size for whose picture there is no room is refused: by the framebuffer if there is
no room for the cells either, else by the renderer. -/
theorem resize_of_no_room (windowed : screen.renderer.window.isSome = true)
    (full : Extent.room < width * height * 3) :
    ∃ fault left, Screen.resize width height screen = .error fault left ∧
      (fault = .tooLarge ∨ fault = .outOfMemory) := by
  obtain ⟨framebuffer, renderer⟩ := screen
  rcases Nat.lt_or_ge Extent.room (width * height) with cells | room
  · obtain ⟨fault, left, refused, kind⟩ := Framebuffer.reshape_of_no_room cells framebuffer
    exact ⟨fault, _, performThenRender_of_error refused, kind⟩
  · have reshaped := Framebuffer.reshape_of_room room framebuffer
    obtain ⟨fault, refused, kind⟩ := Renderer.setResolution_of_no_room windowed full
    exact ⟨fault, _, performThenRender_of_refused reshaped (bind_of_error refused), kind⟩

/-- **A new size is served or refused**, and after it is served there is a mirror. -/
theorem serve_resize (windowed : screen.renderer.window.isSome = true) {width height : Int}
    (width_pos : 0 < width) (height_pos : 0 < height) :
    (∃ width' height' left, serve (.resize width height) screen = .ok () left ∧
      Mirrors width' height' left) ∨
    ((Request.resize width height).Roomless ∧
      ∃ fault left, serve (.resize width height) screen = .error fault left ∧
        (fault = .tooLarge ∨ fault = .outOfMemory)) := by
  obtain ⟨width, rfl⟩ := Int.eq_ofNat_of_zero_le (Int.le_of_lt width_pos)
  obtain ⟨height, rfl⟩ := Int.eq_ofNat_of_zero_le (Int.le_of_lt height_pos)
  rcases Nat.lt_or_ge Extent.room (width * height * 3) with full | room
  · obtain ⟨fault, left, refused, kind⟩ := resize_of_no_room windowed full
    exact Or.inr ⟨Int.ofNat_lt.2 full, fault, left, bind_of_error refused, kind⟩
  · exact Or.inl (served_of_mirrors (mirrors_of_resize windowed (Int.ofNat_lt.1 width_pos)
      (Int.ofNat_lt.1 height_pos) room))

/-! ## Every request -/

/-- **A request is served or asks for too much.** A screen that mirrors its display serves
every request and mirrors its display again; only a size for which there is no room is
refused, and that before a pixel of the picture is touched. -/
theorem Mirrors.serve (mirrors : Mirrors width height screen) {request : Request}
    (positive : request.Positive) :
    (∃ width height left, Screen.serve request screen = .ok () left ∧
      Mirrors width height left) ∨
    (request.Roomless ∧ ∃ fault left, Screen.serve request screen = .error fault left ∧
      (fault = .tooLarge ∨ fault = .outOfMemory)) := by
  cases request with
  | resize newWidth newHeight =>
    -- The picture is made anew, so of the old one only the window matters.
    obtain ⟨picture, canvas, -⟩ := mirrors.picture
    exact serve_resize canvas.windowed positive.1 positive.2
  | toggle x y => exact Or.inl (served_of_mirrors (mirrors.toggle x y))
  | clear => exact Or.inl (served_of_mirrors mirrors.clear)
  | render => exact Or.inl (served_of_mirrors mirrors.render)
  | refresh => exact Or.inl (served_of_mirrors mirrors.refresh)
  | report fps ops => exact Or.inl (served_of_mirrors (mirrors.report fps ops))

/-- There is a new screen of any size that there is room for, and it mirrors its display. -/
theorem mirrors_of_create (windowed : renderer.window.isSome = true) (width_pos : 0 < width)
    (height_pos : 0 < height) (room : width * height * 3 ≤ Extent.room) :
    ∃ screen calls, create (some renderer) width height = .ok (screen, calls) ∧
      Mirrors width height screen := by
  -- The renderer is told the title before the size; a title is no part of the picture.
  let titled : Renderer := { renderer with title := Framebuffer.title 0 0 }
  have seen : titled.window.isSome = true := windowed
  obtain ⟨hostCalls, after, run, emptied⟩ := Renderer.setResolution_of_room seen room
  have followed : Renderer.receiveAll (Framebuffer.opening width height) renderer =
      .ok _ after := (bind_of_ok rfl).trans (bind_of_ok (receiveAll_singleton run))
  refine ⟨⟨Framebuffer.blank width height, after⟩, Framebuffer.opening width height, ?_,
    mirrors_of_blank width_pos height_pos emptied⟩
  rw [create, Framebuffer.create_of_room (show width * height ≤ Extent.room by omega)]
  dsimp only
  rw [followed]

/-- There is no new screen of a size for whose picture there is no room. -/
theorem create_of_no_room (windowed : renderer.window.isSome = true)
    (full : Extent.room < width * height * 3) :
    ∃ fault, create (some renderer) width height = .error (.fault fault) := by
  rcases Nat.lt_or_ge Extent.room (width * height) with cells | room
  · obtain ⟨fault, refused⟩ := Framebuffer.create_of_no_room cells
    refine ⟨fault, ?_⟩
    rw [create, refused]
  · let titled : Renderer := { renderer with title := Framebuffer.title 0 0 }
    have seen : titled.window.isSome = true := windowed
    obtain ⟨fault, refused, -⟩ := Renderer.setResolution_of_no_room seen full
    have followed : Renderer.receiveAll (Framebuffer.opening width height) renderer =
        .error fault titled := (bind_of_ok rfl).trans (bind_of_error (bind_of_error refused))
    refine ⟨fault, ?_⟩
    rw [create, Framebuffer.create_of_room room]
    dsimp only
    rw [followed]

/-- **A screen in use mirrors its display.** -/
theorem InUse.mirrors (inUse : InUse screen) : ∃ width height, Mirrors width height screen := by
  -- What was made or served is known to exist; it can only be the mirror that is left.
  induction inUse with
  | @created renderer width height screen calls windowed width_pos height_pos made =>
    obtain ⟨width, rfl⟩ := Int.eq_ofNat_of_zero_le (Int.le_of_lt width_pos)
    obtain ⟨height, rfl⟩ := Int.eq_ofNat_of_zero_le (Int.le_of_lt height_pos)
    rcases Nat.lt_or_ge Extent.room (width * height * 3) with full | room
    · obtain ⟨fault, refused⟩ := create_of_no_room windowed full
      exact nomatch made.symm.trans refused
    · obtain ⟨screen, calls, created, mirrors⟩ := mirrors_of_create windowed
        (Int.ofNat_lt.1 width_pos) (Int.ofNat_lt.1 height_pos) room
      cases made.symm.trans created
      exact ⟨width, height, mirrors⟩
  | resized reached width_pos height_pos run =>
    rcases serve_resize reached.windowed width_pos height_pos with
      ⟨width, height, left, served, mirrors⟩ | ⟨-, refusal⟩
    · cases run.symm.trans served
      exact ⟨width, height, mirrors⟩
    · obtain ⟨fault, left, refused, -⟩ := refusal
      exact nomatch run.symm.trans refused
  | served inUse positive run ih =>
    obtain ⟨width, height, mirrors⟩ := ih
    rcases mirrors.serve positive with ⟨width, height, left, served, again⟩ | ⟨-, refusal⟩
    · cases run.symm.trans served
      exact ⟨width, height, again⟩
    · obtain ⟨fault, left, refused, -⟩ := refusal
      exact nomatch run.symm.trans refused

/-- **The picture mirrors the display**, from the making of a screen on, or from the last size
that it took on, until a size is refused. A screen in use has a picture of three bytes for
each cell of its display. The three bytes of a pixel are those of the foreground where the
cell is not zero, and those of the background where it is. Every request is served and
leaves a screen in use, so that no pixel is ever refused its colour; only a size for which
there is no room is refused, and for no other reason. -/
theorem InUse.mirror (inUse : InUse screen) :
    0 < screen.framebuffer.width ∧ 0 < screen.framebuffer.height ∧
    (∃ window, screen.renderer.window = some window ∧
      (window.picture.size : Int) = 3 * screen.framebuffer.width * screen.framebuffer.height ∧
      ∀ x y : Int, 0 ≤ x → x < screen.framebuffer.width → 0 ≤ y → y < screen.framebuffer.height →
        let cell := (y * screen.framebuffer.width + x).toNat
        Window.pixelAt window.picture cell =
          Window.palette.getD (if screen.framebuffer.pixels.byteAt cell ≠ 0 then 1 else 0) []) ∧
    ∀ request : Request, request.Positive →
      (∃ left, serve request screen = .ok () left ∧ InUse left) ∨
      (request.Roomless ∧ ∃ fault left, serve request screen = .error fault left ∧
        (fault = .tooLarge ∨ fault = .outOfMemory)) := by
  obtain ⟨width, height, mirrors⟩ := inUse.mirrors
  have width_eq := mirrors.display.width_eq
  have height_eq := mirrors.display.height_eq
  have width_pos := mirrors.display.width_pos
  have height_pos := mirrors.display.height_pos
  obtain ⟨picture, canvas, colours⟩ := mirrors.picture
  obtain ⟨windowWidth, windowHeight, window⟩ := canvas.window
  refine ⟨by omega, by omega, ⟨_, window, ?_, fun x y x_nonneg x_lt y_nonneg y_lt => ?_⟩,
    fun request positive => ?_⟩
  · rw [width_eq, height_eq, Int.mul_assoc, Int.mul_comm, canvas.size]
    rfl
  · obtain ⟨x, rfl⟩ := Int.eq_ofNat_of_zero_le x_nonneg
    obtain ⟨y, rfl⟩ := Int.eq_ofNat_of_zero_le y_nonneg
    have inside := Framebuffer.place_lt (show x < width by omega) (show y < height by omega)
    have cell : (y * screen.framebuffer.width + x).toNat = y * width + x := by
      rw [width_eq]
      rfl
    rw [cell]
    dsimp only
    rw [colours _ inside, Window.shade]
    by_cases out : screen.framebuffer.pixels.byteAt (y * width + x) = 0
    · rw [out]
      rfl
    · rw [if_pos out, bne_iff_ne.2 out]
      rfl
  · rcases mirrors.serve positive with ⟨-, -, left, run, -⟩ | refusal
    · exact Or.inl ⟨left, run, inUse.served positive run⟩
    · exact Or.inr refusal

end OnHost

/-- A toggle to the left of the first pixel of a row lights the last one. -/
theorem mirror_of_toggle :
    letI := HostMemory.usual
    ∃ screen left, create (some ⟨"", 1, 0, 0, 512, some (Window.ofWidth 512)⟩) 2 1 =
        .ok (screen, Framebuffer.opening 2 1) ∧
      serve (.toggle (-1) 4) screen = .ok () left ∧
      ∃ window, left.renderer.window = some window ∧
        Window.pixelAt window.picture 1 = [0xDD, 0xDD, 0xDD] := by
  let _ := HostMemory.usual
  obtain ⟨screen, left, made, run, width, height, lit⟩ : ∃ screen left,
      create (some ⟨"", 1, 0, 0, 512, some (Window.ofWidth 512)⟩) 2 1 =
        .ok (screen, Framebuffer.opening 2 1) ∧
      serve (.toggle (-1) 4) screen = .ok () left ∧ left.framebuffer.width = 2 ∧
      left.framebuffer.height = 1 ∧ left.framebuffer.pixels.byteAt 1 = 0xFF :=
    ⟨_, _, rfl, rfl, rfl, rfl, rfl⟩
  have new : InUse screen := .created rfl (by decide) (by decide) made
  have inUse : InUse left := new.served (show (Request.toggle (-1) 4).Positive from trivial) run
  obtain ⟨-, -, ⟨window, shown, -, colours⟩, -⟩ := inUse.mirror
  have last := colours 1 0 (by decide) (by omega) (by decide) (by omega)
  rw [width] at last
  refine ⟨screen, left, made, run, window, shown, last.trans ?_⟩
  rw [show ((0 * 2 + 1 : Int)).toNat = 1 from rfl, lit]
  rfl

/-- **A size that is refused loses the mirror.** A screen of two by one pixels is asked for
two to the sixty-fourth. It refuses, with the new sides and the old picture. -/
theorem mirror_lost :
    letI := HostMemory.usual
    ∃ screen left, create (some ⟨"", 1, 0, 0, 512, some (Window.ofWidth 512)⟩) 2 1 =
        .ok (screen, Framebuffer.opening 2 1) ∧ InUse screen ∧
      serve (.resize 0x100000000 0x100000000) screen = .error .tooLarge left ∧ Reached left ∧
      ∃ window, left.renderer.window = some window ∧
        (window.picture.size : Int) ≠
          3 * left.framebuffer.width * left.framebuffer.height := by
  let _ := HostMemory.usual
  obtain ⟨screen, made, inside⟩ : ∃ screen,
      create (some ⟨"", 1, 0, 0, 512, some (Window.ofWidth 512)⟩) 2 1 =
        .ok (screen, Framebuffer.opening 2 1) ∧
      ∃ left, serve (.resize 0x100000000 0x100000000) screen = .error .tooLarge left ∧
        ∃ window, left.renderer.window = some window ∧ window.picture.size = 6 ∧
          left.framebuffer.width = 0x100000000 ∧ left.framebuffer.height = 0x100000000 :=
    ⟨_, rfl, _, rfl, _, rfl, rfl, rfl, rfl⟩
  obtain ⟨left, refused, window, shown, size, width, height⟩ := inside
  have reached : Reached screen := .created rfl (by decide) (by decide) made
  have lost := reached.asked
    (show (Request.resize 0x100000000 0x100000000).Positive from ⟨by decide, by decide⟩)
  rw [refused] at lost
  refine ⟨screen, left, made, .created rfl (by decide) (by decide) made, refused, lost, window,
    shown, ?_⟩
  rw [size, width, height]
  decide

end Screen
end Chip8
