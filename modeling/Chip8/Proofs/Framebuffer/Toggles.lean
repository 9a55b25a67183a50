import Chip8.Proofs.Framebuffer.Sizes
/-!
# Toggles of a framebuffer

A framebuffer of positive sides that was made or took its size, and was then toggled and
cleared in any order (`InUse`), is sound. So a toggle of whatever coordinates is granted, and
inverts the one pixel that they wrap onto (`InUse.toggle_flips`). The pixels that toggles
leave on a clear framebuffer are told by a count of them (`getPixel_toggled`).
-/

namespace Chip8
namespace Framebuffer

open Operation

/-- **The framebuffers in use** of given sides. -/
inductive InUse [HostMemory] (width height : Nat) : Framebuffer → Prop where
  /-- A new one. -/
  | created {framebuffer : Framebuffer} {calls : List RendererCall}
      (made : create width height = .ok (framebuffer, calls)) : InUse width height framebuffer
  /-- One that took these sides, whatever it was before. -/
  | resized {old framebuffer : Framebuffer} {calls : List RendererCall}
      (run : resize width height old = .ok calls framebuffer) : InUse width height framebuffer
  /-- One after a toggle. -/
  | toggled {framebuffer : Framebuffer} (inUse : InUse width height framebuffer) (x y : Int) :
      InUse width height (left (toggle x y framebuffer))
  /-- One after it was cleared. -/
  | cleared {framebuffer : Framebuffer} (inUse : InUse width height framebuffer) :
      InUse width height (left (clear framebuffer))

/-- The dot that coordinates wrap onto. -/
def dotOf (width height : Nat) (place : Int × Int) : Nat × Nat :=
  ((place.1.fmod width).toNat, (place.2.fmod height).toNat)

/-- The framebuffer after toggles made one after another. -/
def toggleAll (places : List (Int × Int)) (framebuffer : Framebuffer) : Framebuffer :=
  afterAll (fun place => toggle place.1 place.2) places framebuffer

variable {width height : Nat} {framebuffer : Framebuffer} {calls : List RendererCall}

/-! ## Framebuffers in use -/

theorem sound_of_create [HostMemory] (width_pos : 0 < width) (height_pos : 0 < height)
    (made : create width height = .ok (framebuffer, calls)) :
    framebuffer.Sound width height := by
  rcases Nat.lt_or_ge Extent.room (width * height) with full | room
  · obtain ⟨fault, refused⟩ := create_of_no_room full
    rw [made] at refused
    cases refused
  · rw [create_of_room room] at made
    injection made with same
    injection same with same
    exact same ▸ sound_blank width_pos height_pos

theorem sound_of_resize [HostMemory] {old : Framebuffer} (width_pos : 0 < width)
    (height_pos : 0 < height) (run : resize width height old = .ok calls framebuffer) :
    framebuffer.Sound width height := by
  rcases Nat.lt_or_ge Extent.room (width * height) with full | room
  · obtain ⟨fault, left, refused, -⟩ := resize_of_no_room full old
    rw [run] at refused
    cases refused
  · rw [resize_of_room room] at run
    injection run with _ same
    exact same ▸ sound_blank width_pos height_pos

/-- **A framebuffer in use is sound.** -/
theorem InUse.sound [HostMemory] (inUse : InUse width height framebuffer) (width_pos : 0 < width)
    (height_pos : 0 < height) : framebuffer.Sound width height := by
  induction inUse with
  | created made => exact sound_of_create width_pos height_pos made
  | resized run => exact sound_of_resize width_pos height_pos run
  | toggled _ x y sound =>
    rw [toggle_of_sound sound]
    exact sound.flip _
  | cleared _ sound =>
    rw [clear_of_sound sound]
    exact sound.cleared

/-! ## Pixels -/

theorem getPixel_of_sound (sound : framebuffer.Sound width height) {column row : Nat}
    (column_lt : column < width) (row_lt : row < height) :
    getPixel column row framebuffer =
      .ok (framebuffer.pixel (column, row) != 0) framebuffer := by
  have inside := place_lt column_lt row_lt
  have place : location column row framebuffer = ((row * width + column : Nat) : Int) := by
    rw [location, sound.width_eq]
    rfl
  have read : onPixels (Bank.read (location column row framebuffer)) framebuffer =
      .ok (framebuffer.pixel (column, row)) framebuffer := by
    rw [place, onPixels_of_ok (Bank.read_of_lt sound.pixels (by omega) (by omega)), pixel,
      sound.sides.1]
    rfl
  rw [getPixel, get_bind_apply, bind_of_ok read]
  rfl

/-- A pixel inverted is lit if it was out. -/
theorem lit_inverted (sound : framebuffer.Sound width height) (dot : Nat × Nat) :
    (framebuffer.pixel dot ^^^ 0xFF != 0) = !(framebuffer.pixel dot != 0) := by
  rcases sound.twoValued (dot.2 * framebuffer.width.toNat + dot.1) with out | lit
  · rw [pixel, out]
    rfl
  · rw [pixel, lit]
    rfl

theorem dotOf_lt (width_pos : 0 < width) (height_pos : 0 < height) (place : Int × Int) :
    (dotOf width height place).1 < width ∧ (dotOf width height place).2 < height := by
  have column := Int.fmod_lt_of_pos place.1 (show 0 < (width : Int) by omega)
  have row := Int.fmod_lt_of_pos place.2 (show 0 < (height : Int) by omega)
  rw [dotOf]
  omega

/-- A dot is the one that coordinates wrap onto if it has the coordinates wrapped. -/
theorem eq_dotOf_iff (width_pos : 0 < width) (height_pos : 0 < height) (place : Int × Int)
    (dot : Nat × Nat) :
    dot = dotOf width height place ↔
      (dot.1 : Int) = place.1.fmod width ∧ (dot.2 : Int) = place.2.fmod height := by
  have column := Int.fmod_nonneg_of_pos place.1 (show 0 < (width : Int) by omega)
  have row := Int.fmod_nonneg_of_pos place.2 (show 0 < (height : Int) by omega)
  rw [dotOf, Prod.ext_iff]
  omega

/-- Toggles invert the dots that they wrap onto. -/
theorem toggleAll_eq_invert (sound : framebuffer.Sound width height)
    (places : List (Int × Int)) :
    framebuffer.toggleAll places = framebuffer.invert (places.map (dotOf width height)) := by
  induction places generalizing framebuffer with
  | nil => rfl
  | cons place places ih =>
    have first : left (toggle place.1 place.2 framebuffer) =
        framebuffer.flip (dotOf width height place) := by
      rw [toggle_of_sound sound]
      rfl
    rw [toggleAll, afterAll, List.foldl_cons, first]
    exact ih (sound.flip _)

/-- **One pixel is inverted**, and every other one is as lit as before. -/
theorem lit_flip (sound : framebuffer.Sound width height) {dot other : Nat × Nat}
    (column : dot.1 < width) (other_column : other.1 < width) (other_row : other.2 < height) :
    ((framebuffer.flip dot).pixel other != 0) =
      if other = dot then !(framebuffer.pixel other != 0) else framebuffer.pixel other != 0 := by
  rw [pixel_flip sound column other_column other_row]
  split
  · exact lit_inverted sound other
  · rfl

/-- On a clear framebuffer the pixels are lit that were inverted an odd number of times. -/
theorem lit_invert_cleared (sound : framebuffer.Sound width height) {dots : List (Nat × Nat)}
    (columns : ∀ dot ∈ dots, dot.1 < width) {other : Nat × Nat}
    (other_column : other.1 < width) (other_row : other.2 < height) :
    ((framebuffer.cleared.invert dots).pixel other != 0) = decide (dots.count other % 2 = 1) := by
  have out : framebuffer.cleared.pixel other = 0 := Bank.byteAt_blank _ _
  rw [pixel_invert sound.cleared columns other_column other_row, out]
  by_cases odd : dots.count other % 2 = 1
  · rw [if_pos odd, decide_eq_true odd]
    rfl
  · rw [if_neg odd, decide_eq_false odd]
    rfl

/-- **The pixels that toggles leave on a clear framebuffer**, told by how many of them wrap
onto each. -/
theorem getPixel_toggled (sound : framebuffer.Sound width height) (places : List (Int × Int))
    {column row : Nat} (column_lt : column < width) (row_lt : row < height) :
    let drawn := framebuffer.cleared.toggleAll places
    getPixel column row drawn =
      .ok (decide ((places.countP fun place =>
        (column : Int) = place.1.fmod width ∧ (row : Int) = place.2.fmod height) % 2 = 1))
        drawn := by
  intro drawn
  have width_pos := sound.width_pos
  have height_pos := sound.height_pos
  have columns : ∀ dot ∈ places.map (dotOf width height), dot.1 < width := by
    intro dot wrapped
    obtain ⟨place, -, rfl⟩ := List.mem_map.1 wrapped
    exact (dotOf_lt width_pos height_pos place).1
  have count : (places.map (dotOf width height)).count (column, row) =
      places.countP fun place =>
        (column : Int) = place.1.fmod width ∧ (row : Int) = place.2.fmod height := by
    rw [List.count_eq_countP, List.countP_map]
    refine List.countP_congr fun place _ => ?_
    rw [Function.comp_apply, beq_iff_eq, decide_eq_true_iff, eq_comm]
    exact eq_dotOf_iff width_pos height_pos place (column, row)
  have inverted : drawn = framebuffer.cleared.invert (places.map (dotOf width height)) :=
    toggleAll_eq_invert sound.cleared places
  rw [inverted, getPixel_of_sound (sound.cleared.invert _) column_lt row_lt,
    lit_invert_cleared sound columns column_lt row_lt, count]

/-- **A toggle inverts one pixel and no other.** In a framebuffer in use, a toggle of any
coordinates is granted. It tells whether the pixel was lit that they wrap onto, has the
renderer draw that pixel in its new colour, and leaves it inverted and every other pixel as it
was. A framebuffer in use can always be cleared, and after toggles made on it then a pixel is
lit if an odd number of them wrapped onto it. -/
theorem InUse.toggle_flips [HostMemory] (inUse : InUse width height framebuffer)
    (width_pos : 0 < width) (height_pos : 0 < height) :
    (∀ x y : Int, ∃ lit after,
      toggle x y framebuffer =
        .ok (lit, [.setPixel (x.fmod width) (y.fmod height) (if lit then 0 else 1)]) after ∧
      getPixel (x.fmod width) (y.fmod height) framebuffer = .ok lit framebuffer ∧
      ∀ column row : Nat, column < width → row < height →
        ∃ old, getPixel column row framebuffer = .ok old framebuffer ∧
          getPixel column row after =
            .ok (if (column : Int) = x.fmod width ∧ (row : Int) = y.fmod height then !old else old)
              after) ∧
    ∃ calls cleared, clear framebuffer = .ok calls cleared ∧
      ∀ (places : List (Int × Int)) (column row : Nat), column < width → row < height →
        getPixel column row (cleared.toggleAll places) =
          .ok (decide ((places.countP fun place =>
            (column : Int) = place.1.fmod width ∧ (row : Int) = place.2.fmod height) % 2 = 1))
            (cleared.toggleAll places) := by
  have sound := inUse.sound width_pos height_pos
  refine ⟨fun x y => ?_, _, _, clear_of_sound sound, fun places column row =>
    getPixel_toggled sound places⟩
  have inside := dotOf_lt width_pos height_pos (x, y)
  obtain ⟨wrapped_column, wrapped_row⟩ :=
    (eq_dotOf_iff width_pos height_pos (x, y) (dotOf width height (x, y))).1 rfl
  refine ⟨framebuffer.pixel (dotOf width height (x, y)) != 0,
    framebuffer.flip (dotOf width height (x, y)), ?_, ?_, fun column row column_lt row_lt =>
      ⟨framebuffer.pixel (column, row) != 0, getPixel_of_sound sound column_lt row_lt, ?_⟩⟩
  · have toggled := toggle_of_sound sound x y
    have colour := lit_inverted sound (dotOf width height (x, y))
    rw [dotOf] at colour ⊢
    rw [toggled, colour]
    cases framebuffer.pixel ((x.fmod width).toNat, (y.fmod height).toNat) != 0 <;> rfl
  · rw [← wrapped_column, ← wrapped_row]
    exact getPixel_of_sound sound inside.1 inside.2
  · rw [getPixel_of_sound (sound.flip _) column_lt row_lt, lit_flip sound inside.1 column_lt row_lt]
    by_cases same : (column, row) = dotOf width height (x, y)
    · rw [if_pos same, if_pos ((eq_dotOf_iff width_pos height_pos (x, y) _).1 same)]
    · rw [if_neg same, if_neg fun wraps =>
        same ((eq_dotOf_iff width_pos height_pos (x, y) _).2 wraps)]

/-- On three by two pixels the toggle of a pixel beyond two edges lights the last one. Two
toggles of it put it out again, and a third one lights it. -/
theorem toggle_flips_of_corner :
    letI := HostMemory.usual
    ∃ framebuffer after cleared calls, InUse 3 2 framebuffer ∧
      toggle (-1) 5 framebuffer = .ok (false, [.setPixel 2 1 1]) after ∧
      getPixel 2 1 after = .ok true after ∧ getPixel 1 1 after = .ok false after ∧
      clear framebuffer = .ok calls cleared ∧
      getPixel 2 1 (cleared.toggleAll [(-1, 5), (2, 1)]) =
        .ok false (cleared.toggleAll [(-1, 5), (2, 1)]) ∧
      getPixel 2 1 (cleared.toggleAll [(-1, 5), (2, 1), (5, -1)]) =
        .ok true (cleared.toggleAll [(-1, 5), (2, 1), (5, -1)]) := by
  let _ := HostMemory.usual
  have made : create 3 2 = .ok (blank 3 2, opening 3 2) := rfl
  have inUse : InUse 3 2 (blank 3 2) := .created made
  obtain ⟨toggles, calls, cleared, clears, drawn⟩ :=
    inUse.toggle_flips (show 0 < 3 by decide) (show 0 < 2 by decide)
  obtain ⟨lit, after, run, seen, pixels⟩ := toggles (-1) 5
  have out : ∀ column < 3, getPixel (column : Nat) 1 (blank 3 2) = .ok false (blank 3 2) := by
    intro column column_lt
    match column, column_lt with
    | 0, _ | 1, _ | 2, _ => rfl
  have unlit : lit = false := by
    have corner : getPixel 2 1 (blank 3 2) = .ok lit (blank 3 2) := seen
    injection corner.symm.trans (out 2 (by decide))
  have shown : ∀ column : Nat, column < 3 →
      getPixel column 1 after = .ok (decide (column = 2)) after := by
    intro column column_lt
    obtain ⟨old, before, now⟩ := pixels column 1 column_lt (by decide)
    injection before.symm.trans (out column column_lt) with dark
    have inverted : ∀ column < 3, (if ((column : Nat) : Int) = Int.fmod (-1) (3 : Nat) ∧
        ((1 : Nat) : Int) = Int.fmod 5 (2 : Nat) then !false else false) =
          decide (column = 2) := by decide
    rw [dark, inverted column column_lt] at now
    exact now
  subst unlit
  exact ⟨blank 3 2, after, cleared, calls, inUse, run, shown 2 (by decide), shown 1 (by decide),
    clears, drawn _ 2 1 (by decide) (by decide), drawn _ 2 1 (by decide) (by decide)⟩

end Framebuffer
end Chip8
