import Chip8.Framebuffer
import Chip8.Proofs.Bank.Access
/-!
# Inverting dots of a framebuffer

On a framebuffer with positive sides (`Sound`) a toggle is never refused: it
inverts the dot that its coordinates wrap onto (`toggle_of_sound`). Drawing is
a list of dots inverted one after another, `invert`, and a pixel comes out
inverted as often as it is in the list (`pixel_invert`), hence at most once if
no dot is drawn twice (`pixel_invert_of_nodup`).
-/

namespace Chip8
namespace Framebuffer

/-- A framebuffer of positive sides, whose bank has one cell a pixel, each out
or lit with all its bits. -/
structure Sound (width height : Nat) (framebuffer : Framebuffer) : Prop where
  width_eq : framebuffer.width = width
  height_eq : framebuffer.height = height
  width_pos : 0 < width
  height_pos : 0 < height
  pixels : framebuffer.pixels.HasCells (width * height)
  twoValued : ∀ k, framebuffer.pixels.byteAt k = 0 ∨ framebuffer.pixels.byteAt k = 0xFF

/-- The byte of a pixel, given by its column and its row. -/
def pixel (dot : Nat × Nat) (framebuffer : Framebuffer) : UInt8 :=
  framebuffer.pixels.byteAt (dot.2 * framebuffer.width.toNat + dot.1)

/-- The framebuffer with one dot inverted. -/
def flip (dot : Nat × Nat) (framebuffer : Framebuffer) : Framebuffer :=
  { framebuffer with
    pixels := framebuffer.pixels.written (dot.2 * framebuffer.width.toNat + dot.1)
      [framebuffer.pixel dot ^^^ 0xFF] }

/-- The framebuffer with dots inverted one after another. -/
def invert (dots : List (Nat × Nat)) (framebuffer : Framebuffer) : Framebuffer :=
  dots.foldl (fun framebuffer dot => framebuffer.flip dot) framebuffer

/-- Some dot of the list is lit when its turn comes. -/
def strikes : List (Nat × Nat) → Framebuffer → Bool
  | [], _ => false
  | dot :: dots, framebuffer => framebuffer.pixel dot != 0 || strikes dots (framebuffer.flip dot)

variable {width height : Nat} {framebuffer : Framebuffer}

theorem sound_blank (width_pos : 0 < width) (height_pos : 0 < height) :
    (blank width height).Sound width height := by
  have cells := Bank.hasCells_blank (width * height)
  rw [Int.natCast_mul] at cells
  exact ⟨rfl, rfl, width_pos, height_pos, cells, fun k => Or.inl (Bank.byteAt_blank _ k)⟩

/-- Whether a repaint is wanted is of no account to the pixels. -/
theorem Sound.render (sound : framebuffer.Sound width height) :
    framebuffer.render.Sound width height :=
  ⟨sound.width_eq, sound.height_eq, sound.width_pos, sound.height_pos, sound.pixels,
    sound.twoValued⟩

theorem Sound.sides (sound : framebuffer.Sound width height) :
    framebuffer.width.toNat = width ∧ framebuffer.height.toNat = height := by
  rw [sound.width_eq, sound.height_eq]
  exact ⟨rfl, rfl⟩

/-! ## One dot -/

theorem Sound.flip (sound : framebuffer.Sound width height) (dot : Nat × Nat) :
    (framebuffer.flip dot).Sound width height := by
  refine ⟨sound.width_eq, sound.height_eq, sound.width_pos, sound.height_pos,
    sound.pixels.written _ _, fun k => ?_⟩
  rw [Framebuffer.flip, Bank.byteAt_written]
  split
  case isTrue under =>
    obtain ⟨low, high, -⟩ := under
    -- the byte under the block is a pixel inverted, and a pixel has two values
    rw [List.length_singleton] at high
    rw [show k - (dot.2 * framebuffer.width.toNat + dot.1) = 0 by omega, List.getD_cons_zero]
    rcases sound.twoValued (dot.2 * framebuffer.width.toNat + dot.1) with out | lit
    · rw [pixel, out]
      exact Or.inr rfl
    · rw [pixel, lit]
      exact Or.inl rfl
  case isFalse => exact sound.twoValued k

/-- Rows laid end to end do not overlap. -/
theorem place_injective {x y x' y' : Nat} (hx : x < width) (hx' : x' < width)
    (h : y * width + x = y' * width + x') : x = x' ∧ y = y' := by
  have column := congrArg (· % width) h
  have row := congrArg (· / width) h
  simp only [Nat.mul_add_mod_self_right, Nat.mod_eq_of_lt hx, Nat.mod_eq_of_lt hx'] at column
  simp only [Nat.add_comm _ x, Nat.add_comm _ x', Nat.add_mul_div_right _ _ (Nat.zero_lt_of_lt hx),
    Nat.div_eq_of_lt hx, Nat.div_eq_of_lt hx', Nat.zero_add] at row
  exact ⟨column, row⟩

/-- The place of a pixel lies in the bank. -/
theorem place_lt {x y : Nat} (hx : x < width) (hy : y < height) :
    y * width + x < width * height := by
  calc y * width + x < y * width + width := by omega
    _ = (y + 1) * width := by rw [Nat.succ_mul]
    _ ≤ height * width := Nat.mul_le_mul_right width hy
    _ = width * height := Nat.mul_comm height width

/-- **One dot is inverted** and no other pixel changes. -/
theorem pixel_flip (sound : framebuffer.Sound width height) {dot other : Nat × Nat}
    (column : dot.1 < width) (other_column : other.1 < width) (other_row : other.2 < height) :
    (framebuffer.flip dot).pixel other =
      if other = dot then framebuffer.pixel other ^^^ 0xFF else framebuffer.pixel other := by
  have side := sound.sides.1
  have inside : other.2 * width + other.1 < framebuffer.pixels.cells.size := by
    rw [sound.pixels.size_cells]
    exact place_lt other_column other_row
  rw [pixel, Framebuffer.flip, Bank.byteAt_written, side, List.length_singleton]
  by_cases same : other = dot
  · subst same
    rw [if_pos ⟨by omega, by omega, inside⟩, if_pos rfl, Nat.sub_self, List.getD_cons_zero]
  · rw [if_neg same, if_neg, pixel, side]
    rintro ⟨low, high, -⟩
    have := place_injective other_column column (show other.2 * width + other.1 =
      dot.2 * width + dot.1 by omega)
    exact same (Prod.ext this.1 this.2)

/-- **The pixels are the whole bank.** -/
theorem pixels_ext {other : Framebuffer} (sound : framebuffer.Sound width height)
    (sound' : other.Sound width height)
    (same : ∀ dot : Nat × Nat, dot.1 < width → dot.2 < height →
      framebuffer.pixel dot = other.pixel dot) :
    framebuffer.pixels = other.pixels := by
  have cells := sound.pixels.size_cells
  have cells' := sound'.pixels.size_cells
  have sizes : framebuffer.pixels.size = other.pixels.size :=
    sound.pixels.size_eq.trans sound'.pixels.size_eq.symm
  have bytes : framebuffer.pixels.cells = other.pixels.cells := by
    refine Array.ext (cells.trans cells'.symm) fun k inside inside' => ?_
    -- every cell is that of the dot whose place it is
    have place : k / width * width + k % width = k := Nat.div_add_mod' k width
    have row : k / width < height :=
      Nat.div_lt_of_lt_mul (Nat.lt_of_lt_of_eq inside cells)
    have byte := same (k % width, k / width) (Nat.mod_lt k sound.width_pos) row
    rw [pixel, pixel, sound.sides.1, sound'.sides.1, place, Bank.byteAt_eq_getD,
      Bank.byteAt_eq_getD, Array.getElem?_eq_getElem inside,
      Array.getElem?_eq_getElem inside'] at byte
    exact byte
  cases hf : framebuffer.pixels
  cases ho : other.pixels
  rw [hf, ho] at sizes bytes
  exact congr (congrArg Bank.mk sizes) bytes

/-! ## Toggles -/

/-- The place of a dot that coordinates wrap onto. -/
theorem wrapped_place (width_pos : 0 < width) (height_pos : 0 < height) (x y : Int) :
    (y.fmod height * width + x.fmod width).toNat =
        (y.fmod height).toNat * width + (x.fmod width).toNat ∧
      0 ≤ y.fmod height * width + x.fmod width ∧
      y.fmod height * width + x.fmod width < ((width * height : Nat) : Int) := by
  obtain ⟨a, ha⟩ := Int.eq_ofNat_of_zero_le (Int.fmod_nonneg_of_pos x (b := width) (by omega))
  obtain ⟨b, hb⟩ := Int.eq_ofNat_of_zero_le (Int.fmod_nonneg_of_pos y (b := height) (by omega))
  have column : a < width := by
    have := Int.fmod_lt_of_pos x (b := width) (by omega)
    omega
  have row : b < height := by
    have := Int.fmod_lt_of_pos y (b := height) (by omega)
    omega
  have inside := place_lt column row
  rw [ha, hb, ← Int.natCast_mul, ← Int.natCast_add]
  exact ⟨rfl, Int.natCast_nonneg _, Int.ofNat_lt.2 inside⟩

theorem onPixels_of_ok {α : Type} {operation : Operation Bank α} {result : α} {pixels : Bank}
    (h : operation framebuffer.pixels = .ok result pixels) :
    onPixels operation framebuffer = .ok result { framebuffer with pixels := pixels } := by
  rw [onPixels, h]

/-- **A toggle is never refused.** It inverts the dot that the coordinates
wrap onto, and tells whether that was lit. -/
theorem toggle_of_sound (sound : framebuffer.Sound width height) (x y : Int) :
    let dot := ((x.fmod width).toNat, (y.fmod height).toNat)
    toggle x y framebuffer =
      .ok (framebuffer.pixel dot != 0,
          [.setPixel (x.fmod width) (y.fmod height)
            (if framebuffer.pixel dot ^^^ 0xFF != 0 then 1 else 0)])
        (framebuffer.flip dot) := by
  intro dot
  obtain ⟨place, nonneg, lt⟩ := wrapped_place sound.width_pos sound.height_pos x y
  have sides : ¬ (framebuffer.width = 0 ∨ framebuffer.height = 0) := by
    have := sound.width_pos
    have := sound.height_pos
    rw [sound.width_eq, sound.height_eq]
    omega
  have index : (y.fmod height * width + x.fmod width).toNat =
      dot.2 * framebuffer.width.toNat + dot.1 := by
    rw [sound.width_eq, Int.toNat_natCast, place]
  have byte : (framebuffer.pixel dot ^^^ 0xFF).toNat ≤ 255 := by
    have := (framebuffer.pixel dot ^^^ 0xFF).toNat_lt
    omega
  have read : onPixels (Bank.read (y.fmod height * width + x.fmod width)) framebuffer =
      .ok (framebuffer.pixel dot) framebuffer := by
    rw [onPixels_of_ok (Bank.read_of_lt sound.pixels nonneg lt), index]
    rfl
  have write : onPixels (Bank.write (y.fmod height * width + x.fmod width)
      (framebuffer.pixel dot ^^^ 0xFF).toNat) framebuffer = .ok () (framebuffer.flip dot) := by
    rw [onPixels_of_ok (Bank.write_of_lt sound.pixels nonneg lt byte), index, UInt8.ofNat_toNat]
    rfl
  change (if framebuffer.width = 0 ∨ framebuffer.height = 0 then _ else
    onPixels (Bank.read (y.fmod framebuffer.height * framebuffer.width + x.fmod framebuffer.width))
      >>= fun byte => onPixels (Bank.write
        (y.fmod framebuffer.height * framebuffer.width + x.fmod framebuffer.width)
          (byte ^^^ 0xFF).toNat)
      >>= fun _ => pure (byte != 0, [RendererCall.setPixel (x.fmod framebuffer.width)
        (y.fmod framebuffer.height) (if byte ^^^ 0xFF != 0 then 1 else 0)]))
    framebuffer = _
  rw [if_neg sides, sound.width_eq, sound.height_eq, Operation.bind_of_ok read,
    Operation.bind_of_ok write]
  rfl

/-! ## Many dots -/

theorem Sound.invert (sound : framebuffer.Sound width height) (dots : List (Nat × Nat)) :
    (framebuffer.invert dots).Sound width height := by
  induction dots generalizing framebuffer with
  | nil => exact sound
  | cons dot dots ih => exact ih (sound.flip dot)

theorem invert_append (front back : List (Nat × Nat)) (framebuffer : Framebuffer) :
    framebuffer.invert (front ++ back) = (framebuffer.invert front).invert back :=
  List.foldl_append

theorem strikes_append (front back : List (Nat × Nat)) (framebuffer : Framebuffer) :
    framebuffer.strikes (front ++ back) =
      (framebuffer.strikes front || (framebuffer.invert front).strikes back) := by
  induction front generalizing framebuffer with
  | nil => rfl
  | cons dot front ih =>
    rw [List.cons_append, strikes, strikes, ih, Bool.or_assoc]
    rfl

/-- Inverting dots touches nothing but the pixels. -/
theorem invert_eq (dots : List (Nat × Nat)) (framebuffer : Framebuffer) :
    framebuffer.invert dots = { framebuffer with pixels := (framebuffer.invert dots).pixels } := by
  induction dots generalizing framebuffer with
  | nil => rfl
  | cons dot dots ih => exact ih (framebuffer.flip dot)

/-- **A pixel is inverted as often as it is drawn.** -/
theorem pixel_invert (sound : framebuffer.Sound width height) {dots : List (Nat × Nat)}
    (columns : ∀ dot ∈ dots, dot.1 < width) {other : Nat × Nat}
    (other_column : other.1 < width) (other_row : other.2 < height) :
    (framebuffer.invert dots).pixel other =
      if dots.count other % 2 = 1 then framebuffer.pixel other ^^^ 0xFF
      else framebuffer.pixel other := by
  -- the count grows by one exactly where the first dot inverts the pixel
  induction dots generalizing framebuffer with
  | nil => rfl
  | cons dot dots ih =>
    have rest := ih (sound.flip dot) fun d hd => columns d (List.mem_cons_of_mem dot hd)
    have first := pixel_flip sound (columns dot List.mem_cons_self) other_column other_row
    rw [first] at rest
    rw [show framebuffer.invert (dot :: dots) = (framebuffer.flip dot).invert dots from rfl, rest,
      List.count_cons]
    by_cases same : other = dot
    · subst same
      rw [if_pos rfl, beq_self_eq_true, if_pos rfl, UInt8.xor_assoc, UInt8.xor_self,
        UInt8.xor_zero]
      by_cases odd : dots.count other % 2 = 1
      · rw [if_pos odd, if_neg (by omega)]
      · rw [if_neg odd, if_pos (by omega)]
    · rw [beq_false_of_ne (Ne.symm same), if_neg Bool.false_ne_true, Nat.add_zero]
      rw [if_neg same]

/-- Where no dot is drawn twice, exactly the pixels drawn are inverted. -/
theorem pixel_invert_of_nodup (sound : framebuffer.Sound width height)
    {dots : List (Nat × Nat)} (columns : ∀ dot ∈ dots, dot.1 < width) (nodup : dots.Nodup)
    {other : Nat × Nat} (other_column : other.1 < width) (other_row : other.2 < height) :
    (framebuffer.invert dots).pixel other =
      if other ∈ dots then framebuffer.pixel other ^^^ 0xFF else framebuffer.pixel other := by
  rw [pixel_invert sound columns other_column other_row, nodup.count]
  by_cases drawn : other ∈ dots
  · rw [if_pos drawn, if_pos rfl, if_pos drawn]
  · rw [if_neg drawn, if_neg (by omega), if_neg drawn]

/-- Where no dot is drawn twice, one that is lit when its turn comes was lit at the
start. -/
theorem strikes_iff_of_nodup (sound : framebuffer.Sound width height)
    {dots : List (Nat × Nat)} (inside : ∀ dot ∈ dots, dot.1 < width ∧ dot.2 < height)
    (nodup : dots.Nodup) :
    framebuffer.strikes dots = true ↔ ∃ dot ∈ dots, framebuffer.pixel dot ≠ 0 := by
  induction dots generalizing framebuffer with
  | nil => exact ⟨fun hit => absurd hit Bool.false_ne_true, fun ⟨_, drawn, _⟩ => nomatch drawn⟩
  | cons dot dots ih =>
    obtain ⟨fresh, nodup⟩ := List.nodup_cons.1 nodup
    have rest := ih (sound.flip dot) (fun d hd => inside d (List.mem_cons_of_mem dot hd)) nodup
    have column := (inside dot List.mem_cons_self).1
    -- the first dot is none of the others, so they are as lit as at the start
    have same : ∀ other ∈ dots, (framebuffer.flip dot).pixel other = framebuffer.pixel other := by
      intro other drawn
      obtain ⟨other_column, other_row⟩ := inside other (List.mem_cons_of_mem dot drawn)
      rw [pixel_flip sound column other_column other_row, if_neg]
      rintro rfl
      exact fresh drawn
    simp only [strikes, Bool.or_eq_true, bne_iff_ne, rest, List.mem_cons, or_and_right, exists_or,
      exists_eq_left]
    exact or_congr_right (exists_congr fun other => and_congr_right fun drawn =>
      by rw [same other drawn])

/-! ## Clearing -/

/-- The framebuffer with every pixel out and a repaint wanted. -/
def cleared (framebuffer : Framebuffer) : Framebuffer :=
  { framebuffer with
    pixels := Bank.blank (framebuffer.width * framebuffer.height), dirty := true }

theorem wipe_of_sound (sound : framebuffer.Sound width height) :
    wipe framebuffer = .ok [.blank framebuffer.width framebuffer.height]
      { framebuffer.cleared with dirty := framebuffer.dirty } := by
  have area : ((width * height : Nat) : Int) = framebuffer.width * framebuffer.height := by
    rw [sound.width_eq, sound.height_eq, Int.natCast_mul]
  have pixels := onPixels_of_ok (Bank.clear_of_hasCells sound.pixels)
  rw [area] at pixels
  rw [wipe, Operation.bind_of_ok pixels]
  rfl

theorem clear_of_sound (sound : framebuffer.Sound width height) :
    clear framebuffer =
      .ok [.blank framebuffer.width framebuffer.height] framebuffer.cleared := by
  rw [clear, thenRender, Operation.bind_of_ok (wipe_of_sound sound)]
  rfl

theorem Sound.cleared (sound : framebuffer.Sound width height) :
    framebuffer.cleared.Sound width height := by
  have := sound_blank sound.width_pos sound.height_pos
  refine ⟨sound.width_eq, sound.height_eq, sound.width_pos, sound.height_pos, ?_, ?_⟩
  · rw [Framebuffer.cleared, sound.width_eq, sound.height_eq]
    exact this.pixels
  · exact fun k => Or.inl (Bank.byteAt_blank _ k)

end Framebuffer
end Chip8
