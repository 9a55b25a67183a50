import Chip8.Proofs.Framebuffer.Inversion
/-!
# Sizes of a framebuffer

A bank, and with it a framebuffer, can be made in any size that there is room for and takes
any such size later on; all pixels are out then. A size for which there is no room is
refused.
-/

namespace Chip8

namespace Bank

variable {area : Nat}

/-- A bank takes any size that there is room for, with zeros for contents. -/
theorem resize_of_room [HostMemory] (room : area ≤ Extent.room) (bank : Bank) :
    resize area bank = .ok () (blank area) := by
  have made : create area = .ok (blank area) := by
    rw [create, Extent.check_of_room room]
    rfl
  rw [resize, made]
  rfl

/-- A size for which there is no room is refused. -/
theorem resize_of_no_room [HostMemory] (full : Extent.room < area) (bank : Bank) :
    ∃ fault, resize area bank = .error fault bank ∧ (fault = .tooLarge ∨ fault = .outOfMemory) := by
  obtain ⟨fault, refused, kind⟩ := Extent.check_of_gt full
  refine ⟨fault, ?_, kind⟩
  have made : create area = .error fault := by
    rw [create, refused]
    rfl
  rw [resize, made]
  rfl

end Bank

namespace Framebuffer

open Operation

variable {width height : Nat} {framebuffer : Framebuffer}

theorem onPixels_of_error {α : Type} {operation : Operation Bank α} {fault : Fault} {left : Bank}
    (run : operation framebuffer.pixels = .error fault left) :
    onPixels operation framebuffer = .error fault { framebuffer with pixels := left } := by
  rw [onPixels, run]

/-- The framebuffer with other sides and the pixels that it had. -/
def sized (width height : Int) (framebuffer : Framebuffer) : Framebuffer :=
  { framebuffer with width := width, height := height }

/-- A framebuffer that takes a new size takes the sides first. -/
theorem reshape_eq [HostMemory] (width height : Int) (framebuffer : Framebuffer) :
    reshape width height framebuffer =
      (onPixels (Bank.resize (width * height)) >>= fun _ => pure [.setResolution width height])
        (framebuffer.sized width height) := rfl

/-- A framebuffer takes any size that there is room for, with all pixels out. -/
theorem reshape_of_room [HostMemory] (room : width * height ≤ Extent.room)
    (framebuffer : Framebuffer) :
    reshape width height framebuffer = .ok [.setResolution width height]
      { blank width height with dirty := framebuffer.dirty } := by
  have resized := Bank.resize_of_room room (framebuffer.sized width height).pixels
  rw [Int.natCast_mul] at resized
  rw [reshape_eq, bind_of_ok (onPixels_of_ok resized)]
  rfl

/-- A size for which there is no room is refused. -/
theorem reshape_of_no_room [HostMemory] (full : Extent.room < width * height)
    (framebuffer : Framebuffer) :
    ∃ fault left, reshape width height framebuffer = .error fault left ∧
      (fault = .tooLarge ∨ fault = .outOfMemory) := by
  obtain ⟨fault, refused, kind⟩ :=
    Bank.resize_of_no_room full (framebuffer.sized width height).pixels
  rw [Int.natCast_mul] at refused
  have run := (reshape_eq width height framebuffer).trans
    (bind_of_error (onPixels_of_error refused))
  exact ⟨fault, _, run, kind⟩

/-- A repaint of the new size is wanted, if it is taken. -/
theorem resize_of_room [HostMemory] (room : width * height ≤ Extent.room)
    (framebuffer : Framebuffer) :
    resize width height framebuffer = .ok [.setResolution width height] (blank width height) := by
  rw [resize, thenRender, bind_of_ok (reshape_of_room room framebuffer)]
  rfl

theorem resize_of_no_room [HostMemory] (full : Extent.room < width * height)
    (framebuffer : Framebuffer) :
    ∃ fault left, resize width height framebuffer = .error fault left ∧
      (fault = .tooLarge ∨ fault = .outOfMemory) := by
  obtain ⟨fault, left, refused, kind⟩ := reshape_of_no_room full framebuffer
  exact ⟨fault, left, bind_of_error refused, kind⟩

/-- There is a new framebuffer of any size that there is room for. -/
theorem create_of_room [HostMemory] (room : width * height ≤ Extent.room) :
    create width height = .ok (blank width height, opening width height) := by
  have passed := Extent.check_of_room room
  rw [Int.natCast_mul] at passed
  rw [create, passed]
  rfl

/-- There is none of a size for which there is no room. -/
theorem create_of_no_room [HostMemory] (full : Extent.room < width * height) :
    ∃ fault, create width height = .error fault := by
  obtain ⟨fault, refused, -⟩ := Extent.check_of_gt full
  rw [Int.natCast_mul] at refused
  refine ⟨fault, ?_⟩
  rw [create, refused]
  rfl

end Framebuffer
end Chip8
