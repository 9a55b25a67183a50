import Chip8.Proofs.Instruction.Opcodes
import Chip8.Proofs.Machine.Loading
/-!
# Drawing a sprite

On the display that programs are written for, the instruction that draws inverts the
pixels under the sprite and no others, since no dot of a sprite is drawn twice
(`pixel_invert_spriteDots`). For the same reason the flag depends on the display of
before alone: a dot that is lit when its turn comes was lit at the start
(`strikes_spriteDots_iff`). Both hold of every display, memory and registers, in use or
not (`drawn_exactly`).
-/

namespace Chip8

/-! ## What a sprite covers -/

namespace Sprite

/-- The sprite has a set bit where the dot is, wrapped around the display. -/
def Covers (sprite : Sprite) (dot : Nat × Nat) : Prop :=
  ∃ row < sprite.rows.length, ∃ column < 8,
    (sprite.rows.getD row 0).toNat.testBit (7 - column) = true ∧
      dot = ((sprite.left + column) % 64, (sprite.top + row) % 32)

instance (sprite : Sprite) (dot : Nat × Nat) : Decidable (sprite.Covers dot) :=
  decidable_of_iff (dot ∈ sprite.dots) mem_dots

/-- What drawing a sprite adds to the byte of a pixel, by exclusive-or. -/
def mask (sprite : Sprite) (dot : Nat × Nat) : UInt8 := if sprite.Covers dot then 0xFF else 0

/-- A sprite covers no dots beside the display. -/
theorem Covers.inside {sprite : Sprite} {dot : Nat × Nat} (covers : sprite.Covers dot) :
    dot.1 < 64 ∧ dot.2 < 32 :=
  dots_inside (mem_dots.2 covers)

theorem xor_mask (sprite : Sprite) (dot : Nat × Nat) (byte : UInt8) :
    byte ^^^ sprite.mask dot = if sprite.Covers dot then byte ^^^ 0xFF else byte := by
  rw [mask]
  split
  · rfl
  · exact UInt8.xor_zero

end Sprite

namespace Machine

variable {machine : Machine Framebuffer} {x y n : Fin 16}

/-- The sprite that an instruction draws: as many rows as it says from the index
register on, at the position that two registers give. -/
def sprite (machine : Machine Framebuffer) (x y n : Fin 16) : Sprite :=
  .held machine.memory ((machine.registers.get x).toNat % 64)
    ((machine.registers.get y).toNat % 32) machine.index n

/-- The sprite of an instruction, read from memory and registers. -/
theorem covers_sprite_iff (machine : Machine Framebuffer) (x y n : Fin 16) (dot : Nat × Nat) :
    (machine.sprite x y n).Covers dot ↔
      ∃ row < n.val, ∃ column < 8,
        (machine.memory.byteAt (machine.index + row)).toNat.testBit (7 - column) = true ∧
          dot = (((machine.registers.get x).toNat % 64 + column) % 64,
            ((machine.registers.get y).toNat % 32 + row) % 32) :=
  Sprite.mem_dots.symm.trans Sprite.mem_dots_held

/-! ## Pixels and collisions -/

/-- A sprite lands on the usual display where it is drawn. -/
theorem spriteDots_usual (display : machine.display.Sound 64 32) (x y : Fin 16) (rows : Nat) :
    machine.spriteDots x y rows =
      (Sprite.held machine.memory ((machine.registers.get x).toNat % 64)
        ((machine.registers.get y).toNat % 32) machine.index rows).dots := by
  rw [spriteDots, display.sides.1, display.sides.2, heldDots_usual]
  rfl

/-- No dot is drawn twice, since the rows are fewer than those of the display. -/
theorem nodup_spriteDots (display : machine.display.Sound 64 32) (x y : Fin 16) {rows : Nat}
    (few : rows ≤ 32) : (machine.spriteDots x y rows).Nodup := by
  rw [spriteDots_usual display]
  refine Sprite.nodup_dots ?_
  rwa [Sprite.held, List.length_map, List.length_range]

theorem spriteDots_inside (display : machine.display.Sound 64 32) {rows : Nat} :
    ∀ dot ∈ machine.spriteDots x y rows, dot.1 < 64 ∧ dot.2 < 32 := by
  intro dot drawn
  rw [spriteDots_usual display] at drawn
  exact Sprite.dots_inside drawn

/-- Rows drawn on the usual display invert the pixels under them. -/
theorem pixel_invert_spriteDots (display : machine.display.Sound 64 32) (x y : Fin 16)
    {rows : Nat} (few : rows ≤ 32) {dot : Nat × Nat} (column : dot.1 < 64) (row : dot.2 < 32) :
    (machine.display.invert (machine.spriteDots x y rows)).pixel dot =
      if dot ∈ machine.spriteDots x y rows then machine.display.pixel dot ^^^ 0xFF
      else machine.display.pixel dot :=
  Framebuffer.pixel_invert_of_nodup display
    (fun dot drawn => (spriteDots_inside display dot drawn).1)
    (nodup_spriteDots display x y few) column row

/-- They put a pixel out if one under them was lit. -/
theorem strikes_spriteDots_iff (display : machine.display.Sound 64 32) (x y : Fin 16)
    {rows : Nat} (few : rows ≤ 32) :
    machine.display.strikes (machine.spriteDots x y rows) = true ↔
      ∃ dot ∈ machine.spriteDots x y rows, machine.display.pixel dot ≠ 0 :=
  Framebuffer.strikes_iff_of_nodup display (spriteDots_inside display)
    (nodup_spriteDots display x y few)

theorem mem_spriteDots_iff (display : machine.display.Sound 64 32) (x y n : Fin 16)
    (dot : Nat × Nat) :
    dot ∈ machine.spriteDots x y n ↔ (machine.sprite x y n).Covers dot := by
  rw [spriteDots_usual display]
  exact Sprite.mem_dots

/-! ## The instruction that draws -/

/-- **What drawing a sprite leaves.** -/
structure Drawn (sprite : Sprite) (before after : Machine Framebuffer) : Prop where
  /-- Pixels under the sprite are inverted, and the others are as before. -/
  pixels : ∀ dot : Nat × Nat, dot.1 < 64 → dot.2 < 32 →
    after.display.pixel dot = before.display.pixel dot ^^^ sprite.mask dot
  /-- The flag is set if a pixel under the sprite was lit before. -/
  struck : (∃ dot, sprite.Covers dot ∧ before.display.pixel dot ≠ 0) →
    after.registers.get Registers.flag = 1
  /-- And it is cleared if none was. -/
  clear : ¬ (∃ dot, sprite.Covers dot ∧ before.display.pixel dot ≠ 0) →
    after.registers.get Registers.flag = 0
  registers : ∀ r ≠ Registers.flag, after.registers.get r = before.registers.get r
  index : after.registers.i = before.registers.i
  memory : after.memory = before.memory
  /-- A repaint is wanted. -/
  dirty : after.display.dirty = true
  /-- The display has its sides, and its cells are out or lit. -/
  display : after.display.Sound 64 32
  /-- There is nothing else that drawing touches. -/
  rest : after = { before with
    registers := { before.registers with v := after.registers.v }
    display := { before.display with pixels := after.display.pixels, dirty := true }
    outbox := after.outbox }

/-- An instruction that draws and is executed has drawn its sprite. -/
theorem drawn_of_executed (display : machine.display.Sound 64 32) (x y n : Fin 16)
    (outbox : Array Signal) :
    Drawn (machine.sprite x y n) machine
      { machine.executed (.drw x y n) with outbox := outbox } := by
  have few : n.val ≤ 32 := by omega
  have strikes : machine.display.strikes (machine.spriteDots x y n) = true ↔
      ∃ dot, (machine.sprite x y n).Covers dot ∧ machine.display.pixel dot ≠ 0 := by
    simp only [strikes_spriteDots_iff display x y few, mem_spriteDots_iff display]
  have flag : ((machine.executed (.drw x y n)).registers).get Registers.flag =
      if machine.display.strikes (machine.spriteDots x y n) then 1 else 0 :=
    Registers.get_set_self _ _ _
  have inverted := Framebuffer.invert_eq (machine.spriteDots x y n) machine.display
  exact {
    pixels := fun dot column row => by
      rw [Sprite.xor_mask]
      simp only [← mem_spriteDots_iff display]
      exact pixel_invert_spriteDots display x y few column row
    struck := fun lit => flag.trans (if_pos (strikes.2 lit))
    clear := fun out => flag.trans (if_neg fun hit => out (strikes.1 hit))
    registers := fun r other => Registers.get_set_of_ne (Ne.symm other)
    index := rfl
    memory := rfl
    dirty := rfl
    display := (display.invert _).render
    rest := by
      change { machine with
        registers := { machine.registers with v := _ }
        display := (machine.display.invert (machine.spriteDots x y n)).render
        outbox := outbox } = _
      rw [Framebuffer.invert_eq]
      rfl }

/-- The flag tells whether a pixel under the sprite was lit before. -/
theorem Drawn.flag_iff {sprite : Sprite} {before after : Machine Framebuffer}
    (drawn : Drawn sprite before after) :
    after.registers.get Registers.flag = 1 ↔
      ∃ dot, sprite.Covers dot ∧ before.display.pixel dot ≠ 0 := by
  refine ⟨fun set => Classical.byContradiction fun out => ?_, drawn.struck⟩
  rw [drawn.clear out] at set
  exact absurd set (by decide)

/-- A sprite that lies in memory is drawn, whatever else the machine holds. -/
theorem drawn_of_drawing (memory : machine.memory.HasCells 4096)
    (display : machine.display.Sound 64 32)
    (drawing : (Instruction.drw x y n).Matches (Opcode.word machine.opcode))
    (inside : n.val = 0 ∨ machine.index + n ≤ 4096) :
    ∃ after, decodeExecute machine = .ok () after ∧ Drawn (machine.sprite x y n) machine after := by
  have draws : Instruction.decode machine.opcode = .drw x y n :=
    Instruction.decode_of_matches nofun drawing
  -- what is noted first is of no account to memory, registers and display
  let noted : Machine Framebuffer :=
    { machine with outbox := machine.outbox ++ machine.announcement }
  have lies : n.val = 0 ∨ noted.index + n ≤ Memory.size := inside
  obtain ⟨outbox, drawn⟩ := @drawSprite_of_le 64 32 noted memory display x y n lies
  refine ⟨{ machine.executed (.drw x y n) with outbox := outbox }, ?_,
    drawn_of_executed display x y n outbox⟩
  rw [decodeExecute_eq, draws]
  exact guarded_of_ok drawn

/-- **Drawing inverts exactly the sprite.** On a display of the usual size with every
cell out or lit, and with the rows in memory, the instruction that draws completes. It
inverts the pixels under the set bits of the sprite, wrapped around the display, and the
flag tells whether one of them was lit before. The position is read before the flag is
set, so either register may be the flag. -/
theorem drawn_exactly (memory : machine.memory.HasCells 4096)
    (display : machine.display.Sound 64 32)
    (drawing : (Instruction.drw x y n).Matches (Opcode.word machine.opcode))
    (inside : n.val = 0 ∨ machine.index + n ≤ 4096) :
    (∀ dot, (machine.sprite x y n).Covers dot ↔
      ∃ row < n.val, ∃ column < 8,
        (machine.memory.byteAt (machine.index + row)).toNat.testBit (7 - column) = true ∧
          dot = (((machine.registers.get x).toNat % 64 + column) % 64,
            ((machine.registers.get y).toNat % 32 + row) % 32)) ∧
    ∃ after, decodeExecute machine = .ok () after ∧ Drawn (machine.sprite x y n) machine after :=
  ⟨covers_sprite_iff machine x y n, drawn_of_drawing memory display drawing inside⟩

/-- The font begins with the upper edge of its first character. -/
theorem byteAt_font : (booted []).memory.byteAt 0 = 0xF0 := by
  rw [booted, byteAt_loadedWith [] (by decide)]
  rfl

/-- An opcode that draws the five rows of a character. -/
theorem draws_character : (Instruction.drw 0 1 5).Matches (Opcode.word 0xD015) :=
  ⟨⟨by decide, by decide, by decide⟩, by decide⟩

/-- With the index register at the font, the first character is drawn in the corner of a
blank display: the dot there is lit, and no collision is seen. -/
theorem drawn_exactly_of_font :
    ∃ after, decodeExecute { booted [] with opcode := 0xD015 } = .ok () after ∧
      after.display.pixel (0, 0) = 0xFF ∧ after.registers.get Registers.flag = 0 := by
  let machine : Machine Framebuffer := { booted [] with opcode := 0xD015 }
  obtain ⟨outbox, reachable⟩ := reachable_booted []
  have sound := reachable.sound
  have out : ∀ dot, machine.display.pixel dot = 0 := fun dot => Bank.byteAt_blank _ _
  obtain ⟨covers, after, run, drawn⟩ := @drawn_exactly machine 0 1 5 sound.memory sound.display
    draws_character (.inr (by decide))
  have font : machine.memory.byteAt (machine.index + 0) = 0xF0 := byteAt_font
  have corner : (machine.sprite 0 1 5).Covers (0, 0) :=
    (covers (0, 0)).2 ⟨0, by decide, 0, by decide, by rw [font]; decide, rfl⟩
  refine ⟨after, run, ?_, drawn.clear fun ⟨dot, _, lit⟩ => lit (out dot)⟩
  rw [drawn.pixels (0, 0) (by decide) (by decide), out, Sprite.xor_mask, if_pos corner]
  rfl

end Machine
end Chip8
