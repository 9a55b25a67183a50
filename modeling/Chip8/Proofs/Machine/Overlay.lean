import Chip8.Proofs.Machine.Drawing
import Chip8.Proofs.Machine.Signals
import Chip8.Proofs.Machine.CallStack
/-!
# Sprites over sprites

Drawing is exclusive-or, so what a run leaves on the display is what was there with all
the sprites of the run laid over it: `overlay` adds up their masks, and
`Overlaid.pixel` says that nothing else reaches the pixels, as long as nothing clears
them. Hence the order of the sprites is of no account, and two of a kind cancel. The
flag is another matter, since it is set by the display that a sprite meets.
-/

namespace Chip8

/-! ## The mask of many sprites -/

namespace Sprite

/-- What many sprites add to the byte of a pixel. -/
def overlay (sprites : List Sprite) (dot : Nat × Nat) : UInt8 :=
  sprites.foldr (fun sprite byte => sprite.mask dot ^^^ byte) 0

variable {sprites sprites' : List Sprite} {dot : Nat × Nat}

@[simp] theorem overlay_nil : overlay [] dot = 0 := rfl

@[simp] theorem overlay_cons (sprite : Sprite) :
    overlay (sprite :: sprites) dot = sprite.mask dot ^^^ overlay sprites dot := rfl

theorem overlay_append :
    overlay (sprites ++ sprites') dot = overlay sprites dot ^^^ overlay sprites' dot := by
  induction sprites with
  | nil => exact UInt8.zero_xor.symm
  | cons sprite sprites ih => rw [List.cons_append, overlay_cons, overlay_cons, ih, UInt8.xor_assoc]

/-- **The order of sprites is of no account.** -/
theorem overlay_perm (perm : sprites.Perm sprites') :
    overlay sprites dot = overlay sprites' dot := by
  induction perm with
  | nil => rfl
  | cons sprite _ ih => rw [overlay_cons, overlay_cons, ih]
  | swap sprite other rest =>
    simp only [overlay_cons, ← UInt8.xor_assoc, UInt8.xor_comm (other.mask dot)]
  | trans _ _ ih ih' => exact ih.trans ih'

/-- A sprite counts once if it is drawn an odd number of times, and not at all
otherwise. -/
theorem overlay_eq_without (sprite : Sprite) (sprites : List Sprite) (dot : Nat × Nat) :
    overlay sprites dot = (if sprites.count sprite % 2 = 1 then sprite.mask dot else 0) ^^^
      overlay (sprites.filter (· ≠ sprite)) dot := by
  induction sprites with
  | nil =>
    rw [List.count_nil, if_neg (by decide), UInt8.zero_xor]
    rfl
  | cons other sprites ih =>
    by_cases same : other = sprite
    · subst same
      rw [List.filter_cons_of_neg (by simp), List.count_cons_self, overlay_cons, ih,
        ← UInt8.xor_assoc]
      by_cases odd : sprites.count other % 2 = 1
      · rw [if_pos odd, if_neg (by omega), UInt8.xor_self]
      · rw [if_neg odd, if_pos (by omega), UInt8.xor_zero]
    · rw [List.filter_cons_of_pos (by simpa using same), List.count_cons_of_ne same, overlay_cons,
        overlay_cons, ih, ← UInt8.xor_assoc, ← UInt8.xor_assoc, UInt8.xor_comm (other.mask dot)]

/-- **A sprite that is drawn an even number of times leaves no trace.** -/
theorem overlay_of_even {sprite : Sprite} (even : sprites.count sprite % 2 = 0) :
    overlay sprites dot = overlay (sprites.filter (· ≠ sprite)) dot := by
  rw [overlay_eq_without sprite, if_neg (by omega), UInt8.zero_xor]

/-- An instruction can draw the sprite: its position lies on the display, and its height
is a digit. -/
structure Drawable (sprite : Sprite) : Prop where
  left : sprite.left < 64
  top : sprite.top < 32
  rows : sprite.rows.length < 16

end Sprite

namespace Machine

open Sprite (overlay)

variable {machine start left : Machine Framebuffer} {sprites sprites' : List Sprite}
variable {dot : Nat × Nat} {x y n : Fin 16}

/-! ## Runs that clear nothing -/

/-- The sprite that an instruction draws, if it is one that does. -/
def spritesOf (machine : Machine Framebuffer) : Instruction → List Sprite
  | .drw x y n => [machine.sprite x y n]
  | _ => []

/-- **What follows a machine, and the sprites drawn on the way**, oldest first, as long as
every step completes and nothing clears the display. -/
inductive Overlaid (start : Machine Framebuffer) :
    List Sprite → Machine Framebuffer → Prop where
  /-- Nothing yet. -/
  | start : Overlaid start [] start
  /-- A step that runs an instruction to its end, one that does not clear. -/
  | stepped {sprites : List Sprite} {machine left : Machine Framebuffer}
      (before : Overlaid start sprites machine) (run : step machine = .ok true left)
      (keeps : machine.upcomingWord ≠ 0x00E0) :
      Overlaid start (sprites ++ machine.spritesOf machine.upcoming) left
  /-- A step that runs none, because a key is awaited. -/
  | idle {sprites : List Sprite} {machine left : Machine Framebuffer}
      (before : Overlaid start sprites machine) (run : step machine = .ok false left) :
      Overlaid start sprites left
  /-- Any other request, unless it starts again. -/
  | served {sprites : List Sprite} {machine : Machine Framebuffer} {request : Request}
      (before : Overlaid start sprites machine) (other : request ≠ .step)
      (continues : request.Continues) : Overlaid start sprites (machine.after request)
  /-- All but the pixels arranged by hand. -/
  | arranged {sprites : List Sprite} {machine arranged : Machine Framebuffer}
      (before : Overlaid start sprites machine) (sound : arranged.Sound 64 32)
      (same : arranged.display.pixels = machine.display.pixels) :
      Overlaid start sprites arranged

theorem Overlaid.sound (overlaid : Overlaid start sprites machine) (sound : start.Sound 64 32) :
    machine.Sound 64 32 := by
  induction overlaid with
  | start => exact sound
  | stepped before run keeps ih => exact ih.of_step run
  | idle before run ih => exact ih.of_step run
  | served before other continues ih => exact ih.after _
  | arranged before arranged same ih => exact arranged

/-! ## One request -/

/-- Pixels are read off the bank. -/
theorem pixel_of_pixels_eq {width height : Nat} {first second : Framebuffer}
    (sound : first.Sound width height) (sound' : second.Sound width height)
    (same : first.pixels = second.pixels) : first.pixel dot = second.pixel dot := by
  rw [Framebuffer.pixel, Framebuffer.pixel, sound.sides.1, sound'.sides.1, same]

/-- An instruction lays what it draws over the display, unless it clears. -/
theorem pixel_displayAfter (display : machine.display.Sound 64 32) {i : Instruction}
    (keeps : i ≠ .cls) (column : dot.1 < 64) (row : dot.2 < 32) :
    (machine.displayAfter i).pixel dot =
      machine.display.pixel dot ^^^ overlay (machine.spritesOf i) dot := by
  cases i with
  | cls => exact absurd rfl keeps
  | drw x y n =>
    rw [spritesOf, Sprite.overlay_cons, Sprite.overlay_nil, UInt8.xor_zero]
    exact (drawn_of_executed display x y n machine.outbox).pixels dot column row
  | _ => exact UInt8.xor_zero.symm

/-- So does a step that is completed. -/
theorem Sound.pixel_of_step (sound : machine.Sound 64 32) (run : step machine = .ok true left)
    (keeps : machine.upcomingWord ≠ 0x00E0) (column : dot.1 < 64) (row : dot.2 < 32) :
    left.display.pixel dot =
      machine.display.pixel dot ^^^ overlay (machine.spritesOf machine.upcoming) dot := by
  have course := sound.course
  rw [run] at course
  cases course with
  | granted ready fits granted outbox =>
    exact pixel_displayAfter sound.poised.display (fun clears => keeps (matches_of_upcoming clears))
      column row

/-- Other requests leave the pixels alone, unless they start again. -/
theorem pixels_answered {request : Request} (other : request ≠ .step)
    (continues : request.Continues) :
    (machine.answered request).display.pixels = machine.display.pixels := by
  cases request with
  | step => exact absurd rfl other
  | reset | load => exact absurd continues id
  | tick | refresh => rfl
  | keyDown code => rw [(display_answered_key machine code).1]
  | keyUp code => rw [(display_answered_key machine code).2]

/-- **Nothing but sprites reaches the pixels.** -/
theorem Overlaid.pixel (overlaid : Overlaid start sprites machine) (sound : start.Sound 64 32)
    (column : dot.1 < 64) (row : dot.2 < 32) :
    machine.display.pixel dot = start.display.pixel dot ^^^ overlay sprites dot := by
  induction overlaid with
  | start => exact UInt8.xor_zero.symm
  | stepped before run keeps ih =>
    rw [Sprite.overlay_append, ← UInt8.xor_assoc, ← ih]
    exact (before.sound sound).pixel_of_step run keeps column row
  | idle before run ih =>
    have course := (before.sound sound).course
    rw [run] at course
    cases course with
    | awaited => exact ih
  | served before other continues ih =>
    rename_i machine request
    obtain ⟨outbox, left⟩ := after_eq (before.sound sound) request
    rw [← ih]
    refine pixel_of_pixels_eq ((before.sound sound).after request).display
      (before.sound sound).display ?_
    rw [left]
    exact pixels_answered other continues
  | arranged before arranged same ih =>
    rw [← ih]
    exact pixel_of_pixels_eq arranged.display (before.sound sound).display same

/-- **Runs whose sprites come to the same leave the same display.** -/
theorem Overlaid.pixels_eq {start' machine' : Machine Framebuffer} (sound : start.Sound 64 32)
    (sound' : start'.Sound 64 32) (alike : start.display.pixels = start'.display.pixels)
    (overlaid : Overlaid start sprites machine) (overlaid' : Overlaid start' sprites' machine')
    (same : ∀ dot, overlay sprites dot = overlay sprites' dot) :
    machine.display.pixels = machine'.display.pixels := by
  refine Framebuffer.pixels_ext (overlaid.sound sound).display (overlaid'.sound sound').display
    fun dot column row => ?_
  rw [overlaid.pixel sound column row, overlaid'.pixel sound' column row, same,
    pixel_of_pixels_eq sound.display sound'.display alike]

/-! ## Any sprites -/

/-- The machine with a program of one instruction, which draws a sprite. -/
def aimed (sprite : Sprite) (machine : Machine Framebuffer) : Machine Framebuffer :=
  { machine with
    memory := ((Bank.blank Memory.size).written 0x200
      [0xD0, UInt8.ofNat (0x10 + sprite.rows.length)]).written 0x300 sprite.rows
    registers := (((machine.registers.set 0 (UInt8.ofNat sprite.left)).set 1
      (UInt8.ofNat sprite.top)).setIndex 0x300).jump 0x200
    keypad := machine.keypad.unlatch }

variable {sprite : Sprite}

theorem Sound.aimed (sound : machine.Sound 64 32) (sprite : Sprite) :
    (machine.aimed sprite).Sound 64 32 where
  memory := ((Bank.hasCells_blank Memory.size).written _ _).written _ _
  registers := ⟨show 0 ≤ (0x200 : Int) by decide, show (0x200 : Int) ≤ 0x10FE by decide,
    sound.registers.stack, sound.registers.size_stack,
    sound.registers.returns⟩
  latch := nofun
  display := sound.display

theorem upcoming_aimed (drawable : sprite.Drawable) :
    (machine.aimed sprite).upcoming = .drw 0 1 (Fin.ofNat 16 sprite.rows.length) := by
  have few := drawable.rows
  have cells := Bank.hasCells_blank Memory.size
  -- the word lies below the rows of the sprite
  have byte : ∀ k < 2, (machine.aimed sprite).memory.byteAt (0x200 + k) =
      [0xD0, UInt8.ofNat (0x10 + sprite.rows.length)].getD k 0 := by
    intro k lt
    refine (Bank.byteAt_written_outside (.inl (by omega))).trans ?_
    exact Bank.byteAt_written_inside cells (show 0x200 + 2 ≤ Memory.size by decide) lt
  have low : (UInt8.ofNat (0x10 + sprite.rows.length)).toNat = 0x10 + sprite.rows.length := by
    rw [UInt8.toNat_ofNat']
    omega
  have word : (machine.aimed sprite).upcomingWord = 0xD010 + sprite.rows.length := by
    change 256 * ((machine.aimed sprite).memory.byteAt (0x200 + 0)).toNat +
      ((machine.aimed sprite).memory.byteAt (0x200 + 1)).toNat = _
    rw [byte 0 (by decide), byte 1 (by decide), List.getD_cons_zero, List.getD_cons_succ,
      List.getD_cons_zero, low]
    change 256 * 0xD0 + _ = _
    omega
  refine upcoming_of_matches nofun ⟨⟨?_, ?_, ?_⟩, ?_⟩
  · omega
  · exact Fin.ext (by simp only [word, Fin.val_ofNat]; omega)
  · exact Fin.ext (by simp only [word, Fin.val_ofNat]; omega)
  · exact Fin.ext (by simp only [word, Fin.val_ofNat]; omega)

theorem sprite_aimed (drawable : sprite.Drawable) :
    (machine.aimed sprite).sprite 0 1 (Fin.ofNat 16 sprite.rows.length) = sprite := by
  have few := drawable.rows
  have inside : 0x300 + sprite.rows.length ≤ Memory.size := by
    rw [Memory.size]
    omega
  have cells := (Bank.hasCells_blank Memory.size).written 0x200
    [0xD0, UInt8.ofNat (0x10 + sprite.rows.length)]
  have left : (UInt8.ofNat sprite.left).toNat % 64 = sprite.left := by
    have := drawable.left
    rw [UInt8.toNat_ofNat']
    omega
  have top : (UInt8.ofNat sprite.top).toNat % 32 = sprite.top := by
    have := drawable.top
    rw [UInt8.toNat_ofNat']
    omega
  have rows : (List.range sprite.rows.length).map (fun row =>
      (machine.aimed sprite).memory.byteAt (0x300 + row)) = sprite.rows := by
    refine List.ext_getElem (by rw [List.length_map, List.length_range]) fun row _ within => ?_
    rw [List.getElem_map, List.getElem_range]
    refine (Bank.byteAt_written_inside cells inside within).trans ?_
    rw [List.getD_eq_getElem?_getD, List.getElem?_eq_getElem within]
    rfl
  have vx : (machine.aimed sprite).registers.get 0 = UInt8.ofNat sprite.left :=
    (Registers.get_set_of_ne (show (1 : Fin 16) ≠ 0 by decide)).trans
      (Registers.get_set_self _ _ _)
  have vy : (machine.aimed sprite).registers.get 1 = UInt8.ofNat sprite.top :=
    Registers.get_set_self _ _ _
  have index : (machine.aimed sprite).index = 0x300 := rfl
  rw [Machine.sprite, Sprite.held, vx, vy, left, top, index, Fin.val_ofNat,
    Nat.mod_eq_of_lt few, rows]

/-- One more sprite is drawn by the machine that is aimed at it. -/
theorem Overlaid.drawn (before : Overlaid start sprites machine) (sound : start.Sound 64 32)
    (drawable : sprite.Drawable) : ∃ left, Overlaid start (sprites ++ [sprite]) left := by
  have aimed := (before.sound sound).aimed sprite
  have draws := @upcoming_aimed machine sprite drawable
  have low : ¬ (0xFFF : Int) ≤ 0x200 := by decide
  have granted : (machine.aimed sprite).poised.refusal (machine.aimed sprite).upcoming = none := by
    rw [draws]
    refine if_neg fun reaching => ?_
    have index : (machine.aimed sprite).poised.index = 0x300 := rfl
    rw [index, Memory.size] at reaching
    omega
  obtain ⟨outbox, run⟩ := step_of_granted aimed rfl low granted
  have keeps : (machine.aimed sprite).upcomingWord ≠ 0x00E0 := by
    intro clears
    rw [upcoming, clears] at draws
    exact Instruction.noConfusion draws
  have drawn := (before.arranged aimed rfl).stepped run keeps
  rw [draws, spritesOf, sprite_aimed drawable] at drawn
  exact ⟨_, drawn⟩

/-- **Any sprites can be drawn one after another.** -/
theorem exists_overlaid (sound : start.Sound 64 32) (before : Overlaid start sprites machine)
    (drawable : ∀ sprite ∈ sprites', sprite.Drawable) :
    ∃ left, Overlaid start (sprites ++ sprites') left := by
  induction sprites' generalizing sprites machine with
  | nil => exact ⟨machine, by rwa [List.append_nil]⟩
  | cons sprite rest ih =>
    obtain ⟨left, drawn⟩ := before.drawn sound (drawable sprite List.mem_cons_self)
    rw [List.append_cons]
    exact ih drawn fun other mem => drawable other (List.mem_cons_of_mem sprite mem)

/-! ## Twice the same sprite -/

/-- **Drawing a sprite twice restores the display**, and collides at least once if there
is anything to draw. -/
theorem drawn_twice (memory : machine.memory.HasCells 4096)
    (display : machine.display.Sound 64 32)
    (drawing : (Instruction.drw x y n).Matches (Opcode.word machine.opcode))
    (inside : n.val = 0 ∨ machine.index + n ≤ 4096) (notX : x ≠ 15) (notY : y ≠ 15) :
    ∃ once twice, decodeExecute machine = .ok () once ∧ decodeExecute once = .ok () twice ∧
      twice.display.pixels = machine.display.pixels ∧
      ((once.registers.get Registers.flag = 1 ∨ twice.registers.get Registers.flag = 1) ↔
        ∃ row < n.val, ∃ column < 8,
          (machine.memory.byteAt (machine.index + row)).toNat.testBit (7 - column) = true) := by
  obtain ⟨once, run, drawn⟩ := drawn_of_drawing memory display drawing inside
  -- neither position, index nor memory has changed, so the same sprite is drawn again
  have same : once.sprite x y n = machine.sprite x y n := by
    rw [sprite, sprite, drawn.registers x notX, drawn.registers y notY, drawn.memory, index, index,
      drawn.index]
  have opcode : once.opcode = machine.opcode := by
    rw [drawn.rest]
  have inside' : n.val = 0 ∨ once.index + n ≤ 4096 := by
    rw [index, drawn.index]
    exact inside
  obtain ⟨twice, run', again⟩ :=
    drawn_of_drawing (drawn.memory ▸ memory) drawn.display (opcode ▸ drawing) inside'
  rw [same] at again
  refine ⟨once, twice, run, run', ?_, ?_⟩
  · refine Framebuffer.pixels_ext again.display display fun dot column row => ?_
    rw [again.pixels dot column row, drawn.pixels dot column row, UInt8.xor_assoc, UInt8.xor_self,
      UInt8.xor_zero]
  · rw [drawn.flag_iff, again.flag_iff]
    constructor
    · rintro (⟨dot, covers, -⟩ | ⟨dot, covers, -⟩)
      all_goals
        obtain ⟨row, lt, column, within, set, -⟩ := (covers_sprite_iff machine x y n dot).1 covers
        exact ⟨row, lt, column, within, set⟩
    · rintro ⟨row, lt, column, within, set⟩
      obtain ⟨dot, covers⟩ : ∃ dot, (machine.sprite x y n).Covers dot :=
        ⟨_, (covers_sprite_iff machine x y n _).2 ⟨row, lt, column, within, set, rfl⟩⟩
      obtain ⟨inColumn, inRow⟩ := covers.inside
      -- a dot that was out before the first time is lit before the second
      by_cases out : machine.display.pixel dot = 0
      · refine .inr ⟨dot, covers, ?_⟩
        rw [drawn.pixels dot inColumn inRow, Sprite.xor_mask, if_pos covers, out]
        decide
      · exact .inl ⟨dot, covers, out⟩

/-! ## Order and repetition -/

/-- **The display is what it was with all sprites laid over it**, along every run in which
all steps complete and nothing clears. So any sprites can be drawn in any order and leave
the same display; one that is drawn an even number of times might not have been drawn at
all; and an instruction that draws twice restores the display, with a collision the first
or the second time if its sprite has a set bit. -/
theorem sprites_overlay :
    (∀ start sprites machine, start.Sound 64 32 → Overlaid start sprites machine →
      machine.display.Sound 64 32 ∧ ∀ dot : Nat × Nat, dot.1 < 64 → dot.2 < 32 →
        machine.display.pixel dot = start.display.pixel dot ^^^ overlay sprites dot) ∧
    (∀ (start : Machine Framebuffer) (sprites : List Sprite), start.Sound 64 32 →
      (∀ sprite ∈ sprites, sprite.Drawable) → ∃ machine, Overlaid start sprites machine) ∧
    (∀ start start' sprites sprites' machine machine', start.Sound 64 32 → start'.Sound 64 32 →
      start.display.pixels = start'.display.pixels → sprites.Perm sprites' →
      Overlaid start sprites machine → Overlaid start' sprites' machine' →
      machine.display.pixels = machine'.display.pixels) ∧
    (∀ start start' sprites sprite machine machine', start.Sound 64 32 → start'.Sound 64 32 →
      start.display.pixels = start'.display.pixels → sprites.count sprite % 2 = 0 →
      Overlaid start sprites machine → Overlaid start' (sprites.filter (· ≠ sprite)) machine' →
      machine.display.pixels = machine'.display.pixels) ∧
    (∀ (machine : Machine Framebuffer) (x y n : Fin 16), machine.memory.HasCells 4096 →
      machine.display.Sound 64 32 →
      (Instruction.drw x y n).Matches (Opcode.word machine.opcode) →
      (n.val = 0 ∨ machine.index + n ≤ 4096) → x ≠ 15 → y ≠ 15 →
      ∃ once twice, decodeExecute machine = .ok () once ∧ decodeExecute once = .ok () twice ∧
        twice.display.pixels = machine.display.pixels ∧
        ((once.registers.get Registers.flag = 1 ∨ twice.registers.get Registers.flag = 1) ↔
          ∃ row < n.val, ∃ column < 8,
            (machine.memory.byteAt (machine.index + row)).toNat.testBit (7 - column) = true)) := by
  refine ⟨?_, ?_, ?_, ?_, ?_⟩
  · intro start sprites machine sound overlaid
    exact ⟨(overlaid.sound sound).display, fun dot column row => overlaid.pixel sound column row⟩
  · intro start sprites sound drawable
    exact exists_overlaid sound .start drawable
  · intro start start' sprites sprites' machine machine' sound sound' alike perm first second
    exact first.pixels_eq sound sound' alike second fun dot => Sprite.overlay_perm perm
  · intro start start' sprites sprite machine machine' sound sound' alike even first second
    exact first.pixels_eq sound sound' alike second fun dot => Sprite.overlay_of_even even
  · intro machine x y n memory display drawing inside notX notY
    exact drawn_twice memory display drawing inside notX notY

/-- Two sprites that meet in the corner leave the same display in either order, and one of
them drawn twice leaves the display blank, after a collision. -/
theorem sprites_overlay_of_corner :
    let dot : Sprite := ⟨0, 0, [0x80]⟩
    let dash : Sprite := ⟨0, 0, [0xC0]⟩
    ∃ start : Machine Framebuffer, start.Sound 64 32 ∧
      (∃ first second, Overlaid start [dot, dash] first ∧ Overlaid start [dash, dot] second ∧
        first.display.pixels = second.display.pixels ∧
        first.display.pixel (1, 0) = start.display.pixel (1, 0) ^^^ 0xFF) ∧
      (∃ machine, Overlaid start [dot, dot] machine ∧
        machine.display.pixels = start.display.pixels) ∧
      (∃ once twice, decodeExecute { start with opcode := 0xD015 } = .ok () once ∧
        decodeExecute once = .ok () twice ∧ twice.display.pixels = start.display.pixels ∧
        (once.registers.get Registers.flag = 1 ∨ twice.registers.get Registers.flag = 1)) := by
  intro dot dash
  obtain ⟨outbox, reachable⟩ := reachable_booted []
  have sound := reachable.sound
  obtain ⟨pixels, drawn, order, even, again⟩ := sprites_overlay
  have dotFits : dot.Drawable := ⟨by decide, by decide, by decide⟩
  have dashFits : dash.Drawable := ⟨by decide, by decide, by decide⟩
  obtain ⟨first, toFirst⟩ := drawn _ [dot, dash] sound (by simp [dotFits, dashFits])
  obtain ⟨second, toSecond⟩ := drawn _ [dash, dot] sound (by simp [dotFits, dashFits])
  obtain ⟨machine, toMachine⟩ := drawn _ [dot, dot] sound (by simp [dotFits])
  refine ⟨_, sound, ⟨first, second, toFirst, toSecond, ?_, ?_⟩, ⟨machine, toMachine, ?_⟩, ?_⟩
  · exact order _ _ _ _ _ _ sound sound rfl (.swap _ _ _) toFirst toSecond
  · have dashOnly : overlay [dot, dash] (1, 0) = 0xFF := by decide
    rw [← dashOnly]
    exact (pixels _ _ _ sound toFirst).2 (1, 0) (by decide) (by decide)
  · exact even _ _ _ dot _ _ sound sound rfl (by decide) toMachine .start
  · obtain ⟨once, twice, run, run', restored, collides⟩ :=
      again { booted [] with opcode := 0xD015, outbox := outbox } 0 1 5 sound.memory sound.display
        draws_character (.inr (show 0 + 5 ≤ 4096 by decide)) (by decide) (by decide)
    have font : (booted []).memory.byteAt ((booted []).index + 0) = 0xF0 := byteAt_font
    exact ⟨once, twice, run, run', restored,
      collides.2 ⟨0, by decide, 0, by decide,
        (congrArg (·.toNat.testBit 7) font).trans (by decide)⟩⟩

end Machine
end Chip8
