import Chip8.Proofs.Machine.Parts
/-!
# Sprites

A sprite is drawn by inverting its dots, row by row and from left to right.
The dots of a sprite with at most 32 rows are distinct on the display that
programs are written for (`nodup_dots`), so that drawing it inverts exactly the
pixels that it covers, `mem_dots` says which.

The rows are read from memory one at a time. Where they all lie in memory the
sprite is drawn (`drawRows_of_le`); otherwise the drawing is refused at the
first row that does not, with the rows before it drawn (`drawRows_of_gt`).
-/

namespace Chip8

/-- A sprite: the column and the row it is drawn at, and its rows of eight
dots, the leftmost in the highest bit. -/
structure Sprite where
  left : Nat
  top : Nat
  rows : List UInt8
  deriving DecidableEq, Repr

namespace Sprite

/-- The dot that one column of a row draws, if its bit is set. -/
def columnDots (left top : Nat) (bits : UInt8) (column : Nat) : List (Nat × Nat) :=
  if bits.toNat.testBit (7 - column) then [((left + column) % Framebuffer.usualWidth, top)] else []

/-- The dots of one row of a sprite. -/
def rowDots (left top : Nat) (bits : UInt8) : List (Nat × Nat) :=
  (List.range 8).flatMap (columnDots left top bits)

/-- The dots of a sprite, in the order in which they are drawn. -/
def dots (sprite : Sprite) : List (Nat × Nat) :=
  (List.range sprite.rows.length).flatMap fun row =>
    rowDots sprite.left ((sprite.top + row) % Framebuffer.usualHeight) (sprite.rows.getD row 0)

/-- The sprite whose rows lie in memory from an address on. -/
def held (memory : Bank) (left top address height : Nat) : Sprite :=
  ⟨left, top, (List.range height).map fun row => memory.byteAt (address + row)⟩

variable {sprite : Sprite} {left top address height : Nat} {memory : Bank}

theorem dots_held (memory : Bank) (left top address height : Nat) :
    (held memory left top address height).dots =
      (List.range height).flatMap fun row =>
        rowDots left ((top + row) % Framebuffer.usualHeight) (memory.byteAt (address + row)) := by
  rw [dots, held, List.length_map, List.length_range, List.flatMap_def, List.flatMap_def]
  congr 1
  apply List.map_congr_left
  intro row inside
  rw [List.mem_range] at inside
  rw [List.getD_eq_getElem?_getD, List.getElem?_map, List.getElem?_range inside]
  rfl

theorem mem_columnDots {left top column : Nat} {bits : UInt8} {dot : Nat × Nat} :
    dot ∈ columnDots left top bits column ↔
      bits.toNat.testBit (7 - column) = true ∧ dot = ((left + column) % 64, top) := by
  by_cases set : bits.toNat.testBit (7 - column) = true
  · rw [columnDots, if_pos set, List.mem_singleton]
    exact ⟨fun h => ⟨set, h⟩, And.right⟩
  · rw [columnDots, if_neg set]
    exact ⟨fun h => absurd h List.not_mem_nil, fun h => absurd h.1 set⟩

theorem mem_rowDots {left top : Nat} {bits : UInt8} {dot : Nat × Nat} :
    dot ∈ rowDots left top bits ↔
      ∃ column < 8, bits.toNat.testBit (7 - column) = true ∧
        dot = ((left + column) % 64, top) := by
  simp only [rowDots, List.mem_flatMap, List.mem_range, mem_columnDots]

/-- **What a sprite covers**: the dots of its set bits, wrapped around the
display. -/
theorem mem_dots {dot : Nat × Nat} :
    dot ∈ sprite.dots ↔
      ∃ row < sprite.rows.length, ∃ column < 8,
        (sprite.rows.getD row 0).toNat.testBit (7 - column) = true ∧
          dot = ((sprite.left + column) % 64, (sprite.top + row) % 32) := by
  simp only [dots, List.mem_flatMap, List.mem_range, mem_rowDots, Framebuffer.usualHeight]

theorem mem_dots_held {dot : Nat × Nat} :
    dot ∈ (held memory left top address height).dots ↔
      ∃ row < height, ∃ column < 8,
        (memory.byteAt (address + row)).toNat.testBit (7 - column) = true ∧
          dot = ((left + column) % 64, (top + row) % 32) := by
  simp only [dots_held, List.mem_flatMap, List.mem_range, mem_rowDots, Framebuffer.usualHeight]

theorem nodup_rowDots (left top : Nat) (bits : UInt8) : (rowDots left top bits).Nodup := by
  rw [rowDots, List.Nodup, List.pairwise_flatMap]
  constructor
  · intro column _
    rw [columnDots]
    split
    · exact List.pairwise_singleton _ _
    · exact List.Pairwise.nil
  · refine List.pairwise_lt_range.imp_of_mem ?_
    intro column column' mem mem' lt dot drawn dot' drawn' same
    have inside := List.mem_range.1 mem'
    have columns := congrArg Prod.fst same
    rw [(mem_columnDots.1 drawn).2, (mem_columnDots.1 drawn').2] at columns
    simp only at columns
    omega

/-- **No dot is drawn twice**, unless a sprite is higher than the display. -/
theorem nodup_dots (rows : sprite.rows.length ≤ 32) : sprite.dots.Nodup := by
  rw [dots, List.Nodup, List.pairwise_flatMap]
  refine ⟨fun row _ => nodup_rowDots _ _ _, ?_⟩
  refine List.pairwise_lt_range.imp_of_mem ?_
  intro row row' mem mem' lt dot drawn dot' drawn' same
  have inside := List.mem_range.1 mem'
  -- rows less than 32 apart wrap onto different rows of the display
  obtain ⟨_, -, -, rfl⟩ := mem_rowDots.1 drawn
  obtain ⟨_, -, -, rfl⟩ := mem_rowDots.1 drawn'
  have rows' := congrArg Prod.snd same
  simp only [Framebuffer.usualHeight] at rows'
  omega

/-- The dots of a sprite lie on the display that programs are written for. -/
theorem dots_inside {dot : Nat × Nat} (drawn : dot ∈ sprite.dots) : dot.1 < 64 ∧ dot.2 < 32 := by
  obtain ⟨_, -, _, -, -, rfl⟩ := mem_dots.1 drawn
  exact ⟨Nat.mod_lt _ (by omega), Nat.mod_lt _ (by omega)⟩

end Sprite

namespace Machine

variable {width height : Nat} {machine : Machine Framebuffer}

/-- **A drawing loop.** If each round inverts the dots of its item, the loop
inverts those of all items in order, and tells whether one was lit. -/
theorem foldlM_of_inverts {memory : Bank} {items : List Nat} {dots : Nat → List (Nat × Nat)}
    {body : Bool → Nat → Operation (Machine Framebuffer) Bool}
    (round : ∀ item ∈ items, ∀ (hit : Bool) (machine : Machine Framebuffer),
      machine.memory = memory → machine.display.Sound width height →
      ∃ outbox, body hit item machine =
        .ok (machine.display.strikes (dots item) || hit)
          { machine with display := machine.display.invert (dots item), outbox := outbox })
    (hit : Bool) (machine : Machine Framebuffer) (unchanged : machine.memory = memory)
    (sound : machine.display.Sound width height) :
    ∃ outbox, items.foldlM body hit machine =
      .ok (machine.display.strikes (items.flatMap dots) || hit)
        { machine with
          display := machine.display.invert (items.flatMap dots), outbox := outbox } := by
  induction items generalizing hit machine with
  | nil => exact ⟨machine.outbox, rfl⟩
  | cons item items ih =>
    obtain ⟨outbox, first⟩ := round item List.mem_cons_self hit machine unchanged sound
    obtain ⟨outbox', rest⟩ := ih (fun other mem => round other (List.mem_cons_of_mem item mem))
      (machine.display.strikes (dots item) || hit)
      { machine with display := machine.display.invert (dots item), outbox := outbox }
      unchanged (sound.invert _)
    refine ⟨outbox', ?_⟩
    rw [List.foldlM_cons, List.flatMap_cons, Framebuffer.strikes_append,
      Framebuffer.invert_append, Bool.or_assoc, Bool.or_left_comm]
    exact (Operation.bind_of_ok first).trans rest

/-! ## Drawing one row -/

/-- One column of a row. -/
def drawColumn (left top : Nat) (bits : UInt8) (hit : Bool) (column : Nat) :
    Operation (Machine Framebuffer) Bool := do
  if bits.toNat.testBit (7 - column) then
    let lit ← togglePixel (((left + column) % Framebuffer.usualWidth : Nat) : Int) (top : Int)
    return lit || hit
  else return hit

theorem drawColumn_of_sound (left top : Nat) (bits : UInt8) (hit : Bool) (column : Nat)
    (sound : machine.display.Sound width height) :
    let dots := (Sprite.columnDots left top bits column).map (land width height)
    ∃ outbox, drawColumn left top bits hit column machine =
      .ok (machine.display.strikes dots || hit)
        { machine with display := machine.display.invert dots, outbox := outbox } := by
  intro dots
  by_cases set : bits.toNat.testBit (7 - column) = true
  · obtain ⟨outbox, toggle⟩ := togglePixel_of_sound sound
      ((left + column) % Framebuffer.usualWidth, top)
    have one : dots = [land width height ((left + column) % Framebuffer.usualWidth, top)] := by
      simp only [dots, Sprite.columnDots, if_pos set, List.map_cons, List.map_nil]
    refine ⟨outbox, ?_⟩
    rw [drawColumn, if_pos set, Operation.bind_of_ok toggle, one, Framebuffer.strikes,
      Framebuffer.strikes, Bool.or_false]
    rfl
  · have none : dots = [] := by
      simp only [dots, Sprite.columnDots, if_neg set, List.map_nil]
    refine ⟨machine.outbox, ?_⟩
    rw [drawColumn, if_neg set, none]
    rfl

theorem drawRow_of_sound (left top : Nat) (bits : UInt8)
    (sound : machine.display.Sound width height) :
    let dots := (Sprite.rowDots left top bits).map (land width height)
    ∃ outbox, drawRow left top bits machine =
      .ok (machine.display.strikes dots)
        { machine with display := machine.display.invert dots, outbox := outbox } := by
  have round : ∀ column ∈ List.range 8, ∀ (hit : Bool) (current : Machine Framebuffer),
      current.memory = machine.memory → current.display.Sound width height → _ :=
    fun column _ hit _ _ sound => drawColumn_of_sound left top bits hit column sound
  obtain ⟨outbox, drawn⟩ := foldlM_of_inverts round false machine rfl sound
  rw [Bool.or_false, ← List.map_flatMap] at drawn
  exact ⟨outbox, drawn⟩

/-! ## Drawing the rows -/

/-- One row of a sprite held in memory. -/
def drawHeldRow (left top address : Nat) (hit : Bool) (row : Nat) :
    Operation (Machine Framebuffer) Bool := do
  let bits ← onMemory (Bank.read ((address + row : Nat) : Int))
  let rowHit ← drawRow left ((top + row) % Framebuffer.usualHeight) bits
  return rowHit || hit

/-- The dots of a sprite held in memory, as they land on a display. -/
def heldDots (width height : Nat) (memory : Bank) (left top address rows : Nat) :
    List (Nat × Nat) :=
  (Sprite.held memory left top address rows).dots.map (land width height)

/-- On the display that programs are written for, a sprite lands where it is
drawn. -/
theorem heldDots_usual (memory : Bank) (left top address rows : Nat) :
    heldDots 64 32 memory left top address rows =
      (Sprite.held memory left top address rows).dots := by
  rw [heldDots]
  refine (List.map_congr_left fun dot drawn => ?_).trans (List.map_id _)
  obtain ⟨column, row⟩ := Sprite.dots_inside drawn
  exact Prod.ext (Nat.mod_eq_of_lt column) (Nat.mod_eq_of_lt row)

/-- Rows that lie in memory are drawn. -/
theorem foldlM_drawHeldRow (memory : machine.memory.HasCells Memory.size)
    (sound : machine.display.Sound width height) (left top address rows : Nat)
    (inside : ∀ row < rows, address + row < Memory.size) :
    let dots := heldDots width height machine.memory left top address rows
    ∃ outbox, (List.range rows).foldlM (drawHeldRow left top address) false machine =
      .ok (machine.display.strikes dots)
        { machine with display := machine.display.invert dots, outbox := outbox } := by
  -- drawing leaves memory alone, so every row is read from the memory of the start
  have round : ∀ row ∈ List.range rows, ∀ (hit : Bool) (current : Machine Framebuffer),
      current.memory = machine.memory → current.display.Sound width height →
      ∃ outbox, drawHeldRow left top address hit row current =
        .ok (current.display.strikes ((Sprite.rowDots left ((top + row) % Framebuffer.usualHeight)
            (machine.memory.byteAt (address + row))).map (land width height)) || hit)
          { current with
            display := current.display.invert ((Sprite.rowDots left
              ((top + row) % Framebuffer.usualHeight)
              (machine.memory.byteAt (address + row))).map (land width height))
            outbox := outbox } := by
    intro row mem hit current unchanged sound
    have place := Int.ofNat_lt.2 (inside row (List.mem_range.1 mem))
    have read := onMemory_of_ok
      (Bank.read_of_lt (unchanged ▸ memory) (Int.natCast_nonneg _) place)
    rw [Int.toNat_natCast, congrArg (Bank.byteAt · (address + row)) unchanged] at read
    obtain ⟨outbox, drawn⟩ := drawRow_of_sound left ((top + row) % Framebuffer.usualHeight)
      (machine.memory.byteAt (address + row)) sound
    refine ⟨outbox, ?_⟩
    rw [drawHeldRow, Operation.bind_of_ok read]
    exact (Operation.bind_of_ok drawn).trans rfl
  obtain ⟨outbox, drawn⟩ := foldlM_of_inverts round false machine rfl sound
  rw [Bool.or_false, ← List.map_flatMap, ← Sprite.dots_held] at drawn
  exact ⟨outbox, drawn⟩

/-- **A sprite in memory is drawn whole.** A sprite without rows lies anywhere. -/
theorem drawRows_of_le (memory : machine.memory.HasCells Memory.size)
    (sound : machine.display.Sound width height) (left top : Nat) {address rows : Nat}
    (inside : rows = 0 ∨ address + rows ≤ Memory.size) :
    let dots := heldDots width height machine.memory left top address rows
    ∃ outbox, drawRows left top address rows machine =
      .ok (machine.display.strikes dots)
        { machine with display := machine.display.invert dots, outbox := outbox } :=
  foldlM_drawHeldRow memory sound left top address rows fun row lt => by omega

/-- **A sprite that reaches past memory** is refused at the first row outside,
with the rows before it drawn. -/
theorem drawRows_of_gt (memory : machine.memory.HasCells Memory.size)
    (sound : machine.display.Sound width height) (left top : Nat) {address rows : Nat}
    (some : 0 < rows) (outside : Memory.size < address + rows) :
    let dots := heldDots width height machine.memory left top address (Memory.size - address)
    ∃ outbox, drawRows left top address rows machine =
      .error (.outOfRange (max address Memory.size : Nat))
        { machine with display := machine.display.invert dots, outbox := outbox } := by
  generalize fitting : Memory.size - address = fit
  intro dots
  obtain ⟨beyond, rfl⟩ : ∃ beyond, rows = fit + (beyond + 1) := ⟨rows - fit - 1, by omega⟩
  have split : List.range (fit + (beyond + 1)) =
      List.range fit ++ fit :: (List.range beyond).map (fun row => fit + (row + 1)) := by
    rw [List.range_add, List.range_succ_eq_map, List.map_cons, List.map_map]
    rfl
  obtain ⟨outbox, drawn⟩ := foldlM_drawHeldRow memory sound left top address fit
    fun row lt => by omega
  have first : address + fit = max address Memory.size := by omega
  -- the row that does not fit is read from the machine that the rows before it have left
  have refused : ∀ hit, drawHeldRow left top address hit fit
      { machine with display := machine.display.invert dots, outbox := outbox } =
        .error (.outOfRange (max address Memory.size : Nat))
          { machine with display := machine.display.invert dots, outbox := outbox } := by
    intro hit
    rw [← first]
    exact Operation.bind_of_error (onMemory_of_error (Bank.read_of_ge memory (by omega)))
  refine ⟨outbox, ?_⟩
  change (List.range (fit + (beyond + 1))).foldlM (drawHeldRow left top address) false machine = _
  rw [split, List.foldlM_append, Operation.bind_of_ok drawn, List.foldlM_cons,
    Operation.bind_of_error (refused _)]

end Machine
end Chip8
