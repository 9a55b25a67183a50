import Chip8.Proofs.Machine.Interruption
import Chip8.Proofs.Machine.Loading
/-!
# Repaints

A pixel that is toggled does not say so; the instructions that reach it do. The
shown frame is what the display held at the last refresh, and `Showing` carries it
along a run in which no step halts. Every request of such a run leaves the display
alone or wants a repaint (`display_of_served`), so that a display which wants none
holds the shown frame (`repaint`).
-/

namespace Chip8
namespace Machine

/-- **A machine and its shown frame**, along a run in which every request is served. No
frame has been shown before the first refresh. -/
inductive Showing (width height : Nat) : Option Bank → Machine Framebuffer → Prop where
  /-- A machine that was switched on. -/
  | start {keymap traced noise machine} (width_pos : 0 < width) (height_pos : 0 < height)
      (on : switchOn keymap (Framebuffer.blank width height) traced noise = .ok machine) :
      Showing width height none machine
  /-- A refresh shows what the display holds. -/
  | refreshed {frame machine} (showing : Showing width height frame machine) {left}
      (served : serve .refresh machine = .ok () left) :
      Showing width height (some machine.display.pixels) left
  /-- Any other request shows nothing. -/
  | served {frame machine} (showing : Showing width height frame machine) {request : Request}
      (other : request ≠ .refresh) {left} (served : serve request machine = .ok () left) :
      Showing width height frame left

variable {width height : Nat} {machine left : Machine Framebuffer} {frame : Option Bank}

/-- A machine that shows frames is a machine in use. -/
theorem Showing.reachable (showing : Showing width height frame machine) :
    Reachable width height machine := by
  induction showing with
  | start width_pos height_pos on => exact .start width_pos height_pos on
  | refreshed showing served ih =>
    rw [← after_of_ok served]
    exact ih.served .refresh
  | served showing other served ih =>
    rw [← after_of_ok served]
    exact ih.served _

/-! ## One request -/

/-- A refresh hands the display to the renderer, and says whether it has changed. -/
theorem serve_refresh (machine : Machine Framebuffer) :
    serve .refresh machine = .ok () { machine.answered .refresh with
      outbox := machine.outbox.push (.paint (.refresh machine.display.dirty)) } := rfl

/-- An instruction that is granted leaves the display alone or wants a repaint. -/
theorem displayAfter_eq_or_dirty (machine : Machine Framebuffer) (i : Instruction) :
    machine.displayAfter i = machine.display ∨ (machine.displayAfter i).dirty = true := by
  cases i with
  | cls | drw => exact Or.inr rfl
  | _ => exact Or.inl rfl

/-- **A request that is served leaves the display alone or wants a repaint**, refreshes
apart. -/
theorem display_of_served (sound : machine.Sound width height) {request : Request}
    (other : request ≠ .refresh) (served : serve request machine = .ok () left) :
    left.display = machine.display ∨ left.display.dirty = true := by
  by_cases stepped : request = .step
  · subst stepped
    have course := sound.course
    cases run : step machine with
    | ok ran after =>
      have same : after = left := (after_step_of_ok run).symm.trans (after_of_ok served)
      rw [run] at course
      subst same
      cases course with
      | awaited awaiting => exact Or.inl rfl
      | granted ready fits granted outbox =>
        exact displayAfter_eq_or_dirty machine.poised machine.upcoming
    | error crash after =>
      have failed : serve .step machine = .error crash after := Operation.bind_of_error run
      rw [failed] at served
      exact nomatch served
  · obtain ⟨outbox, answered⟩ := serve_of_ne_step sound stepped
    rw [answered] at served
    injection served with _ same
    subst same
    cases request with
    | step => exact absurd rfl stepped
    | tick => exact Or.inl rfl
    | keyDown code => exact Or.inl (display_answered_key machine code).1
    | keyUp code => exact Or.inl (display_answered_key machine code).2
    | reset | load => exact Or.inr rfl
    | refresh => exact absurd rfl other

/-! ## Runs -/

/-- A display that wants no repaint holds the shown frame. -/
theorem Showing.frame_eq (showing : Showing width height frame machine)
    (clean : machine.display.dirty = false) : frame = some machine.display.pixels := by
  induction showing with
  | start width_pos height_pos on =>
    rename_i keymap traced noise machine
    obtain ⟨outbox, switched⟩ := switchOn_eq width_pos height_pos keymap traced noise
    rw [switched] at on
    injection on with same
    subst same
    exact absurd clean.symm Bool.false_ne_true
  | refreshed showing served ih =>
    rw [serve_refresh] at served
    injection served with _ same
    rw [← same]
    rfl
  | served showing other served ih =>
    rcases display_of_served showing.reachable.sound other served with same | dirty
    · rw [same] at clean ⊢
      exact ih clean
    · rw [dirty] at clean
      exact absurd clean.symm Bool.false_ne_true

/-! ## A frame and a drawing -/

/-- The usual machine, with a program loaded and its first frame shown. -/
theorem exists_showing (rom : List UInt8) :
    ∃ machine, Showing 64 32 (some machine.display.pixels) machine ∧
      machine.memory = (booted rom).memory ∧ machine.registers = (booted rom).registers ∧
      machine.keypad.isAwaiting = false ∧
      machine.display.pixels = Bank.blank ((64 : Nat) * (32 : Nat)) := by
  obtain ⟨first, on⟩ := @switchOn_eq 64 32 (by decide) (by decide) usualKeys false fun _ => 0
  have started := Showing.start (by decide) (by decide) on
  obtain ⟨second, loaded⟩ := serve_of_ne_step started.reachable.sound
    (show Request.load rom ≠ .step from nofun)
  obtain ⟨machine, showing, memory, registers, ready, blank⟩ : ∃ machine,
      Showing 64 32 none machine ∧ machine.memory = (booted rom).memory ∧
      machine.registers = (booted rom).registers ∧ machine.keypad.isAwaiting = false ∧
      machine.display.pixels = Bank.blank ((64 : Nat) * (32 : Nat)) :=
    ⟨_, started.served (by nofun) loaded, rfl, rfl, rfl, rfl⟩
  exact ⟨{ machine.answered .refresh with outbox := _ },
    showing.refreshed (serve_refresh machine), memory, registers, ready, blank⟩

/-- A sprite of one row that begins with a dot is drawn from the corner on. -/
theorem corner_mem_spriteDots (sound : machine.Sound 64 32) {x y : Fin 16}
    (left : machine.registers.get x = 0) (top : machine.registers.get y = 0)
    (dot : (machine.memory.byteAt machine.index).toNat.testBit 7 = true) :
    (0, 0) ∈ machine.spriteDots x y 1 := by
  rw [spriteDots_usual sound.display, Sprite.mem_dots_held, left, top]
  exact ⟨0, by decide, 0, by decide, dot, rfl⟩

/-- What is drawn from the corner on changes a display that was blank. -/
theorem invert_ne_blank (sound : machine.Sound 64 32) {x y : Fin 16}
    (blank : machine.display.pixels = Bank.blank ((64 : Nat) * (32 : Nat)))
    (corner : (0, 0) ∈ machine.spriteDots x y 1) :
    (machine.display.invert (machine.spriteDots x y 1)).pixels ≠ machine.display.pixels := by
  intro same
  have lit := (pixel_invert_spriteDots sound.display x y (show 1 ≤ 32 by decide)
    (show 0 < 64 by decide) (show 0 < 32 by decide)).trans (if_pos corner)
  rw [Framebuffer.pixel, Framebuffer.pixel, same, blank, Bank.byteAt_blank,
    Bank.byteAt_blank] at lit
  exact absurd lit (by decide)

/-- A program that draws can be run after the first frame has been shown. -/
theorem exists_drawn :
    ∃ shown drawn, Showing 64 32 (some shown.display.pixels) shown ∧
      shown.upcoming = .drw 0 0 1 ∧ serve .step shown = .ok () drawn ∧
      drawn.display.pixels ≠ shown.display.pixels := by
  obtain ⟨machine, showing, memory, registers, ready, blank⟩ := exists_showing [0xD0, 0x01]
  have sound := showing.reachable.sound
  have draws : machine.upcoming = .drw 0 0 1 :=
    upcoming_booted (by decide) (show 0 + 1 < 2 by decide) memory
      ((congrArg Registers.pc registers).trans rfl) rfl
  have fits : ¬ machine.AtTop := by
    rw [AtTop, registers]
    decide
  have index : machine.index = 0 := by
    rw [Machine.index, registers]
    rfl
  have zero : machine.registers.get 0 = 0 := by
    rw [registers]
    rfl
  have dot : (machine.memory.byteAt machine.index).toNat.testBit 7 = true := by
    rw [index, memory, booted, byteAt_loadedWith [0xD0, 0x01] (by decide)]
    decide
  have granted : machine.poised.refusal (.drw 0 0 1) = none := by
    refine if_neg fun outside => ?_
    have last : Memory.size < machine.index + 1 := outside.2
    rw [index] at last
    exact absurd last (by decide)
  obtain ⟨outbox, run⟩ := step_of_granted sound ready fits (by rw [draws]; exact granted)
  rw [draws] at run
  have served : serve .step machine = .ok () _ := Operation.bind_of_ok run
  have changed := invert_ne_blank sound.poised blank
    (corner_mem_spriteDots sound.poised zero zero dot)
  exact ⟨machine, _, showing, draws, served, changed⟩

/-! ## No repaint is lost -/

/-- **No repaint is lost.** In a run in which every request is served, a display that
wants no repaint holds the frame that was shown last; and as long as it holds
another, the next refresh tells the renderer that it has changed. -/
theorem Showing.repaint (showing : Showing width height frame machine) :
    (machine.display.dirty = false → frame = some machine.display.pixels) ∧
    (frame ≠ some machine.display.pixels →
      ∃ left, serve .refresh machine = .ok () left ∧
        left.outbox = machine.outbox.push (.paint (.refresh true)) ∧
        left.display.pixels = machine.display.pixels ∧ left.display.dirty = false) := by
  refine ⟨showing.frame_eq, fun another => ?_⟩
  have dirty : machine.display.dirty = true := by
    rw [← Bool.not_eq_false]
    exact fun clean => another (showing.frame_eq clean)
  refine ⟨_, serve_refresh machine, ?_, rfl, rfl⟩
  rw [dirty]

/-- A frame has been shown, and then a program draws: the next refresh tells the renderer
that the display has changed. -/
theorem repaint_of_drawing :
    ∃ shown drawn left, Showing 64 32 (some shown.display.pixels) shown ∧
      shown.upcoming = .drw 0 0 1 ∧ serve .step shown = .ok () drawn ∧
      drawn.display.pixels ≠ shown.display.pixels ∧ serve .refresh drawn = .ok () left ∧
      left.outbox = drawn.outbox.push (.paint (.refresh true)) := by
  obtain ⟨shown, drawn, showing, draws, served, changed⟩ := exists_drawn
  have later : Showing 64 32 (some shown.display.pixels) drawn :=
    showing.served Request.noConfusion served
  obtain ⟨left, refreshed, sent, -⟩ := later.repaint.2 fun same =>
    changed (Option.some.inj same).symm
  exact ⟨shown, drawn, left, showing, draws, served, changed, refreshed, sent⟩

end Machine
end Chip8
