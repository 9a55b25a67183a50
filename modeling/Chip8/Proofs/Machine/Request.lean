import Chip8.Proofs.Machine.Keys
import Chip8.Proofs.Machine.Reset
import Chip8.Proofs.Machine.Step
/-!
# Machines in use

Whoever drives a machine makes requests of it, one after another and in any
order, and goes on after a request that crashed from what that left. The
machines reached in this way from one that was switched on are the
`Reachable` ones. On a sound machine no request but a step can crash
(`serve_of_ne_step`), and every request leaves what `answered` says (`after_eq`).
-/

namespace Chip8

/-- What a machine is asked to do. -/
inductive Request where
  /-- Run an instruction. -/
  | step
  /-- Count the timers down. -/
  | tick
  /-- A key goes down. -/
  | keyDown (code : Option KeyCode)
  /-- A key goes up. -/
  | keyUp (code : Option KeyCode)
  /-- Start again. -/
  | reset
  /-- Start again with a program. -/
  | load (rom : List UInt8)
  /-- Repaint. -/
  | refresh
  deriving DecidableEq, Repr

namespace Machine

/-- What a machine does on a request. -/
def serve : Request → Running Framebuffer Unit
  | .step => do
    let _ ← step
  | .tick => direct tick
  | .keyDown code => do
    let _ ← direct (keyDown code)
  | .keyUp code => do
    let _ ← direct (keyUp code)
  | .reset => direct reset
  | .load rom => do
    let _ ← direct (loadRom rom)
  | .refresh => direct refreshDisplay

/-- The machine after a request, whether or not it crashed. -/
def after (machine : Machine Framebuffer) (request : Request) : Machine Framebuffer :=
  match serve request machine with
  | .ok _ machine => machine
  | .error _ machine => machine

/-- The machine after requests made one after another. -/
def afterAll (machine : Machine Framebuffer) (requests : List Request) : Machine Framebuffer :=
  requests.foldl after machine

/-- **The machines in use** with a display of given sides. -/
inductive Reachable (width height : Nat) : Machine Framebuffer → Prop where
  /-- A machine that was switched on. -/
  | start {keymap traced noise machine} (width_pos : 0 < width) (height_pos : 0 < height)
      (on : switchOn keymap (Framebuffer.blank width height) traced noise = .ok machine) :
      Reachable width height machine
  /-- A machine after a request. -/
  | served {machine} (reachable : Reachable width height machine) (request : Request) :
      Reachable width height (machine.after request)

variable {width height : Nat} {machine left : Machine Framebuffer} {request : Request}

theorem Reachable.afterAll (reachable : Reachable width height machine)
    (requests : List Request) : Reachable width height (machine.afterAll requests) := by
  induction requests generalizing machine with
  | nil => exact reachable
  | cons request requests ih => exact ih (reachable.served request)

/-! ## Keys -/

/-- The machine after a key of its keymap has gone down, with the outbox as it
was. -/
def pressed (key : Fin 16) (machine : Machine Framebuffer) : Machine Framebuffer :=
  match machine.keypad.latch with
  | none => { machine with keypad := machine.keypad.press key }
  | some number =>
    { machine with
      registers := machine.registers.set (Fin.ofNat 16 number.toNat) (UInt8.ofInt key.val)
      keypad := (machine.keypad.press key).unlatch }

theorem keyDown_of_some (sound : machine.Sound width height) {code : Option KeyCode}
    {key : Fin 16} (known : machine.keypad.logical? code = some key) :
    ∃ outbox, keyDown code machine =
      .ok (some key) { machine.pressed key with outbox := outbox } := by
  rw [pressed]
  cases latch : machine.keypad.latch with
  | none =>
    obtain ⟨outbox, run⟩ := keyDown_of_awaits (show machine.keypad.Awaits none from latch) known
    rw [Keypad.unlatch_of_free (show (machine.keypad.press key).latch = none from latch)] at run
    exact ⟨outbox, run⟩
  | some number =>
    obtain ⟨low, high⟩ := sound.latch number latch
    have awaits : machine.keypad.Awaits (some (Fin.ofNat 16 number.toNat)) := by
      rw [Keypad.Awaits, latch, Option.map_some, Fin.val_ofNat, Option.some_inj]
      omega
    obtain ⟨outbox, run⟩ := keyDown_of_awaits awaits known
    rw [ofInt_key]
    exact ⟨outbox, run⟩

/-! ## Answers -/

/-- The machine after a request, with the outbox as it was; what a step leaves
is a matter of its course. -/
def answered (machine : Machine Framebuffer) : Request → Machine Framebuffer
  | .step => machine.after .step
  | .tick => { machine with timers := machine.timers.tick.1 }
  | .keyDown code =>
    match machine.keypad.logical? code with
    | none => machine
    | some key => machine.pressed key
  | .keyUp code =>
    match machine.keypad.logical? code with
    | none => machine
    | some key => { machine with keypad := machine.keypad.release key }
  | .reset => machine.restarted
  | .load rom => machine.loadedWith rom
  | .refresh => { machine with display := { machine.display with dirty := false } }

/-- Keys that go down or up leave the display alone. -/
theorem display_answered_key (machine : Machine Framebuffer) (code : Option KeyCode) :
    (machine.answered (.keyDown code)).display = machine.display ∧
      (machine.answered (.keyUp code)).display = machine.display := by
  simp only [answered]
  cases machine.keypad.logical? code with
  | none => exact ⟨rfl, rfl⟩
  | some key =>
    refine ⟨?_, rfl⟩
    simp only [pressed]
    split <;> rfl

theorem direct_of_ok {α : Type} {operation : Operation (Machine Framebuffer) α} {result : α}
    (h : operation machine = .ok result left) : direct operation machine = .ok result left := by
  rw [direct, h]

theorem keyUp_eq (code : Option KeyCode) (machine : Machine Framebuffer) :
    ∃ key, keyUp code machine = .ok key (machine.answered (.keyUp code)) := by
  rw [keyUp, get_bind, answered]
  cases machine.keypad.logical? code with
  | none => exact ⟨none, rfl⟩
  | some key => exact ⟨some key, rfl⟩

theorem refreshDisplay_eq (machine : Machine Framebuffer) :
    ∃ outbox, refreshDisplay machine =
      .ok () { machine.answered .refresh with outbox := outbox } :=
  paint_eq [.refresh machine.display.dirty] (machine.answered .refresh)

/-- **No request but a step can crash.** -/
theorem serve_of_ne_step (sound : machine.Sound width height) (other : request ≠ .step) :
    ∃ outbox, serve request machine =
      .ok () { machine.answered request with outbox := outbox } := by
  cases request with
  | step => exact absurd rfl other
  | tick =>
    obtain ⟨outbox, counted⟩ := updateTimers_eq Timers.tick machine
    exact ⟨outbox, direct_of_ok counted⟩
  | keyDown code =>
    rw [answered]
    cases known : machine.keypad.logical? code with
    | none =>
      exact ⟨machine.outbox, Operation.bind_of_ok (direct_of_ok (keyDown_of_none known))⟩
    | some key =>
      obtain ⟨outbox, filled⟩ := keyDown_of_some sound known
      exact ⟨outbox, Operation.bind_of_ok (direct_of_ok filled)⟩
  | keyUp code =>
    obtain ⟨key, released⟩ := keyUp_eq code machine
    exact ⟨(machine.answered (.keyUp code)).outbox, Operation.bind_of_ok (direct_of_ok released)⟩
  | reset =>
    obtain ⟨outbox, emptied⟩ := reset_eq sound
    exact ⟨outbox, direct_of_ok emptied⟩
  | load rom =>
    obtain ⟨outbox, loaded⟩ := loadRom_eq sound rom
    exact ⟨outbox, Operation.bind_of_ok (direct_of_ok loaded)⟩
  | refresh =>
    obtain ⟨outbox, painted⟩ := refreshDisplay_eq machine
    exact ⟨outbox, direct_of_ok painted⟩

theorem after_of_ok (h : serve request machine = .ok () left) : machine.after request = left := by
  rw [after, h]

theorem after_of_error {crash : Crash} (h : serve request machine = .error crash left) :
    machine.after request = left := by
  rw [after, h]

/-- **What a request leaves.** -/
theorem after_eq (sound : machine.Sound width height) (request : Request) :
    ∃ outbox, machine.after request = { machine.answered request with outbox := outbox } := by
  by_cases other : request = .step
  · subst other
    exact ⟨(machine.after .step).outbox, rfl⟩
  · obtain ⟨outbox, served⟩ := serve_of_ne_step sound other
    exact ⟨outbox, after_of_ok served⟩

theorem after_step_of_ok {ran : Bool} (run : step machine = .ok ran left) :
    machine.after .step = left :=
  after_of_ok (Operation.bind_of_ok run)

theorem after_step_of_error {crash : Crash} (run : step machine = .error crash left) :
    machine.after .step = left :=
  after_of_error (Operation.bind_of_error run)

/-! ## A machine with a program -/

/-- The usual machine with a program loaded, with an empty outbox. -/
def booted (rom : List UInt8) : Machine Framebuffer :=
  (parts usualKeys (Framebuffer.blank 64 32) false fun _ => 0).restarted.loadedWith rom

/-- Any program can be loaded into the usual machine. -/
theorem reachable_booted (rom : List UInt8) :
    ∃ outbox, Reachable 64 32 { booted rom with outbox := outbox } := by
  obtain ⟨first, on⟩ := @switchOn_eq 64 32 (by decide) (by decide) usualKeys false fun _ => 0
  have start := Reachable.start (by decide) (by decide) on
  have sound := (sound_parts (by decide) (by decide) usualKeys false fun _ => 0 :
    (parts usualKeys (Framebuffer.blank 64 32) false fun _ => 0).Sound 64 32)
  obtain ⟨second, loaded⟩ := after_eq (sound.restarted.withOutbox first) (.load rom)
  have reachable := start.served (.load rom)
  rw [loaded] at reachable
  exact ⟨second, reachable⟩

/-- The words of the program lie from the start of the program area on. -/
theorem wordAt_booted {rom : List UInt8} (fits : rom.length ≤ Memory.programCapacity) {k : Nat}
    (inside : k + 1 < rom.length) :
    (booted rom).memory.wordAt (Memory.programStart + k) =
      256 * (rom.getD k 0).toNat + (rom.getD (k + 1) 0).toNat := by
  have high := Memory.byteAt_loaded fits (Nat.lt_of_succ_lt inside)
  have low := Memory.byteAt_loaded fits inside
  exact congr (congrArg (fun high low : UInt8 => 256 * high.toNat + low.toNat) high) low

end Machine
end Chip8
