import Chip8.Proofs.Machine.CallStack
import Chip8.Proofs.Machine.Loading
import Chip8.Proofs.Machine.Signals
/-!
# The footprint of an instruction

What a completed step may touch hangs on the digits of the upcoming word:
`Stores` names the bytes of memory, `Writes` the registers, and `Footprint` goes
through all the parts of a machine. Each part has one lemma, by cases on the
instruction, and all of them meet in `Reachable.footprint`. A word that is no
instruction touches nothing at all, and is warned of.
-/

namespace Chip8
namespace Opcode

/-! ## What a word may touch -/

/-- The word may change the byte at a location, with the index register at
`index`: one that stores digits changes three bytes, and one that stores registers
as many as it stores. -/
def Stores (word index location : Nat) : Prop :=
  index ≤ location ∧
    ((word / 4096 = 0xF ∧ word % 256 = 0x33 ∧ location ≤ index + 2) ∨
      (word / 4096 = 0xF ∧ word % 256 = 0x55 ∧ location ≤ index + word / 256 % 16))

/-- The word has a result, which goes to the register that its second digit
names. -/
def HasResult (word : Nat) : Prop :=
  word / 4096 = 0x6 ∨ word / 4096 = 0x7 ∨
    (word / 4096 = 0x8 ∧ (word % 16 ≤ 0x7 ∨ word % 16 = 0xE)) ∨
    word / 4096 = 0xC ∨ (word / 4096 = 0xF ∧ word % 256 = 0x07)

/-- The word sets the flag. -/
def HasFlag (word : Nat) : Prop :=
  (word / 4096 = 0x8 ∧ (word % 16 = 0x4 ∨ word % 16 = 0x5 ∨ word % 16 = 0x6 ∨ word % 16 = 0x7 ∨
    word % 16 = 0xE)) ∨ word / 4096 = 0xD

/-- The word may change a register. -/
def Writes (word : Nat) (r : Fin 16) : Prop :=
  (HasResult word ∧ r.val = word / 256 % 16) ∨ (HasFlag word ∧ r.val = 15) ∨
    (word / 4096 = 0xF ∧ word % 256 = 0x65 ∧ r.val ≤ word / 256 % 16)

/-- The word may change the index register. -/
def SetsIndex (word : Nat) : Prop :=
  word / 4096 = 0xA ∨ (word / 4096 = 0xF ∧ (word % 256 = 0x1E ∨ word % 256 = 0x29))

/-- The word draws or clears. -/
def Draws (word : Nat) : Prop := word = 0x00E0 ∨ word / 4096 = 0xD

/-- The word is no instruction. -/
def Unrecognised (word : Nat) : Prop :=
  ∀ i : Instruction, i ≠ .unknown → ¬ i.Matches word

/-- The word may have the machine send the signal: one that draws paints, one that
sets the sound timer asks for a tone or for silence, and one that is no instruction
is warned of. -/
def Sends (word : Nat) : Signal → Prop
  | .paint _ => Draws word
  | .tone _ => word / 4096 = 0xF ∧ word % 256 = 0x18
  | .noted entry => Unrecognised word ∧ entry.level = .warning
  | _ => False

end Opcode

namespace Machine

open Opcode

/-- **What a completed step may touch**, part by part. -/
structure Footprint (before after : Machine Framebuffer) : Prop where
  /-- Memory has the bytes it had, but for those that the word stores. -/
  memory : ∀ location, after.memory.byteAt location ≠ before.memory.byteAt location →
    Stores before.upcomingWord before.index location
  /-- And it has as many. -/
  cells : after.memory.size = before.memory.size ∧
    after.memory.cells.size = before.memory.cells.size
  registers : ∀ r, after.registers.get r ≠ before.registers.get r → Writes before.upcomingWord r
  index : after.registers.i ≠ before.registers.i → SetsIndex before.upcomingWord
  /-- The slots of the call stack and its pointer. -/
  stack : after.registers.stack ≠ before.registers.stack →
    before.upcomingWord / 4096 = 0x2 ∨ before.upcomingWord = 0x00EE
  delay : after.timers.delay ≠ before.timers.delay →
    before.upcomingWord / 4096 = 0xF ∧ before.upcomingWord % 256 = 0x15
  sound : after.timers.sound ≠ before.timers.sound →
    before.upcomingWord / 4096 = 0xF ∧ before.upcomingWord % 256 = 0x18
  tone : after.timers.tone ≠ before.timers.tone →
    before.upcomingWord / 4096 = 0xF ∧ before.upcomingWord % 256 = 0x18
  latch : after.keypad.latch ≠ before.keypad.latch →
    before.upcomingWord / 4096 = 0xF ∧ before.upcomingWord % 256 = 0x0A
  /-- No instruction presses a key or lets go of one. -/
  pressed : after.keypad.pressed = before.keypad.pressed
  keymap : after.keypad.keymap = before.keypad.keymap
  /-- The pixels, the sides, and whether a repaint is wanted. -/
  display : after.display ≠ before.display → Draws before.upcomingWord
  /-- One random byte is drawn by a word that asks for one, and none by any other. -/
  drawn : after.drawn = before.drawn + if before.upcomingWord / 4096 = 0xC then 1 else 0
  surroundings : after.noise = before.noise ∧ after.traced = before.traced
  noted : after.opcode = before.upcomingWord ∧ after.fetchedFrom = before.registers.pc
  /-- After the line of the trace come signals that the word sends. -/
  signals : ∃ sent : List Signal, (∀ signal ∈ sent, Opcode.Sends before.upcomingWord signal) ∧
    after.outbox = before.outbox ++ before.poised.announcement ++ sent
  /-- A word that is no instruction moves the program counter on, and is warned
  of. -/
  ignored : Unrecognised before.upcomingWord →
    after = { before with
      registers := { before.registers with pc := before.following }
      opcode := before.upcomingWord
      fetchedFrom := before.registers.pc
      outbox := before.outbox ++ before.poised.announcement ++ [Signal.noted ⟨.warning,
        "Ignoring unrecognised opcode 0x" ++ Hex.padded 4 before.upcomingWord
          ++ " at address 0x" ++ Hex.padded 3 before.registers.pc⟩] }

variable {width height : Nat} {machine : Machine Framebuffer} {i : Instruction} {word : Nat}

/-! ## Memory -/

theorem stores_of_ne (machine : Machine Framebuffer) (written : i.Matches word) {location : Nat}
    (changed : (machine.memoryAfter i).byteAt location ≠ machine.memory.byteAt location) :
    Stores word machine.index location := by
  cases i with
  | ldB x =>
    obtain ⟨op, last, -⟩ := written
    refine Classical.byContradiction fun other => changed (Bank.byteAt_written_outside ?_)
    have length : (digits (machine.registers.get x)).length = 3 := rfl
    unfold Stores at other
    omega
  | ldMemVx x =>
    obtain ⟨op, last, rfl⟩ := written
    refine Classical.byContradiction fun other => changed (Bank.byteAt_written_outside ?_)
    have length : (machine.registers.v.toList.take (Fin.ofNat 16 (word / 256) + 1)).length =
        word / 256 % 16 + 1 := by
      rw [List.length_take, Vector.length_toList, Fin.val_ofNat]
      omega
    unfold Stores at other
    omega
  | _ => exact absurd rfl changed

theorem cells_memoryAfter (machine : Machine Framebuffer) (i : Instruction) :
    (machine.memoryAfter i).size = machine.memory.size ∧
      (machine.memoryAfter i).cells.size = machine.memory.cells.size := by
  cases i with
  | ldB | ldMemVx => exact ⟨rfl, Bank.size_overwrite _ _ _⟩
  | _ => exact ⟨rfl, rfl⟩

/-! ## Registers -/

theorem get_skipped (machine : Machine Framebuffer) (condition : Bool) (r : Fin 16) :
    (machine.skipped condition).get r = machine.registers.get r := by
  cases condition <;> rfl

theorem eq_of_get_set_ne {registers : Registers} {x r : Fin 16} {value : UInt8}
    (changed : (registers.set x value).get r ≠ registers.get r) : r = x := by
  refine Decidable.byContradiction fun other => ?_
  exact changed (Registers.get_set_of_ne (Ne.symm other))

theorem eq_of_get_flagged_ne {x r : Fin 16} {result : UInt8} {flag : Bool}
    (changed : (machine.flagged x result flag).get r ≠ machine.registers.get r) :
    r = x ∨ r = Registers.flag := by
  refine Decidable.byContradiction fun other => changed ?_
  obtain ⟨notResult, notFlag⟩ := not_or.1 other
  rw [flagged, Registers.get_set_of_ne (Ne.symm notFlag),
    Registers.get_set_of_ne (Ne.symm notResult)]

theorem writes_of_hasResult (result : HasResult word) : Writes word (Fin.ofNat 16 (word / 256)) :=
  Or.inl ⟨result, rfl⟩

theorem writes_of_hasFlag (flag : HasFlag word) : Writes word Registers.flag :=
  Or.inr (Or.inl ⟨flag, rfl⟩)

/-- A register that an instruction changes is one that its word may change. -/
theorem writes_of_ne (machine : Machine Framebuffer) (written : i.Matches word) {r : Fin 16}
    (changed : (machine.registersAfter i).get r ≠ machine.registers.get r) : Writes word r := by
  cases i with
  | seByte | sneByte | seReg | sneReg | skp | sknp =>
    exact absurd (get_skipped machine _ r) changed
  | ldByte | addByte | rnd =>
    obtain ⟨op, rfl, -⟩ := written
    rw [eq_of_get_set_ne changed]
    exact writes_of_hasResult (by unfold HasResult; omega)
  | ldReg | orReg | andReg | xorReg =>
    obtain ⟨op, last, rfl, -⟩ := written
    rw [eq_of_get_set_ne changed]
    exact writes_of_hasResult (by unfold HasResult; omega)
  | ldVxDt =>
    obtain ⟨op, last, rfl⟩ := written
    rw [eq_of_get_set_ne changed]
    exact writes_of_hasResult (by unfold HasResult; omega)
  | addReg | sub | subn =>
    obtain ⟨op, last, rfl, -⟩ := written
    rcases eq_of_get_flagged_ne changed with rfl | rfl
    · exact writes_of_hasResult (by unfold HasResult; omega)
    · exact writes_of_hasFlag (by unfold HasFlag; omega)
  | shr | shl =>
    obtain ⟨op, last, rfl⟩ := written
    rcases eq_of_get_flagged_ne changed with rfl | rfl
    · exact writes_of_hasResult (by unfold HasResult; omega)
    · exact writes_of_hasFlag (by unfold HasFlag; omega)
  | drw x y n =>
    obtain ⟨⟨op, -, -⟩, -⟩ := written
    rw [eq_of_get_set_ne changed]
    exact writes_of_hasFlag (Or.inr op)
  | ldVxMem x =>
    obtain ⟨op, last, rfl⟩ := written
    have loads : r.val < word / 256 % 16 + 1 := Decidable.byContradiction fun beyond =>
      changed ((get_loaded machine _ r).trans (if_neg beyond))
    exact Or.inr (Or.inr ⟨op, last, Nat.le_of_lt_succ loads⟩)
  | _ => exact absurd rfl changed

theorem setsIndex_of_ne (machine : Machine Framebuffer) (written : i.Matches word)
    (changed : (machine.registersAfter i).i ≠ machine.registers.i) : SetsIndex word := by
  cases i with
  | ldI nnn => exact Or.inl written.1
  | addI x => exact Or.inr ⟨written.1, Or.inl written.2.1⟩
  | ldF x => exact Or.inr ⟨written.1, Or.inr written.2.1⟩
  | seByte | sneByte | seReg | sneReg | skp | sknp =>
    refine absurd ?_ changed
    simp only [registersAfter, skipped]
    split <;> rfl
  | ldVxMem x => exact absurd (congrArg Registers.i (Registers.fill_eq _ _ _) :) changed
  | _ => exact absurd rfl changed

theorem moves_of_stack_ne (machine : Machine Framebuffer) (written : i.Matches word)
    (changed : (machine.registersAfter i).stack ≠ machine.registers.stack) :
    word / 4096 = 0x2 ∨ word = 0x00EE := by
  cases i with
  | call nnn => exact Or.inl written.1
  | ret => exact Or.inr written
  | _ => exact absurd (stack_registersAfter (by nofun) (by nofun)) changed

/-! ## Timers, keypad, display and randomness -/

theorem eq_of_delay_ne (machine : Machine Framebuffer) (written : i.Matches word)
    (changed : (machine.timersAfter i).delay ≠ machine.timers.delay) :
    word / 4096 = 0xF ∧ word % 256 = 0x15 := by
  cases i with
  | ldDtVx x => exact ⟨written.1, written.2.1⟩
  | ldStVx x =>
    refine absurd ?_ changed
    simp only [timersAfter, Timers.setSound]
    split <;> rfl
  | _ => exact absurd rfl changed

theorem eq_of_sound_ne (machine : Machine Framebuffer) (written : i.Matches word)
    (changed : (machine.timersAfter i).sound ≠ machine.timers.sound ∨
      (machine.timersAfter i).tone ≠ machine.timers.tone) :
    word / 4096 = 0xF ∧ word % 256 = 0x18 := by
  cases i with
  | ldStVx x => exact ⟨written.1, written.2.1⟩
  | _ => exact changed.elim (absurd rfl) (absurd rfl)

theorem eq_of_latch_ne (machine : Machine Framebuffer) (written : i.Matches word)
    (changed : (machine.keypadAfter i).latch ≠ machine.keypad.latch) :
    word / 4096 = 0xF ∧ word % 256 = 0x0A := by
  cases i with
  | ldVxK x => exact ⟨written.1, written.2.1⟩
  | _ => exact absurd rfl changed

/-- Waiting for a key is all that an instruction does to the keypad. -/
theorem keypadAfter_eq (machine : Machine Framebuffer) (i : Instruction) :
    machine.keypadAfter i = { machine.keypad with latch := (machine.keypadAfter i).latch } := by
  cases i <;> rfl

theorem draws_of_ne (machine : Machine Framebuffer) (written : i.Matches word)
    (changed : machine.displayAfter i ≠ machine.display) : Draws word := by
  cases i with
  | cls => exact Or.inl written
  | drw x y n => exact Or.inr written.1.1
  | _ => exact absurd rfl changed

theorem drawn_eq (upcoming : machine.upcoming = i) :
    machine.drawnAfter i = machine.drawn + if machine.upcomingWord / 4096 = 0xC then 1 else 0 := by
  by_cases op : machine.upcomingWord / 4096 = 0xC
  · have asks : machine.upcoming = .rnd _ _ := upcoming_of_matches nofun ⟨op, rfl, rfl⟩
    rw [← upcoming, asks, if_pos op]
    rfl
  · rw [if_neg op]
    cases i with
    | rnd x kk => exact absurd (matches_of_upcoming upcoming).1 op
    | _ => rfl

/-! ## Signals -/

theorem unrecognised_iff : Unrecognised machine.upcomingWord ↔ machine.upcoming = .unknown := by
  constructor
  · intro unrecognised
    refine Decidable.byContradiction fun known => ?_
    exact unrecognised machine.upcoming known (matches_of_upcoming rfl)
  · intro unknown i known written
    exact known ((upcoming_of_matches known written).symm.trans unknown)

theorem sends_of_sends {signal : Signal} (sends : machine.upcoming.Sends signal) :
    Opcode.Sends machine.upcomingWord signal := by
  have written : machine.upcoming.Matches machine.upcomingWord := matches_of_upcoming rfl
  rcases sends with emits | ⟨⟨x, sets⟩, request, rfl⟩
  · cases upcoming : machine.upcoming with
    | cls =>
      rw [upcoming] at emits written
      obtain ⟨call, rfl⟩ := emits
      exact Or.inl written
    | drw x y n =>
      rw [upcoming] at emits written
      obtain ⟨call, rfl⟩ := emits
      exact Or.inr written.1.1
    | unknown =>
      rw [upcoming] at emits
      obtain ⟨text, rfl⟩ := emits
      exact ⟨unrecognised_iff.2 upcoming, rfl⟩
    | _ =>
      rw [upcoming] at emits
      exact emits.elim
  · rw [sets] at written
    exact ⟨written.1, written.2.1⟩

/-- A word that is no instruction moves the program counter on, and is warned of. -/
theorem step_of_unrecognised (sound : machine.Sound width height)
    (ready : machine.keypad.isAwaiting = false) (fits : ¬ machine.AtTop)
    (unrecognised : Unrecognised machine.upcomingWord) :
    step machine = .ok true { machine with
      registers := { machine.registers with pc := machine.following }
      opcode := machine.upcomingWord
      fetchedFrom := machine.registers.pc
      outbox := machine.outbox ++ machine.poised.announcement ++ [Signal.noted ⟨.warning,
        "Ignoring unrecognised opcode 0x" ++ Hex.padded 4 machine.upcomingWord
          ++ " at address 0x" ++ Hex.padded 3 machine.registers.pc⟩] } := by
  rw [step_of_not_atTop sound ready fits, unrecognised_iff.1 unrecognised]
  rfl

/-! ## The footprint -/

/-- **The footprint of every instruction.** A step that is completed touches what the
word that it executes may touch, and leaves the rest of the machine alone. -/
theorem Reachable.footprint {left : Machine Framebuffer}
    (reachable : Reachable width height machine) (run : step machine = .ok true left) :
    machine.Footprint left := by
  have sound := reachable.sound
  have written : machine.upcoming.Matches machine.upcomingWord := matches_of_upcoming rfl
  obtain ⟨ready, fits, granted, outbox, ⟨sent, sends, rfl⟩, rfl⟩ := sound.of_completed run
  exact {
    memory := fun location changed => stores_of_ne machine.poised written changed
    cells := cells_memoryAfter machine.poised machine.upcoming
    registers := fun r changed => writes_of_ne machine.poised written changed
    index := fun changed => setsIndex_of_ne machine.poised written changed
    stack := fun changed => moves_of_stack_ne machine.poised written changed
    delay := fun changed => eq_of_delay_ne machine.poised written changed
    sound := fun changed => eq_of_sound_ne machine.poised written (Or.inl changed)
    tone := fun changed => eq_of_sound_ne machine.poised written (Or.inr changed)
    latch := fun changed => eq_of_latch_ne machine.poised written changed
    pressed := (congrArg Keypad.pressed (keypadAfter_eq machine.poised machine.upcoming) :)
    keymap := (congrArg Keypad.keymap (keypadAfter_eq machine.poised machine.upcoming) :)
    display := fun changed => draws_of_ne machine.poised written changed
    drawn := drawn_eq rfl
    surroundings := ⟨rfl, rfl⟩
    noted := ⟨rfl, rfl⟩
    signals := ⟨sent, fun signal mem => sends_of_sends (sends signal mem), rfl⟩
    ignored := fun unrecognised => by
      have again := step_of_unrecognised sound ready fits unrecognised
      rw [run] at again
      injection again }

/-- A program whose first word stores the digits of a register finds the font at the
index register, and changes it. -/
theorem footprint_of_digits :
    ∃ machine left, Reachable 64 32 machine ∧ step machine = .ok true left ∧
      machine.Footprint left ∧ left.memory.byteAt 0 ≠ machine.memory.byteAt 0 := by
  obtain ⟨first, storing, stores⟩ :=
    reachable_first [0xF0, 0x33] (.ldB 0) (by decide) (by decide) rfl
  have low : ¬ (0xFFF : Int) ≤ 0x200 := by decide
  obtain ⟨second, run, -⟩ := storing.granted rfl low (by rw [stores]; rfl)
  rw [stores] at run
  refine ⟨_, _, storing, run, storing.footprint run, ?_⟩
  have font : (booted [0xF0, 0x33]).memory.byteAt 0 = 0xF0 :=
    byteAt_loadedWith [0xF0, 0x33] (by decide)
  have digit : ((booted [0xF0, 0x33]).memory.written 0 (digits 0)).byteAt (0 + 0) = 0 :=
    Bank.byteAt_written_inside storing.sound.memory (by decide) (by decide)
  intro same
  exact absurd (digit.symm.trans (same.trans font)) (by decide)

end Machine
end Chip8
