import Chip8.Machine.Assembly
import Chip8.Proofs.Keymap.Names
import Chip8.Proofs.Machine.Parts
/-!
# Keys of a machine

A key that goes down or up is looked up by its code. If it is none of the keymap nothing
happens (`keyDown_of_none`, `keyUp_of_none`); if it is one, it counts as held or as let go,
and one that goes down fills the register that is awaited (`keyDown_of_awaits`). Of a
machine with a keymap that was read from a text, every code has the key with its name, and
every key has a code (`keymap_inverted`).
-/

namespace Chip8

/-! ## Keys held down -/

namespace Keypad

variable {keypad : Keypad}

/-- The keys that are held down are asked for by their numbers. -/
theorem isPressed_iff {number : Int} :
    keypad.isPressed number = true ↔
      ∃ key : Fin 16, key.val = number ∧ keypad.pressed.get key = true := by
  simp only [isPressed, List.any_eq_true, List.mem_finRange, true_and, Bool.and_eq_true,
    beq_iff_eq]

theorem get_press (pressed k : Fin 16) (keypad : Keypad) :
    (keypad.press pressed).pressed.get k = true ↔
      k = pressed ∨ keypad.pressed.get k = true := by
  change (keypad.pressed.setIfInBounds pressed true)[k.val] = true ↔
    k = pressed ∨ keypad.pressed[k.val] = true
  rw [Vector.getElem_setIfInBounds]
  by_cases same : k = pressed
  · subst same
    simp
  · simp [Fin.val_ne_of_ne (Ne.symm same), same]

theorem get_release (released k : Fin 16) (keypad : Keypad) :
    (keypad.release released).pressed.get k = true ↔
      k ≠ released ∧ keypad.pressed.get k = true := by
  change (keypad.pressed.setIfInBounds released false)[k.val] = true ↔
    k ≠ released ∧ keypad.pressed[k.val] = true
  rw [Vector.getElem_setIfInBounds]
  by_cases same : k = released
  · subst same
    simp
  · simp [Fin.val_ne_of_ne (Ne.symm same), same]

/-- No key is held at first. -/
theorem get_initial (keymap : Keymap) (k : Fin 16) :
    (initial keymap).pressed.get k = false :=
  Vector.getElem_replicate k.isLt

/-- A key that goes down is held down with the others. -/
theorem isPressed_press (key : Fin 16) (keypad : Keypad) (number : Int) :
    (keypad.press key).isPressed number = true ↔
      number = key.val ∨ keypad.isPressed number = true := by
  simp only [isPressed_iff, get_press]
  constructor
  · rintro ⟨k, named, rfl | down⟩
    · exact .inl named.symm
    · exact .inr ⟨k, named, down⟩
  · rintro (named | ⟨k, named, down⟩)
    · exact ⟨key, named.symm, .inl rfl⟩
    · exact ⟨k, named, .inr down⟩

/-! ## The register that is awaited -/

/-- The register that is awaited, if one is; the latch names no other number. -/
def Awaits (keypad : Keypad) (awaited : Option (Fin 16)) : Prop :=
  keypad.latch = awaited.map fun register => (register.val : Int)

/-- A wait that is not on does not end. -/
theorem unlatch_of_free (free : keypad.latch = none) : keypad.unlatch = keypad := by
  rw [unlatch, ← free]

end Keypad

/-- The number of a key as a byte. -/
theorem ofInt_key : ∀ key : Fin 16, UInt8.ofInt key.val = UInt8.ofNat key := by
  decide

/-- The registers after a key has gone down, while a register was awaited or none was. -/
def Registers.filled (awaited : Option (Fin 16)) (key : Fin 16) (registers : Registers) :
    Registers :=
  match awaited with
  | none => registers
  | some register => registers.set register (UInt8.ofNat key)

namespace Machine

variable {δ : Type} {machine : Machine δ} {code : Option KeyCode} {key : Fin 16}
variable {awaited : Option (Fin 16)}

theorem keyDown_of_none (unknown : machine.keypad.logical? code = none) :
    keyDown code machine = .ok none machine := by
  rw [keyDown, get_bind, unknown]
  rfl

theorem keyUp_of_none (unknown : machine.keypad.logical? code = none) :
    keyUp code machine = .ok none machine := by
  rw [keyUp, get_bind, unknown]
  rfl

theorem keyUp_of_some (known : machine.keypad.logical? code = some key) :
    keyUp code machine =
      .ok (some key) { machine with keypad := machine.keypad.release key } := by
  rw [keyUp, get_bind, known]
  rfl

/-- **A key of the keymap that goes down** is held, fills the register that is awaited, and
ends the wait. -/
theorem keyDown_of_awaits (awaits : machine.keypad.Awaits awaited)
    (known : machine.keypad.logical? code = some key) :
    ∃ outbox, keyDown code machine =
      .ok (some key) { machine with
        registers := machine.registers.filled awaited key
        keypad := (machine.keypad.press key).unlatch
        outbox := outbox } := by
  let held : Machine δ := { machine with keypad := machine.keypad.press key }
  have pressed : updateKeypad (Keypad.press key) machine = .ok () held := rfl
  have latch : held.keypad.latch = awaited.map fun register => (register.val : Int) := awaits
  rw [keyDown, get_bind, known]
  dsimp only
  rw [Operation.bind_of_ok pressed, get_bind, latch]
  cases awaited with
  | none =>
    refine ⟨machine.outbox, ?_⟩
    rw [Keypad.unlatch_of_free (show (machine.keypad.press key).latch = none from awaits)]
    rfl
  | some register =>
    have named : Registers.find? register.val = some register :=
      (if_pos (by omega)).trans (congrArg some (Fin.ofNat_val_eq_self register))
    have filled : onRegisters (Registers.write register.val key.val) held =
        .ok () { held with registers := machine.registers.set register (UInt8.ofNat key) } :=
      onRegisters_of_ok (by rw [Registers.write, named, ofInt_key])
    exact ⟨_, (Operation.bind_of_ok filled).trans rfl⟩

/-! ## Codes and names -/

/-- The keys of the usual keymap. -/
def usualKeys : Keymap :=
  ⟨#v["x", "1", "2", "3", "q", "w", "e", "a", "s", "d", "z", "c", "4", "r", "f", "v"]⟩

theorem parse_usual : Keymap.parse Keymap.usual = .ok usualKeys := rfl

/-- **The operation translates a code**: it gives the key that matches, or none if no key
does, and in that case it changes nothing. -/
structure Translates (matching : Fin 16 → Prop)
    (operation : Operation (Machine δ) (Option (Fin 16))) (machine : Machine δ) : Prop where
  known : ∀ key, (∃ left, operation machine = .ok (some key) left) ↔ matching key
  unknown : (∃ left, operation machine = .ok none left) ↔ ∀ key, ¬ matching key
  unchanged : ∀ left, operation machine = .ok none left → left = machine

/-- An operation on a key translates the code if it looks the key up by it. -/
theorem translates_of_logical? {matching : Fin 16 → Prop} {found : Option (Fin 16)}
    {operation : Operation (Machine δ) (Option (Fin 16))}
    (some_iff : ∀ key, found = some key ↔ matching key)
    (unfound : found = none → operation machine = .ok none machine)
    (gives : ∀ key, found = some key → ∃ left, operation machine = .ok (some key) left) :
    Translates matching operation machine := by
  cases found with
  | none =>
    have run := unfound rfl
    refine ⟨fun key => ?_, ?_, fun left run' => ?_⟩
    · rw [← some_iff, run]
      exact ⟨fun ⟨_, other⟩ => (EStateM.Result.ok.inj other).1, fun same => nomatch same⟩
    · refine ⟨fun _ key matched => ?_, fun _ => ⟨machine, run⟩⟩
      exact nomatch (some_iff key).2 matched
    · rw [run] at run'
      injection run' with _ same
      exact same.symm
  | some key =>
    obtain ⟨left, run⟩ := gives key rfl
    refine ⟨fun other => ?_, ?_, fun left' run' => ?_⟩
    · rw [← some_iff, run]
      constructor
      · rintro ⟨left', run'⟩
        injection run'
      · intro same
        exact ⟨left, by rw [same]⟩
    · refine ⟨fun ⟨left', run'⟩ => ?_, fun empty => absurd ((some_iff key).1 rfl) (empty key)⟩
      rw [run] at run'
      exact nomatch run'
    · rw [run] at run'
      exact nomatch run'

/-- **A keymap is read exactly if it can be used, and looking a key up inverts it.** A text
of which the commas make sixteen pieces, none of them blank and no two alike but for blanks
and case, is a keymap, and any other is refused with what is wrong about it. On a machine
with a keymap that was read, and which awaits a register or none, a code that goes down or
up gives the logical key whose name its text is in lower case; if there is none it gives
none, and nothing is changed. Every key has a code, and no code has two keys. -/
theorem keymap_inverted (δ : Type) (text : String) :
    ((∃ keymap, Keymap.parse text = .ok keymap) ↔ Keymap.Usable text) ∧
    (¬ Keymap.Usable text → ∃ error, Keymap.parse text = .error error) ∧
    ∀ keymap, Keymap.parse text = .ok keymap →
      (∀ (machine : Machine δ) awaited (code : KeyCode), machine.keypad.keymap = keymap →
        machine.keypad.Awaits awaited →
        let matching key := Text.lowercase code.toText = Keymap.written text key
        Translates matching (keyDown (some code)) machine ∧
        Translates matching (keyUp (some code)) machine) ∧
      (∀ key, ∃ code : KeyCode, Text.lowercase code.toText = Keymap.written text key) ∧
      ∀ (code : KeyCode) first second,
        Text.lowercase code.toText = Keymap.written text first →
        Text.lowercase code.toText = Keymap.written text second → first = second := by
  refine ⟨Keymap.exists_parse_iff, fun unusable => ?_, fun keymap parsed => ⟨?_, fun key => ?_, ?_⟩⟩
  · cases parsed : Keymap.parse text with
    | ok keymap => exact absurd (Keymap.parse_eq_ok_iff.1 parsed).1 unusable
    | error error => exact ⟨error, rfl⟩
  · rintro machine awaited code rfl awaits
    have some_iff : ∀ key, machine.keypad.logical? (some code) = some key ↔
        Text.lowercase code.toText = Keymap.written text key := by
      intro key
      rw [Keypad.logical?, Option.bind_some]
      exact Keymap.logical?_eq_some_iff parsed
    refine ⟨translates_of_logical? some_iff keyDown_of_none fun key known => ?_,
      translates_of_logical? some_iff keyUp_of_none fun key known => ⟨_, keyUp_of_some known⟩⟩
    obtain ⟨outbox, run⟩ := keyDown_of_awaits awaits known
    exact ⟨_, run⟩
  · exact ⟨.text (Text.strip (String.ofList ((text.toList.splitOn ',').getD key []))), rfl⟩
  · intro code first second this that
    exact (Keymap.parse_eq_ok_iff.1 parsed).1.written_injective (this.symm.trans that)

/-- With the usual keymap, and a register awaited, `Q` is the key for four and escape is
none. -/
theorem keymap_inverted_of_usual :
    let machine : Machine Framebuffer :=
      { parts usualKeys (Framebuffer.blank 64 32) false fun _ => 0 with
        keypad := (Keypad.initial usualKeys).await 3 }
    Keymap.parse Keymap.usual = .ok usualKeys ∧ machine.keypad.Awaits (some 3) ∧
      (∃ left, keyDown (some (.text "Q")) machine = .ok (some 4) left) ∧
      ∃ left, keyUp (some (.text "escape")) machine = .ok none left := by
  intro machine
  have parsed := parse_usual
  have awaits : machine.keypad.Awaits (some 3) := rfl
  have inverted := ((keymap_inverted Framebuffer Keymap.usual).2.2 usualKeys parsed).1
    machine (some 3)
  refine ⟨parsed, awaits, ?_, ?_⟩
  · have known : (KeyCode.text "Q").logical? usualKeys = some 4 := by decide
    exact ((inverted (.text "Q") rfl awaits).1.known 4).2
      ((Keymap.logical?_eq_some_iff parsed).1 known)
  · have unknown : (KeyCode.text "escape").logical? usualKeys = none := by decide
    exact (inverted (.text "escape") rfl awaits).2.unknown.2
      ((Keymap.logical?_eq_none_iff parsed).1 unknown)

end Machine
end Chip8
