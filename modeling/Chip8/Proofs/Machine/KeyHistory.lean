import Chip8.Proofs.Machine.Keys
import Chip8.Proofs.Operation
import Mathlib.Data.List.DropRight
/-!
# The history of a keypad

A keypad keeps no list of what has happened to it, but what it does keep is told by that
list. A key is held if since the last reset it has gone down and has not moved again
(`Held`), and a register is awaited if since it came to be none other has, and nothing has
ended the wait (`Awaited`). With every event both go on to be as the history tells
(`Recorded.hears`), and so they are after any events (`recorded_afterAll`). What fills a
register is told by it too, and nothing else changes the registers (`key_history`).
-/

namespace Chip8

/-! ## Since then -/

section Since

variable {α : Type} {kind ends : α → Prop} {events : List α} {event : α}

/-- **An event of the kind has happened**, and since then none that ends it. -/
def Since (kind ends : α → Prop) (events : List α) : Prop :=
  ∃ earlier event later, events = earlier ++ event :: later ∧ kind event ∧
    ∀ other ∈ later, ¬ ends other

theorem not_since_nil : ¬ Since kind ends [] := by
  rintro ⟨earlier, event, later, split, -⟩
  simp at split

/-- One more event is of the kind itself, or leaves be what has been. -/
theorem since_concat :
    Since kind ends (events ++ [event]) ↔
      kind event ∨ (¬ ends event ∧ Since kind ends events) := by
  constructor
  · rintro ⟨earlier, found, later, split, is, quiet⟩
    rcases List.eq_nil_or_concat' later with rfl | ⟨between, last, rfl⟩
    · obtain ⟨-, rfl⟩ := List.append_singleton_inj.1 split
      exact .inl is
    · rw [← List.cons_append, ← List.append_assoc] at split
      obtain ⟨rfl, rfl⟩ := List.append_singleton_inj.1 split
      refine .inr ⟨quiet event (by simp), earlier, found, between, rfl, is, fun other mem => ?_⟩
      exact quiet other (List.mem_append_left _ mem)
  · rintro (is | ⟨quiet, earlier, found, later, rfl, is, still⟩)
    · exact ⟨events, event, [], rfl, is, nofun⟩
    · refine ⟨earlier, found, later ++ [event], by simp, is, fun other mem => ?_⟩
      rcases List.mem_append.1 mem with mem | mem
      · exact still other mem
      · rw [List.mem_singleton.1 mem]
        exact quiet

end Since

/-! ## Events -/

namespace Keypad

/-- What happens to a keypad. -/
inductive Event where
  /-- A key goes down. -/
  | down (code : Option KeyCode)
  /-- A key goes up. -/
  | up (code : Option KeyCode)
  /-- A program waits for a key to fill a register. -/
  | await (register : Fin 16)
  /-- All keys are let go of, and nothing is awaited. -/
  | reset
  deriving DecidableEq, Repr

namespace Event

/-- The event is that a logical key goes down or up. -/
def Moves (keymap : Keymap) (key : Fin 16) : Event → Prop
  | .down code | .up code => code.bind (·.logical? keymap) = some key
  | .await _ | .reset => False

/-- A key goes down, of the keymap or not. -/
def IsDown : Event → Prop
  | .down _ => True
  | _ => False

/-- A register comes to be awaited. -/
def IsAwait : Event → Prop
  | .await _ => True
  | _ => False

/-- The event ends a wait: a key of the keymap goes down, or the keypad is reset. -/
def EndsWait (keymap : Keymap) : Event → Prop
  | .down code => ∃ key, code.bind (·.logical? keymap) = some key
  | .reset => True
  | .up _ | .await _ => False

end Event

open Event

variable {keymap : Keymap} {keypad : Keypad} {events : List Event} {event : Event}
variable {awaited : Option (Fin 16)} {register key : Fin 16}

/-- The events since the last reset, or all of them if there was none. -/
def sinceReset (events : List Event) : List Event :=
  events.rtakeWhile fun event => decide (event ≠ .reset)

/-- **The key is held**: since the last reset it has gone down, and has not moved again. -/
def Held (keymap : Keymap) (events : List Event) (key : Fin 16) : Prop :=
  Since (fun event => event.Moves keymap key ∧ event.IsDown) (Moves keymap key)
    (sinceReset events)

/-- **The register is awaited**: it has come to be, and since then no register has, and
nothing has ended the wait. -/
def Awaited (keymap : Keymap) (events : List Event) (register : Fin 16) : Prop :=
  Since (· = .await register) (fun event => EndsWait keymap event ∨ IsAwait event) events

/-- The event is that a key of the keymap goes down while a register is awaited. -/
structure Fills (keymap : Keymap) (events : List Event) (event : Event)
    (register key : Fin 16) : Prop where
  moves : event.Moves keymap key
  down : event.IsDown
  awaited : Awaited keymap events register

/-! ## What the history tells after one more event -/

theorem held_concat_of_ne (other : event ≠ .reset) :
    Held keymap (events ++ [event]) key ↔
      (event.Moves keymap key ∧ event.IsDown) ∨
        (¬ event.Moves keymap key ∧ Held keymap events key) := by
  rw [Held, sinceReset, List.rtakeWhile_concat, if_pos (decide_eq_true other), since_concat]
  exact Iff.rfl

theorem not_held_reset : ¬ Held keymap (events ++ [.reset]) key := by
  rw [Held, sinceReset, List.rtakeWhile_concat, if_neg (by simp)]
  exact not_since_nil

/-- Some register is awaited if one has come to be since the last event that ends a wait. -/
theorem exists_awaited_iff :
    (∃ register, Awaited keymap events register) ↔ Since IsAwait (EndsWait keymap) events := by
  induction events using List.reverseRecOn with
  | nil =>
    exact ⟨fun ⟨_, unheard⟩ => absurd unheard not_since_nil,
      fun unheard => absurd unheard not_since_nil⟩
  | append_singleton events event ih =>
    rw [since_concat, ← ih]
    simp only [Awaited, since_concat]
    cases event with
    | await register => exact iff_of_true ⟨register, .inl rfl⟩ (.inl trivial)
    | reset | down | up => simp [IsAwait]

/-! ## The keypad after one more event -/

/-- The keypad after an event. -/
def hears (keypad : Keypad) : Event → Keypad
  | .down code =>
    match keypad.logical? code with
    | none => keypad
    | some key => (keypad.press key).unlatch
  | .up code =>
    match keypad.logical? code with
    | none => keypad
    | some key => keypad.release key
  | .await register => keypad.await register
  | .reset => keypad.reset

/-- **The keypad is as its history tells.** -/
structure Recorded (keymap : Keymap) (events : List Event) (keypad : Keypad) : Prop where
  kept : keypad.keymap = keymap
  held : ∀ key, keypad.pressed.get key = true ↔ Held keymap events key
  /-- The latch is free, or names the one register that is awaited. -/
  awaits : ∃ awaited, keypad.Awaits awaited ∧
    ∀ register, awaited = some register ↔ Awaited keymap events register

theorem recorded_initial (keymap : Keymap) : Recorded keymap [] (initial keymap) where
  kept := rfl
  held key := by
    rw [get_initial]
    exact ⟨nofun, fun unheard => absurd unheard not_since_nil⟩
  awaits := ⟨none, rfl, fun register => ⟨nofun, fun unheard => absurd unheard not_since_nil⟩⟩

/-- The keys that are held after an event are those of the longer history. -/
theorem Recorded.get_hears (recorded : Recorded keymap events keypad) (event : Event)
    (key : Fin 16) :
    (keypad.hears event).pressed.get key = true ↔ Held keymap (events ++ [event]) key := by
  have held := recorded.held key
  cases event with
  | reset =>
    refine iff_of_false ?_ not_held_reset
    rw [hears, reset, get_initial]
    exact Bool.false_ne_true
  | await register =>
    rw [held_concat_of_ne Event.noConfusion, ← held]
    simp [Moves, hears, Keypad.await]
  | down code =>
    rw [held_concat_of_ne Event.noConfusion, ← held, ← recorded.kept]
    simp only [Moves, IsDown, hears, logical?]
    cases code.bind (·.logical? keypad.keymap) with
    | none => simp
    | some moved =>
      refine (get_press moved key keypad).trans ?_
      rw [Option.some_inj, eq_comm]
      tauto
  | up code =>
    rw [held_concat_of_ne Event.noConfusion, ← held, ← recorded.kept]
    simp only [Moves, IsDown, hears, logical?]
    cases code.bind (·.logical? keypad.keymap) with
    | none => simp
    | some moved =>
      refine (get_release moved key keypad).trans ?_
      rw [Option.some_inj, eq_comm]
      tauto

/-- And so is the register that is awaited. -/
theorem Recorded.awaits_hears (recorded : Recorded keymap events keypad) (event : Event) :
    ∃ awaited, (keypad.hears event).Awaits awaited ∧
      ∀ register, awaited = some register ↔ Awaited keymap (events ++ [event]) register := by
  obtain ⟨awaited, awaits, told⟩ := recorded.awaits
  simp only [Awaited, since_concat] at told ⊢
  cases event with
  | reset => exact ⟨none, rfl, by simp [EndsWait]⟩
  | await register => exact ⟨some register, rfl, by simp [IsAwait]⟩
  | up code =>
    refine ⟨awaited, ?_, by simp [EndsWait, IsAwait, told]⟩
    rw [hears]
    cases keypad.logical? code <;> exact awaits
  | down code =>
    rw [hears, logical?]
    cases known : code.bind (·.logical? keypad.keymap) with
    | none =>
      rw [recorded.kept] at known
      exact ⟨awaited, awaits, by simp [EndsWait, IsAwait, known, told]⟩
    | some key =>
      rw [recorded.kept] at known
      exact ⟨none, rfl, by simp [EndsWait, known]⟩

theorem keymap_hears (keypad : Keypad) (event : Event) :
    (keypad.hears event).keymap = keypad.keymap := by
  cases event with
  | reset | await => rfl
  | down code | up code =>
    rw [hears]
    cases keypad.logical? code <;> rfl

/-- **Every event goes into the history.** -/
theorem Recorded.hears (recorded : Recorded keymap events keypad) (event : Event) :
    Recorded keymap (events ++ [event]) (keypad.hears event) :=
  ⟨(keymap_hears keypad event).trans recorded.kept, recorded.get_hears event,
    recorded.awaits_hears event⟩

theorem Recorded.latch_iff (recorded : Recorded keymap events keypad) (register : Fin 16) :
    keypad.latch = some (register.val : Int) ↔ Awaited keymap events register := by
  obtain ⟨awaited, awaits, told⟩ := recorded.awaits
  rw [← told, awaits, Option.map_eq_some_iff]
  constructor
  · rintro ⟨other, rfl, same⟩
    rw [Fin.ext (Int.ofNat.inj same)]
  · exact fun same => ⟨register, same, rfl⟩

theorem Recorded.isAwaiting_iff (recorded : Recorded keymap events keypad) :
    keypad.isAwaiting = true ↔ ∃ register, Awaited keymap events register := by
  obtain ⟨awaited, awaits, told⟩ := recorded.awaits
  rw [isAwaiting, awaits, Option.isSome_map, Option.isSome_iff_exists]
  exact exists_congr told

end Keypad

/-! ## The machine -/

namespace Machine

open Operation Keypad Keypad.Event

variable {δ : Type} {machine : Machine δ} {keymap : Keymap} {events : List Keypad.Event}
variable {event : Keypad.Event} {awaited : Option (Fin 16)}

/-- What a machine does on an event of its keypad. -/
def hear : Keypad.Event → Operation (Machine δ) (Option (Fin 16))
  | .down code => keyDown code
  | .up code => keyUp code
  | .await register => do
    updateKeypad (Keypad.await register.val)
    return none
  | .reset => do
    updateKeypad Keypad.reset
    return none

/-- **What an event does to the registers**: a key fills the register that is awaited, and
whatever fills none leaves them as they are. -/
structure KeyWrites (keymap : Keymap) (events : List Keypad.Event) (event : Keypad.Event)
    (before after : Registers) : Prop where
  filled : ∀ register key, Fills keymap events event register key →
    after = before.set register (UInt8.ofNat key)
  spared : (∀ register key, ¬ Fills keymap events event register key) → after = before

/-- What fills no register spares them. -/
theorem keyWrites_of_not_fills (empty : ∀ register key, ¬ Fills keymap events event register key)
    (registers : Registers) : KeyWrites keymap events event registers registers :=
  ⟨fun register key fills => absurd fills (empty register key), fun _ => rfl⟩

theorem keyWrites_of_not_isDown (event : Keypad.Event) (other : ¬ event.IsDown)
    (registers : Registers) : KeyWrites keymap events event registers registers :=
  keyWrites_of_not_fills (fun _ _ fills => other fills.down) registers

/-- A key of the keymap that goes down writes what the history says. -/
theorem keyWrites_filled {code : Option KeyCode} {key : Fin 16}
    (known : code.bind (·.logical? keymap) = some key)
    (told : ∀ register, awaited = some register ↔ Awaited keymap events register)
    (registers : Registers) :
    KeyWrites keymap events (.down code) registers (registers.filled awaited key) := by
  cases awaited with
  | none =>
    refine keyWrites_of_not_fills (fun register key fills => ?_) registers
    exact nomatch (told register).2 fills.awaited
  | some register =>
    refine ⟨fun register' key' fills => ?_, fun empty => ?_⟩
    · obtain rfl := Option.some.inj ((told register').2 fills.awaited)
      obtain rfl := Option.some.inj (known.symm.trans fills.moves)
      rfl
    · exact absurd ⟨known, trivial, (told register).1 rfl⟩ (empty register key)

/-- **An event is heard**, and does to keypad and registers what the history says. -/
theorem hear_of_recorded (recorded : Recorded keymap events machine.keypad)
    (event : Keypad.Event) :
    ∃ result left, hear event machine = .ok result left ∧
      left.keypad = machine.keypad.hears event ∧
      KeyWrites keymap events event machine.registers left.registers := by
  cases event with
  | reset => exact ⟨none, _, rfl, rfl, keyWrites_of_not_isDown .reset not_false _⟩
  | await register =>
    exact ⟨none, _, rfl, rfl, keyWrites_of_not_isDown (.await register) not_false _⟩
  | up code =>
    have spared := @keyWrites_of_not_isDown keymap events (.up code) not_false machine.registers
    rw [Keypad.hears]
    cases known : machine.keypad.logical? code with
    | none => exact ⟨none, machine, keyUp_of_none known, rfl, spared⟩
    | some key => exact ⟨some key, _, keyUp_of_some known, rfl, spared⟩
  | down code =>
    rw [Keypad.hears]
    cases known : machine.keypad.logical? code with
    | none =>
      have empty : ∀ register key, ¬ Fills keymap events (.down code) register key := by
        intro register key fills
        rw [logical?, recorded.kept] at known
        cases known.symm.trans fills.moves
      exact ⟨none, machine, keyDown_of_none known, rfl, keyWrites_of_not_fills empty _⟩
    | some key =>
      obtain ⟨awaited, awaits, told⟩ := recorded.awaits
      obtain ⟨outbox, run⟩ := keyDown_of_awaits awaits known
      rw [logical?, recorded.kept] at known
      exact ⟨some key, _, run, rfl, keyWrites_filled known told machine.registers⟩

/-- **The keypad is as its history tells** after any events. -/
theorem recorded_afterAll (recorded : Recorded keymap [] machine.keypad)
    (events : List Keypad.Event) :
    Recorded keymap events (afterAll hear events machine).keypad := by
  induction events using List.reverseRecOn with
  | nil => exact recorded
  | append_singleton events event ih =>
    obtain ⟨result, next, run, keypad, -⟩ := hear_of_recorded ih event
    rw [afterAll_concat_of_ok run, keypad]
    exact ih.hears event

/-- **What a keypad keeps is the history of its events.** On a machine with a fresh keypad,
any keys may go down and up, of the keymap or not, registers may come to be awaited, and the
keypad may be reset, in any order. A number is then that of a key which is held if, since
the last reset, that key has gone down and has not moved again. A register is awaited if one
has come to be since the last reset and since a key of the keymap went down last, and then it
is the latest of these. Whatever happens next is granted, and changes the registers only if
it is that a key of the keymap goes down while a register is awaited: then this register
holds the number of the key. -/
theorem key_history (keymap : Keymap) (machine : Machine δ) (events : List Keypad.Event) :
    let after := fun events =>
      afterAll hear events { machine with keypad := Keypad.initial keymap }
    (∀ number, (after events).keypad.isPressed number = true ↔
      ∃ key : Fin 16, key.val = number ∧ Held keymap events key) ∧
    ((after events).keypad.isAwaiting = true ↔ Since IsAwait (EndsWait keymap) events) ∧
    (∀ register : Fin 16, (after events).keypad.latch = some (register.val : Int) ↔
      Awaited keymap events register) ∧
    ∀ event,
      (∃ result, hear event (after events) = .ok result (after (events ++ [event]))) ∧
      KeyWrites keymap events event (after events).registers
        (after (events ++ [event])).registers := by
  intro after
  have recorded : Recorded keymap events (after events).keypad :=
    recorded_afterAll (recorded_initial keymap) events
  refine ⟨fun number => ?_, ?_, recorded.latch_iff, fun event => ?_⟩
  · rw [isPressed_iff]
    exact exists_congr fun key => and_congr_right fun _ => recorded.held key
  · rw [← exists_awaited_iff, recorded.isAwaiting_iff]
  · obtain ⟨result, next, run, -, writes⟩ := hear_of_recorded recorded event
    have same : after (events ++ [event]) = next := afterAll_concat_of_ok run
    rw [same]
    exact ⟨⟨result, run⟩, writes⟩

/-- With the usual keymap, a wait outlasts escape, and `W` fills the register with five. -/
theorem key_history_of_a_wait :
    let start := parts usualKeys (Framebuffer.blank 64 32) false fun _ => 0
    let events : List Keypad.Event := [.await 3, .down (some (.text "escape"))]
    Awaited usualKeys events 3 ∧
      (afterAll hear (events ++ [.down (some (.text "W"))]) start).registers.get 3 = 5 := by
  intro start events
  have unknown : (KeyCode.text "escape").logical? usualKeys = none := by decide
  have known : (KeyCode.text "W").logical? usualKeys = some 5 := by decide
  have awaited : Awaited usualKeys events 3 := by
    refine ⟨[], .await 3, [.down (some (.text "escape"))], rfl, rfl, fun other mem => ?_⟩
    rw [List.mem_singleton.1 mem]
    rintro (⟨key, found⟩ | await)
    · exact nomatch unknown.symm.trans found
    · exact await
  obtain ⟨-, writes⟩ := (key_history usualKeys start events).2.2.2 (.down (some (.text "W")))
  refine ⟨awaited, ?_⟩
  rw [show (afterAll hear (events ++ [.down (some (.text "W"))]) start).registers = _ from
    writes.filled 3 5 ⟨known, trivial, awaited⟩]
  exact Registers.get_set_self _ _ _

end Machine
end Chip8
