import Mathlib.Data.List.Basic
import Chip8.Machine.Dump
import Chip8.Proofs.Text.Hex
/-!
# The dump loses nothing

The dump of a machine is a run of fields with words between them. The registers stand in two
digits each without anything between them; a number that may be wider than its field ends at
a blank, at the end of its line or with the dump. So from left to right each field can be told
apart from what comes behind it, and two machines have the same dump exactly if they have the
same contents in all that it shows (`crashDump_eq_iff`).
-/

namespace Chip8
namespace Machine

variable {δ ε : Type} {rest other : List Char}

/-! ## The parts of a dump -/

/-- The text of registers. -/
def registersText (v : List UInt8) : List Char :=
  v.flatMap fun byte => (Hex.padded 2 byte.toNat).toList

/-- The text of entries of the call stack. -/
def entriesText (entries : List UInt16) : List Char :=
  entries.flatMap fun entry => " 0x".toList ++ (Hex.padded 3 entry.toNat).toList

/-- The text of the call stack. -/
def stackText : List UInt16 → List Char
  | [] => " (Empty)".toList
  | entries => entriesText entries

/-- The text of the register that waits for a key. -/
def latchText : Option Int → List Char
  | none => []
  | some register => "\nKey: awaiting into V".toList ++ (Hex.padded 1 register).toList

/-- The text behind a line of a dump: none, or another line. -/
def LineEnded (text : List Char) : Prop := ∀ c ∈ text.head?, c = '\n'

theorem toList_traceLine_append (machine : Machine δ) (instruction : String) :
    (machine.traceLine instruction).toList ++ rest =
      "V: 0x".toList ++ (registersText machine.registers.v.toList.reverse ++
        (" I: 0x".toList ++ ((Hex.padded 4 machine.registers.i.toNat).toList ++
        (" DT: 0x".toList ++ ((Hex.padded 2 machine.timers.delay.toNat).toList ++
        (" ST: 0x".toList ++ ((Hex.padded 2 machine.timers.sound.toNat).toList ++
        (" PC: 0x".toList ++ ((Hex.padded 3 machine.fetchedFrom).toList ++
        (" OP: 0x".toList ++ ((Hex.padded 4 machine.opcode).toList ++
        (" IN: ".toList ++ (instruction.toList ++ rest))))))))))))) := by
  -- on variables, as the text of a literal would be looked into
  have regroup : ∀ a b c d e f g h i j k l m n : String,
      (a ++ b ++ c ++ d ++ e ++ f ++ g ++ h ++ i ++ j ++ k ++ l ++ m ++ n).toList ++ rest =
        a.toList ++ (b.toList ++ (c.toList ++ (d.toList ++ (e.toList ++ (f.toList ++ (g.toList ++
          (h.toList ++ (i.toList ++ (j.toList ++ (k.toList ++ (l.toList ++ (m.toList ++
            (n.toList ++ rest))))))))))))) := by
    intro a b c d e f g h i j k l m n
    simp only [String.toList_append, List.append_assoc]
  have registers : (String.join (machine.registers.v.toList.reverse.map fun b =>
      Hex.padded 2 b.toNat)).toList = registersText machine.registers.v.toList.reverse := by
    rw [String.toList_join, List.flatMap_map]
    rfl
  unfold traceLine
  rw [regroup, registers]

theorem toList_stackLine (machine : Machine δ) :
    machine.stackLine.toList = "Stack:".toList ++ stackText machine.registers.stack.items := by
  rw [stackLine]
  cases machine.registers.stack.items with
  | nil => rfl
  | cons entry entries =>
    have join : (String.join ((entry :: entries).map fun item =>
        " 0x" ++ Hex.padded 3 item.toNat)).toList = stackText (entry :: entries) := by
      rw [String.toList_join, List.flatMap_map]
      simp only [String.toList_append]
      rfl
    rw [String.toList_append, join]

theorem toList_crashDump (machine : Machine δ) :
    machine.crashDump.toList =
      (machine.traceLine (Instruction.decode machine.opcode).mnemonic).toList ++
        ("\nStack:".toList ++
          (stackText machine.registers.stack.items ++ latchText machine.keypad.latch)) := by
  rw [crashDump, dump, if_pos rfl, String.toList_append, String.toList_append,
    String.toList_append, toList_stackLine]
  cases machine.keypad.latch with
  | none =>
    simp only [List.append_assoc]
    rfl
  | some register =>
    simp only [String.toList_append, List.append_assoc]
    rfl

/-! ## Telling the parts apart -/

theorem registersText_append_inj {v w : List UInt8} (length : v.length = w.length)
    (same : registersText v ++ rest = registersText w ++ other) : v = w ∧ rest = other := by
  induction v generalizing w with
  | nil =>
    rw [List.length_nil, eq_comm, List.length_eq_zero_iff] at length
    subst length
    exact ⟨rfl, same⟩
  | cons byte v ih =>
    obtain ⟨byte', w, rfl⟩ := List.exists_cons_of_length_pos
      (Nat.lt_of_lt_of_eq (Nat.succ_pos v.length) length)
    have fills : ∀ byte : UInt8, (Hex.padded 2 byte.toNat).toList.length = 2 :=
      fun byte => Hex.length_padded (by decide) byte.toNat_lt
    rw [registersText, registersText, List.flatMap_cons, List.flatMap_cons, List.append_assoc,
      List.append_assoc] at same
    obtain ⟨shown, same⟩ := List.append_inj same ((fills byte).trans (fills byte').symm)
    obtain ⟨rfl, ended⟩ := ih (Nat.succ.inj length) same
    rw [UInt8.toNat_inj.1 (Int.ofNat_inj.1 (Hex.padded_inj shown))]
    exact ⟨rfl, ended⟩

theorem ended_blank (text : List Char) : Hex.Ended (' ' :: text) := by
  intro c first
  injection first with same
  exact same ▸ rfl

/-- A field ends at the blank of the label behind it. -/
theorem field_append_inj {label : String} (blank : ∃ word, label.toList = ' ' :: word)
    {width : Nat} {n m : Int}
    (same : (Hex.padded width n).toList ++ (label.toList ++ rest) =
      (Hex.padded width m).toList ++ (label.toList ++ other)) :
    n = m ∧ rest = other := by
  have ended : ∀ text, Hex.Ended (label.toList ++ text) := by
    obtain ⟨word, shown⟩ := blank
    intro text
    rw [shown]
    exact ended_blank _
  obtain ⟨number, left⟩ := Hex.padded_append_inj (ended rest) (ended other) same
  exact ⟨number, List.append_cancel_left left⟩

theorem LineEnded.ended (ended : LineEnded rest) : Hex.Ended rest := by
  intro c first
  rw [ended c first]
  rfl

theorem entriesText_cons_append (entry : UInt16) (entries : List UInt16) (rest : List Char) :
    entriesText (entry :: entries) ++ rest =
      ' ' :: '0' :: 'x' ::
        ((Hex.padded 3 entry.toNat).toList ++ (entriesText entries ++ rest)) := by
  have label : " 0x".toList = [' ', '0', 'x'] := rfl
  simp only [entriesText, List.flatMap_cons, label, List.cons_append, List.nil_append,
    List.append_assoc]

/-- An entry ends with the next one, or with the line. -/
theorem ended_entriesText (ended : LineEnded rest) (entries : List UInt16) :
    Hex.Ended (entriesText entries ++ rest) := by
  cases entries with
  | nil => exact ended.ended
  | cons entry entries =>
    rw [entriesText_cons_append]
    exact ended_blank _

/-- A line with entries has not ended. -/
theorem not_lineEnded_entriesText (entry : UInt16) (entries : List UInt16) (rest : List Char) :
    ¬ LineEnded (entriesText (entry :: entries) ++ rest) := by
  intro ended
  rw [entriesText_cons_append] at ended
  exact absurd (ended ' ' rfl) (by decide)

theorem entriesText_append_inj {entries others : List UInt16} (ended : LineEnded rest)
    (ended' : LineEnded other) (same : entriesText entries ++ rest = entriesText others ++ other) :
    entries = others ∧ rest = other := by
  induction entries generalizing others with
  | nil =>
    cases others with
    | nil => exact ⟨rfl, same⟩
    | cons entry others =>
      exact absurd (show LineEnded (entriesText (entry :: others) ++ other) from same ▸ ended)
        (not_lineEnded_entriesText _ _ _)
  | cons entry entries ih =>
    cases others with
    | nil =>
      exact absurd (show LineEnded (entriesText (entry :: entries) ++ rest) from same ▸ ended')
        (not_lineEnded_entriesText _ _ _)
    | cons entry' others =>
      rw [entriesText_cons_append, entriesText_cons_append] at same
      injection same with _ same
      injection same with _ same
      injection same with _ same
      obtain ⟨number, same⟩ := Hex.padded_append_inj (ended_entriesText ended entries)
        (ended_entriesText ended' others) same
      obtain ⟨rfl, left⟩ := ih same
      rw [UInt16.toNat_inj.1 (Int.ofNat_inj.1 number)]
      exact ⟨rfl, left⟩

/-- No entries do not look like any. -/
theorem empty_ne_entriesText (entry : UInt16) (entries : List UInt16) :
    " (Empty)".toList ++ rest ≠ entriesText (entry :: entries) ++ other := by
  intro same
  rw [entriesText_cons_append] at same
  injection same with _ same
  injection same with bracket
  exact absurd bracket (by decide)

theorem stackText_append_inj {entries others : List UInt16} (ended : LineEnded rest)
    (ended' : LineEnded other) (same : stackText entries ++ rest = stackText others ++ other) :
    entries = others ∧ rest = other := by
  cases entries with
  | nil =>
    cases others with
    | nil => exact ⟨rfl, List.append_cancel_left same⟩
    | cons entry others => exact absurd same (empty_ne_entriesText entry others)
  | cons entry entries =>
    cases others with
    | nil => exact absurd same.symm (empty_ne_entriesText entry entries)
    | cons entry' others => exact entriesText_append_inj ended ended' same

theorem lineEnded_latchText (latch : Option Int) : LineEnded (latchText latch) := by
  intro c first
  cases latch with
  | none => cases first
  | some register =>
    injection first with same
    exact same.symm

theorem latchText_injective : Function.Injective latchText := by
  intro latch latch' same
  cases latch with
  | none =>
    cases latch' with
    | none => rfl
    | some register => cases same
  | some register =>
    cases latch' with
    | none => cases same
    | some register' =>
      rw [Hex.padded_inj (List.append_cancel_left same)]

/-! ## The whole dump -/

/-- **The dump loses nothing.** Two machines have the same dump exactly if they have the same
registers, index and timers, the same address and opcode of the last fetch, the same entries
on the call stack, and the same register waits for a key, or none. So it is whatever these
are, also where a number is wider than its field or less than zero. -/
theorem crashDump_eq_iff {machine : Machine δ} {other : Machine ε} :
    machine.crashDump = other.crashDump ↔
      machine.registers.v = other.registers.v ∧ machine.registers.i = other.registers.i ∧
      machine.timers.delay = other.timers.delay ∧ machine.timers.sound = other.timers.sound ∧
      machine.fetchedFrom = other.fetchedFrom ∧ machine.opcode = other.opcode ∧
      machine.registers.stack.items = other.registers.stack.items ∧
      machine.keypad.latch = other.keypad.latch := by
  rw [← String.toList_inj, toList_crashDump, toList_crashDump, toList_traceLine_append,
    toList_traceLine_append]
  constructor
  · intro same
    -- each field is cut off at its end, and the label of the next one with it
    obtain ⟨registers, same⟩ := registersText_append_inj
      (by rw [List.length_reverse, List.length_reverse, Vector.length_toList, Vector.length_toList])
      (List.append_cancel_left same)
    obtain ⟨index, same⟩ := field_append_inj ⟨_, rfl⟩ (List.append_cancel_left same)
    obtain ⟨delay, same⟩ := field_append_inj ⟨_, rfl⟩ same
    obtain ⟨sound, same⟩ := field_append_inj ⟨_, rfl⟩ same
    obtain ⟨address, same⟩ := field_append_inj ⟨_, rfl⟩ same
    obtain ⟨opcode, same⟩ := field_append_inj ⟨_, rfl⟩ same
    -- equal opcodes have the same mnemonic
    rw [opcode] at same
    obtain ⟨stack, same⟩ := stackText_append_inj (lineEnded_latchText _) (lineEnded_latchText _)
      (List.append_cancel_left (List.append_cancel_left same))
    exact ⟨Vector.toList_inj.1 (List.reverse_inj.1 registers),
      UInt16.toNat_inj.1 (Int.ofNat_inj.1 index), UInt8.toNat_inj.1 (Int.ofNat_inj.1 delay),
      UInt8.toNat_inj.1 (Int.ofNat_inj.1 sound), address, opcode, stack,
      latchText_injective same⟩
  · rintro ⟨registers, index, delay, sound, address, opcode, stack, latch⟩
    rw [registers, index, delay, sound, address, opcode, stack, latch]

end Machine
end Chip8
