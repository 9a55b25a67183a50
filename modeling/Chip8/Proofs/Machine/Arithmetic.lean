import Chip8.Proofs.Instruction.Opcodes
import Chip8.Proofs.Machine.Request
/-!
# Arithmetic on registers

The instructions that compute lose nothing. A sum, a difference or a shift does not fit in
a byte, and what is missing is in the flag: result and flag together make up the exact
number (`Settled`), whichever registers the operands come from, the flag register among
them. The flag is written last, so that where the result goes to the flag register the
flag displaces it. The other instructions have no flag, and leave the flag register as
any other that is not their result's. `Computed` has one field for each of the ten, and
all words that compute meet in `computes_exactly`.
-/

namespace Chip8

/-! ## Exact results on bytes -/

section Bytes

variable (a b : UInt8)

/-- A sum is its low byte and a carry. -/
theorem carry_add :
    (256 * (if 256 ≤ a.toNat + b.toNat then (1 : Int) else 0) + (a + b).toNat : Int) =
      a.toNat + b.toNat := by
  have := a.toNat_lt
  have := b.toNat_lt
  rw [UInt8.toNat_add]
  split <;> omega

/-- A difference is its low byte and a borrow, which is what is missing from the flag. -/
theorem borrow_sub :
    ((a - b).toNat : Int) =
      a.toNat - b.toNat + 256 * (1 - (if b.toNat ≤ a.toNat then (1 : Int) else 0)) := by
  have := a.toNat_lt
  have := b.toNat_lt
  rw [UInt8.toNat_sub]
  split <;> omega

/-- A byte is its half and the bit shifted out. -/
theorem shiftRight_lowest :
    (2 * (a >>> 1).toNat + (if a.toNat % 2 = 1 then (1 : Int) else 0) : Int) = a.toNat := by
  have half : (a >>> 1).toNat = a.toNat / 2 := by
    rw [UInt8.toNat_shiftRight, Nat.shiftRight_eq_div_pow]
    rfl
  rw [half]
  split <;> omega

/-- Its double is the low byte of it and the bit shifted out. -/
theorem shiftLeft_highest :
    (256 * (if 128 ≤ a.toNat then (1 : Int) else 0) + (a <<< 1).toNat : Int) = 2 * a.toNat := by
  have double : (a <<< 1).toNat = a.toNat * 2 % 256 := by
    rw [UInt8.toNat_shiftLeft, Nat.shiftLeft_eq]
    rfl
  have := a.toNat_lt
  rw [double]
  split <;> omega

end Bytes

/-- The word computes: it adds a byte, or has the first digit eight and one of the nine
last digits that have a meaning. -/
def Opcode.Computes (word : Nat) : Prop :=
  word / 4096 = 0x7 ∨ (word / 4096 = 0x8 ∧ (word % 16 ≤ 0x7 ∨ word % 16 = 0xE))

namespace Registers

/-- **A result and its flag are settled**: the flag is one under its condition, and zero
otherwise. The result satisfies an equation together with the flag, unless the flag has
displaced it. -/
structure Settled (x : Fin 16) (condition : Prop) (equation : (result flag : Int) → Prop)
    (after : Registers) : Prop where
  set : condition → after.get flag = 1
  clear : ¬ condition → after.get flag = 0
  equation : x ≠ flag → equation (after.get x).toNat (after.get flag).toNat

/-- **What a word leaves that computes** with the registers `x` and `y`, which held `a` and
`b`. -/
structure Computed (word : Nat) (x y : Fin 16) (a b : Nat) (before after : Registers) :
    Prop where
  addByte : word / 4096 = 0x7 → (after.get x).toNat = (a + word % 256) % 256
  copy : word / 4096 = 0x8 → word % 16 = 0x0 → (after.get x).toNat = b
  /-- Bit by bit. -/
  or : word / 4096 = 0x8 → word % 16 = 0x1 →
    ∀ k, (after.get x).toNat.testBit k = (a.testBit k || b.testBit k)
  and : word / 4096 = 0x8 → word % 16 = 0x2 →
    ∀ k, (after.get x).toNat.testBit k = (a.testBit k && b.testBit k)
  xor : word / 4096 = 0x8 → word % 16 = 0x3 →
    ∀ k, (after.get x).toNat.testBit k = (a.testBit k ^^ b.testBit k)
  add : word / 4096 = 0x8 → word % 16 = 0x4 →
    after.Settled x (256 ≤ a + b) fun result flag => 256 * flag + result = a + b
  sub : word / 4096 = 0x8 → word % 16 = 0x5 →
    after.Settled x (b ≤ a) fun result flag => result = a - b + 256 * (1 - flag)
  /-- The other operand is not looked at. -/
  shr : word / 4096 = 0x8 → word % 16 = 0x6 →
    after.Settled x (a % 2 = 1) fun result flag => 2 * result + flag = a
  subn : word / 4096 = 0x8 → word % 16 = 0x7 →
    after.Settled x (a ≤ b) fun result flag => result = b - a + 256 * (1 - flag)
  shl : word / 4096 = 0x8 → word % 16 = 0xE →
    after.Settled x (128 ≤ a) fun result flag => 256 * flag + result = 2 * a
  /-- The registers other than those of the result and of a flag, and the flag register
  itself where there is no flag. -/
  others : ∀ r ≠ x, (word / 4096 = 0x8 → 0x4 ≤ word % 16 → r ≠ flag) →
    after.get r = before.get r
  /-- Nothing but the contents of registers is touched. -/
  rest : after = { before with v := after.v }

end Registers

/-- The instruction computes. -/
def Instruction.Computes : Instruction → Prop
  | addByte _ _ | ldReg _ _ | orReg _ _ | andReg _ _ | xorReg _ _ | addReg _ _ | sub _ _ | shr _
  | subn _ _ | shl _ => True
  | _ => False

/-- A word that computes stands for an instruction that does. -/
theorem Instruction.computes_decode {opcode : Int}
    (computes : Opcode.Computes (Opcode.word opcode)) : (decode opcode).Computes := by
  rcases computes with op | ⟨op, last⟩
  · unfold decode
    rw [op]
    exact trivial
  · have digit : Opcode.word opcode % 16 = 0x0 ∨ Opcode.word opcode % 16 = 0x1 ∨
        Opcode.word opcode % 16 = 0x2 ∨ Opcode.word opcode % 16 = 0x3 ∨
        Opcode.word opcode % 16 = 0x4 ∨ Opcode.word opcode % 16 = 0x5 ∨
        Opcode.word opcode % 16 = 0x6 ∨ Opcode.word opcode % 16 = 0x7 ∨
        Opcode.word opcode % 16 = 0xE := by omega
    rcases digit with last | last | last | last | last | last | last | last | last
    all_goals
      unfold decode
      rw [op, last]
      exact trivial

namespace Machine

open Instruction Registers

variable {machine : Machine Framebuffer} {i : Instruction} {word : Nat}

/-- The flag is written after the result. -/
theorem settled_flagged {x : Fin 16} {result : UInt8} {flag : Bool} {condition : Prop}
    [Decidable condition] {equation : (result flag : Int) → Prop}
    (told : flag = true ↔ condition)
    (exact : equation result.toNat (if condition then 1 else 0)) :
    (machine.flagged x result flag).Settled x condition equation := by
  have written : (machine.flagged x result flag).get Registers.flag = if flag then 1 else 0 :=
    get_set_self _ _ _
  refine ⟨fun holds => ?_, fun none => ?_, fun other => ?_⟩
  · rw [written, if_pos (told.2 holds)]
  · rw [written, if_neg (mt told.1 none)]
  · have kept : (machine.flagged x result flag).get x = result :=
      (get_set_of_ne (Ne.symm other)).trans (get_set_self _ _ _)
    rw [written, kept]
    by_cases holds : condition
    · rw [if_pos holds] at exact
      rw [if_pos (told.2 holds)]
      exact exact
    · rw [if_neg holds] at exact
      rw [if_neg (mt told.1 holds)]
      exact exact

/-- Computing never fails. -/
theorem execute_of_computes (computes : i.Computes) (machine : Machine Framebuffer) :
    execute i machine = .ok () { machine with registers := machine.registersAfter i } := by
  cases i with
  | addByte | ldReg | orReg | andReg | xorReg | addReg | sub | shr | subn | shl => rfl
  | _ => exact computes.elim

/-- A register keeps what it holds if it is neither that of the result nor that of a
flag. -/
theorem get_registersAfter_of_computes (computes : i.Computes) (written : i.Matches word)
    {r : Fin 16} (notResult : r ≠ Fin.ofNat 16 (word / 256))
    (notFlag : word / 4096 = 0x8 → 0x4 ≤ word % 16 → r ≠ Registers.flag) :
    (machine.registersAfter i).get r = machine.registers.get r := by
  cases i with
  | addByte =>
    obtain ⟨-, rfl, -⟩ := written
    exact get_set_of_ne (Ne.symm notResult)
  | ldReg | orReg | andReg | xorReg =>
    obtain ⟨-, -, rfl, -⟩ := written
    exact get_set_of_ne (Ne.symm notResult)
  | addReg | sub | subn =>
    obtain ⟨op, last, rfl, -⟩ := written
    exact (get_set_of_ne (Ne.symm (notFlag op (by omega)))).trans
      (get_set_of_ne (Ne.symm notResult))
  | shr | shl =>
    obtain ⟨op, last, rfl⟩ := written
    exact (get_set_of_ne (Ne.symm (notFlag op (by omega)))).trans
      (get_set_of_ne (Ne.symm notResult))
  | _ => exact computes.elim

/-- Nothing but the contents of registers is touched. -/
theorem registersAfter_of_computes (computes : i.Computes) (machine : Machine Framebuffer) :
    machine.registersAfter i = { machine.registers with v := (machine.registersAfter i).v } := by
  cases i with
  | addByte | ldReg | orReg | andReg | xorReg | addReg | sub | shr | subn | shl => rfl
  | _ => exact computes.elim

/-- **What the registers hold that were computed with.** -/
theorem computed_registersAfter (computes : Opcode.Computes (Opcode.word machine.opcode)) :
    let word := Opcode.word machine.opcode
    let x := Fin.ofNat 16 (word / 256)
    let y := Fin.ofNat 16 (word / 16)
    Computed word x y (machine.registers.get x).toNat (machine.registers.get y).toNat
      machine.registers (machine.registersAfter (.decode machine.opcode)) := by
  intro word x y
  generalize held : machine.registers.get x = a
  generalize held' : machine.registers.get y = b
  have decodes : ∀ {i : Instruction}, i ≠ .unknown → i.Matches word →
      Instruction.decode machine.opcode = i :=
    fun known written => decode_of_matches known written
  have written : (Instruction.decode machine.opcode).Matches word := matches_decode machine.opcode
  exact {
    addByte := fun op => by
      rw [decodes (i := .addByte x (UInt8.ofNat word)) nofun ⟨op, rfl, rfl⟩]
      have sum : (a + UInt8.ofNat word).toNat = (a.toNat + word % 256) % 256 := by
        rw [UInt8.toNat_add, UInt8.toNat_ofNat']
      rw [← sum, ← held]
      exact congrArg UInt8.toNat (get_set_self _ _ _)
    copy := fun op last => by
      rw [decodes (i := .ldReg x y) nofun ⟨op, last, rfl, rfl⟩, ← held']
      exact congrArg UInt8.toNat (get_set_self _ _ _)
    or := fun op last k => by
      rw [decodes (i := .orReg x y) nofun ⟨op, last, rfl, rfl⟩, ← held, ← held',
        ← Nat.testBit_or, ← UInt8.toNat_or]
      exact congrArg (·.toNat.testBit k) (get_set_self _ _ _)
    and := fun op last k => by
      rw [decodes (i := .andReg x y) nofun ⟨op, last, rfl, rfl⟩, ← held, ← held',
        ← Nat.testBit_and, ← UInt8.toNat_and]
      exact congrArg (·.toNat.testBit k) (get_set_self _ _ _)
    xor := fun op last k => by
      rw [decodes (i := .xorReg x y) nofun ⟨op, last, rfl, rfl⟩, ← held, ← held',
        ← Nat.testBit_xor, ← UInt8.toNat_xor]
      exact congrArg (·.toNat.testBit k) (get_set_self _ _ _)
    add := fun op last => by
      rw [decodes (i := .addReg x y) nofun ⟨op, last, rfl, rfl⟩, ← held, ← held']
      exact settled_flagged decide_eq_true_iff (carry_add _ _)
    sub := fun op last => by
      rw [decodes (i := .sub x y) nofun ⟨op, last, rfl, rfl⟩, ← held, ← held']
      exact settled_flagged (decide_eq_true_iff.trans UInt8.le_iff_toNat_le) (borrow_sub _ _)
    shr := fun op last => by
      rw [decodes (i := .shr x) nofun ⟨op, last, rfl⟩, ← held]
      exact settled_flagged beq_iff_eq (shiftRight_lowest _)
    subn := fun op last => by
      rw [decodes (i := .subn x y) nofun ⟨op, last, rfl, rfl⟩, ← held, ← held']
      exact settled_flagged (decide_eq_true_iff.trans UInt8.le_iff_toNat_le) (borrow_sub _ _)
    shl := fun op last => by
      rw [decodes (i := .shl x) nofun ⟨op, last, rfl⟩, ← held]
      exact settled_flagged (decide_eq_true_iff.trans UInt8.le_iff_toNat_le)
        (shiftLeft_highest _)
    others := fun r notResult notFlag =>
      get_registersAfter_of_computes (computes_decode computes) written notResult notFlag
    rest := registersAfter_of_computes (computes_decode computes) machine }

/-- **The instructions that compute lose nothing**, and the flag comes last. An opcode
that computes is executed on any machine, and changes nothing but registers. Where the
result goes to another register than the flag, result and flag make up the exact sum,
difference or shift of what the registers held before; where it goes to the flag register
the flag is the same, and the result is lost. Instructions without a flag add modulo 256,
copy, or combine bit by bit, and leave the flag register as it was unless it is that of
their result. All other registers keep their values. -/
theorem computes_exactly (computes : Opcode.Computes (Opcode.word machine.opcode)) :
    let word := Opcode.word machine.opcode
    let x := Fin.ofNat 16 (word / 256)
    let y := Fin.ofNat 16 (word / 16)
    ∃ registers outbox,
      decodeExecute machine =
        .ok () { machine with registers := registers, outbox := outbox } ∧
      Computed word x y (machine.registers.get x).toNat (machine.registers.get y).toNat
        machine.registers registers := by
  intro word x y
  refine ⟨machine.registersAfter (.decode machine.opcode),
    machine.outbox ++ machine.announcement, ?_, computed_registersAfter computes⟩
  rw [decodeExecute_eq]
  exact guarded_of_ok (execute_of_computes (computes_decode computes) _)

/-- With the flag register as an operand, five less seven borrows: the result is 254, and
the flag is cleared, whatever the operand in it was. -/
theorem computes_exactly_of_borrow :
    Opcode.Computes (Opcode.word 0x80F5) ∧
    ∃ registers outbox,
      let machine : Machine Framebuffer := { booted [] with
        opcode := 0x80F5
        registers := ((booted []).registers.set 0 5).set 15 7 }
      decodeExecute machine =
        .ok () { machine with registers := registers, outbox := outbox } ∧
      (registers.get 0).toNat = 254 ∧ registers.get Registers.flag = 0 := by
  have computes : Opcode.Computes (Opcode.word 0x80F5) := .inr ⟨by decide, .inl (by decide)⟩
  obtain ⟨registers, outbox, run, computed⟩ := @computes_exactly { booted [] with
    opcode := 0x80F5
    registers := ((booted []).registers.set 0 5).set 15 7 } computes
  obtain ⟨-, clear, equation⟩ := computed.sub (by decide) (by decide)
  have out : registers.get Registers.flag = 0 := clear (by decide)
  have exact := equation (by decide)
  rw [out] at exact
  refine ⟨computes, registers, outbox, run, Int.ofNat.inj (exact.trans (by decide)), out⟩

end Machine
end Chip8
