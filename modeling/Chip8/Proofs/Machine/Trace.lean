import Chip8.Proofs.Instruction.Mnemonics
import Chip8.Proofs.Machine.Kinship
/-!
# The trace tells what is done

The line that traces an instruction shows it as a mnemonic, and a word may hold more
than the mnemonic shows: bits that its instruction does not look at, and, of an opcode
that is no word, all above the low sixteen. None of them has an effect. Two opcodes that
are shown alike are executed alike, whatever the machine, and leave machines that nothing
but the opcode and the words of the journal tell apart (`Retold`). What is executed is the
instruction that is shown, with the operands that are shown, and these are digits of the
opcode (`Sound.effect_of_mnemonic`).
-/

namespace Chip8

/-- The signal with the words of a note left out. -/
def Signal.hushed : Signal → Signal
  | noted entry => noted { entry with text := "" }
  | signal => signal

namespace Instruction

/-- An opcode is decoded by its low word alone. -/
theorem decode_of_word_eq {a b : Int} (same : Opcode.word a = Opcode.word b) :
    decode a = decode b := by
  simp only [decode, Opcode.x, Opcode.y, Opcode.n, Opcode.kk, Opcode.nnn, same]

end Instruction

namespace Machine

open Operation

variable {width height : Nat} {machine left right : Machine Framebuffer}

/-- **Nothing but the opcode and the words of the journal** tells the machines apart. -/
structure Retold (first second : Machine Framebuffer) : Prop where
  contents : second = { first with opcode := second.opcode, outbox := second.outbox }
  outbox : second.outbox.toList.map Signal.hushed = first.outbox.toList.map Signal.hushed

/-- The same end, of machines that it leaves retold. Where it is a halt the causes are
the same; the reports of it show the opcodes. -/
inductive Retells : EStateM.Result Crash (Machine Framebuffer) Unit →
    EStateM.Result Crash (Machine Framebuffer) Unit → Prop where
  | done {left right : Machine Framebuffer} (retold : Retold left right) :
      Retells (.ok () left) (.ok () right)
  | halted {left right : Machine Framebuffer} (cause : Fault) (report report' : String)
      (retold : Retold left right) :
      Retells (.error (.halted cause report) left) (.error (.halted cause report') right)

/-- The kinship of machines that execute two given opcodes, and note it in words of
their own. -/
def wording (a b : Int) : Kinship Framebuffer Framebuffer where
  display := Eq
  opcode first second := first = a ∧ second = b
  traced := Eq
  outbox first second := second.toList.map Signal.hushed = first.toList.map Signal.hushed

theorem sends_wording (a b : Int) : (wording a b).Sends where
  push signal same := by
    change List.map _ _ = _ at same
    change List.map _ _ = _
    rw [Array.toList_push, Array.toList_push, List.map_append, List.map_append, same]
  note level text text' same := by
    change List.map _ _ = _ at same
    change List.map _ _ = _
    rw [Array.toList_push, Array.toList_push, List.map_append, List.map_append, same]
    rfl

theorem draws_wording (a b : Int) : (wording a b).Draws where
  toggle _ _ := Agree.refl _
  clear := Agree.refl _
  render same := congrArg Display.render same

theorem Kin.retold {a b : Int} (kin : Kin (wording a b) left right) : Retold left right := by
  obtain ⟨memory, registers, timers, keypad, fetchedFrom, noise, drawn, display, -, traced,
    outbox⟩ := kin
  have shown : left.display = right.display := display
  have told : left.traced = right.traced := traced
  refine ⟨?_, outbox⟩
  rw [← memory, ← registers, ← timers, ← keypad, ← fetchedFrom, ← noise, ← drawn, shown, told]

/-- The machine that has been traced, and is about to execute. -/
def announced (machine : Machine Framebuffer) : Machine Framebuffer :=
  { machine with outbox := machine.outbox ++ machine.announcement }

/-- Machines that are alike but for their opcodes are traced alike but for the words. -/
theorem kin_announced (machine : Machine Framebuffer) (a b : Int) :
    Kin (wording a b) (announced { machine with opcode := a })
      (announced { machine with opcode := b }) := by
  have lines : ∀ machine : Machine Framebuffer, machine.announcement.map Signal.hushed =
      if machine.traced then [.noted ⟨.debug, ""⟩] else [] := by
    intro machine
    unfold announcement
    split
    · simp only [List.map_cons, List.map_nil, Signal.hushed]
    · rfl
  refine ⟨rfl, rfl, rfl, rfl, rfl, rfl, rfl, rfl, ⟨rfl, rfl⟩, rfl, ?_⟩
  change List.map _ _ = List.map _ _
  unfold announced
  rw [Array.toList_appendList, Array.toList_appendList, List.map_append, List.map_append, lines,
    lines]

/-- On a sound machine an instruction that halts it does so for a memory or a stack
fault. -/
theorem Sound.isHalting_of_error {i : Instruction} {fault : Fault}
    (sound : machine.Sound width height) (run : execute i machine = .error fault left) :
    fault.isHalting = true := by
  cases refused : machine.refusal i with
  | none =>
    obtain ⟨outbox, executed⟩ := execute_of_granted sound refused
    rw [run] at executed
    exact nomatch executed
  | some cause =>
    obtain ⟨outbox, interrupted⟩ := execute_of_refused sound refused
    rw [run] at interrupted
    injection interrupted with same
    exact same ▸ isHalting_of_refusal refused

/-- **Opcodes that are decoded alike are executed alike.** -/
theorem Sound.retells_of_decode_eq (sound : machine.Sound width height) {a b : Int}
    (same : Instruction.decode a = Instruction.decode b) :
    Retells (decodeExecute { machine with opcode := a })
      (decodeExecute { machine with opcode := b }) := by
  let first : Machine Framebuffer := { machine with opcode := a }
  let second : Machine Framebuffer := { machine with opcode := b }
  have ready : first.announced.Sound width height :=
    ⟨sound.memory, sound.registers, sound.latch, sound.display⟩
  have agree := agree_execute (sends_wording a b) (draws_wording a b) (.decode a) first.announced
    second.announced (kin_announced machine a b)
  have start : decodeExecute first = guarded (execute (.decode a)) first.announced :=
    decodeExecute_eq first
  have start' : decodeExecute second = guarded (execute (.decode a)) second.announced := by
    rw [same]
    exact decodeExecute_eq second
  rw [start, start']
  -- whatever the instruction comes to, it comes to the same on both machines
  generalize run : execute (.decode a) first.announced = result at agree
  generalize run' : execute (.decode a) second.announced = result' at agree
  cases agree with
  | ok _ kin =>
    rw [guarded_of_ok run, guarded_of_ok run']
    exact .done kin.retold
  | error fault kin =>
    have halting := ready.isHalting_of_error run
    rw [guarded_of_error run halting, guarded_of_error run' halting]
    exact .halted fault _ _ kin.retold

/-- **The trace tells what is done.** Opcodes that are shown as the same mnemonic have the
same effect on any sound machine: both are executed to the end, or both halt it for the
same cause, and what they leave differs in the opcode and in the words of the journal
only. So it is with opcodes that have their low sixteen bits in common. An opcode that is
shown as an instruction is executed as that instruction: the operands are those digits of
it where the instruction has them, and the processor reads the same ones off it. -/
theorem Sound.effect_of_mnemonic (sound : machine.Sound width height) :
    (∀ a b : Int, (Instruction.decode a).mnemonic = (Instruction.decode b).mnemonic →
      Retells (decodeExecute { machine with opcode := a })
        (decodeExecute { machine with opcode := b })) ∧
    (∀ a b : Int, a % 65536 = b % 65536 →
      Instruction.decode a = Instruction.decode b ∧
      Retells (decodeExecute { machine with opcode := a })
        (decodeExecute { machine with opcode := b })) ∧
    ∀ (opcode : Int) (i : Instruction), (Instruction.decode opcode).mnemonic = i.mnemonic →
      i.Matches (Opcode.word opcode) ∧
      i.withOperands (operands { machine with opcode := opcode }) = i ∧
      decodeExecute { machine with opcode := opcode } =
        guarded (execute i) (announced { machine with opcode := opcode }) := by
  refine ⟨fun a b shown => ?_, fun a b low => ?_, fun opcode i shown => ?_⟩
  · exact sound.retells_of_decode_eq (Instruction.mnemonic_injective shown)
  · have word : Opcode.word a = Opcode.word b := by
      rw [Opcode.word, Opcode.word, low]
    have same := Instruction.decode_of_word_eq word
    exact ⟨same, sound.retells_of_decode_eq same⟩
  · obtain rfl := Instruction.mnemonic_injective shown
    have same := decode_withOperands { machine with opcode := opcode }
    exact ⟨Instruction.matches_decode opcode, same, decodeExecute_eq _⟩

/-- The last digit of a comparison of registers is not shown, and a negative opcode may
have the low word of one that is not: both are without an effect. -/
theorem effect_of_hidden_digits :
    let machine := parts usualKeys (Framebuffer.blank 64 32) true fun _ => 0
    machine.Sound 64 32 ∧ (Instruction.decode 0x5120).mnemonic = "SE V1, V2" ∧
      (Instruction.decode 0x5127).mnemonic = "SE V1, V2" ∧
      Retells (decodeExecute { machine with opcode := 0x5120 })
        (decodeExecute { machine with opcode := 0x5127 }) ∧
      Retells (decodeExecute { machine with opcode := 0x5120 })
        (decodeExecute { machine with opcode := -0xAEE0 }) := by
  intro machine
  have sound : machine.Sound 64 32 :=
    sound_parts (by decide) (by decide) usualKeys true fun _ => 0
  obtain ⟨shown, low, -⟩ := sound.effect_of_mnemonic
  exact ⟨sound, by decide, by decide, shown 0x5120 0x5127 (by decide),
    (low 0x5120 (-0xAEE0) (by decide)).2⟩

end Machine
end Chip8
