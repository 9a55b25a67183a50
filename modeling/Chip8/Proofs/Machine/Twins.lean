import Chip8.Proofs.Instruction.Opcodes
import Chip8.Proofs.Machine.Buzzer
import Chip8.Proofs.Machine.Kinship
/-!
# One program on two displays

Two machines that hold the same, on displays of two kinds, answer requests in the same
way and go on holding the same (`agree_answer`), as long as the displays go along with
each other. Neither the trace nor anything that has been sent is of account, and a machine
that halts is reported on in the same words.
-/

namespace Chip8
namespace Machine

open Operation

variable {δ δ' α : Type} {R : δ → δ' → Prop} {first : Machine δ} {second : Machine δ'}

/-- What a machine replies to a request. -/
def answer [Display δ] : Request → Running δ Reply
  | .step => do
    let ran ← step
    return .ran ran
  | .tick => do
    direct tick
    return .done
  | .keyDown code => do
    let key ← direct (keyDown code)
    return .key key
  | .keyUp code => do
    let key ← direct (keyUp code)
    return .key key
  | .reset => do
    direct reset
    return .done
  | .load rom => do
    let count ← direct (loadRom rom)
    return .loaded count
  | .refresh => do
    direct refreshDisplay
    return .done

/-- The kinship of machines that hold the same, on displays in a given relation. -/
def twins (R : δ → δ' → Prop) : Kinship δ δ' where
  display := R
  opcode := Eq
  traced _ _ := True
  outbox _ _ := True

theorem sends_twins : (twins R).Sends where
  push _ _ := trivial
  note _ _ _ _ := trivial

/-- Machines that hold the same are reported on in the same words. -/
theorem Kin.crashReport_eq (kin : Kin (twins R) first second) (fault : Fault) :
    second.crashReport fault = first.crashReport fault := by
  have opcode : first.opcode = second.opcode := kin.opcode
  have line : ∀ text, second.traceLine text = first.traceLine text := by
    intro text
    unfold traceLine
    rw [kin.registers, kin.timers, kin.fetchedFrom, opcode]
  have calls : second.stackLine = first.stackLine := by
    unfold stackLine
    rw [kin.registers]
  have dumped : second.crashDump = first.crashDump := by
    unfold crashDump dump
    rw [line, calls, kin.keypad, opcode]
  unfold crashReport
  rw [dumped, kin.fetchedFrom, opcode]

/-- What has been sent is of no account. -/
theorem Kin.withOutbox (kin : Kin (twins R) first second) (sent sent' : Array Signal) :
    Kin (twins R) { first with outbox := sent } { second with outbox := sent' } :=
  { kin with outbox := trivial }

theorem agree_direct {operation : Operation (Machine δ) α} {operation' : Operation (Machine δ') α}
    {K : Kinship δ δ'} (agree : Agree (Kin K) operation operation') :
    Agree (Kin K) (direct operation) (direct operation') := by
  intro first second kin
  have related := agree first second kin
  rw [direct, direct]
  generalize operation first = left at related
  generalize operation' second = right at related
  cases related with
  | ok result kin => exact .ok result kin
  | error fault kin => exact .error (Crash.refused fault) kin

theorem agree_guarded {operation : Operation (Machine δ) α} {operation' : Operation (Machine δ') α}
    (agree : Agree (Kin (twins R)) operation operation') :
    Agree (Kin (twins R)) (guarded operation) (guarded operation') := by
  intro first second kin
  have related := agree first second kin
  rw [guarded, guarded]
  generalize operation first = left at related
  generalize operation' second = right at related
  cases related with
  | ok result kin => exact .ok result kin
  | error fault kin =>
    dsimp only
    rw [kin.crashReport_eq]
    split
    · exact .error _ kin
    · exact .error (Crash.refused fault) kin

theorem agree_keyDown (code : Option KeyCode) :
    Agree (Kin (twins R)) (keyDown code) (keyDown code) := by
  refine Agree.get_bind fun first second kin => ?_
  rw [kin.keypad]
  cases first.keypad.logical? code with
  | none => exact Agree.pure none
  | some key =>
    refine Agree.bind (agree_updateKeypad _) fun _ => Agree.get_bind fun first second kin => ?_
    rw [kin.keypad]
    cases first.keypad.latch with
    | none => exact Agree.pure _
    | some register =>
      refine Agree.bind (agree_onRegisters _) fun _ => ?_
      refine Agree.bind (agree_note sends_twins _ _ _) fun _ => ?_
      exact Agree.bind (agree_updateKeypad _) fun _ => Agree.pure _

theorem agree_keyUp (code : Option KeyCode) :
    Agree (Kin (twins R)) (keyUp code) (keyUp code) := by
  refine Agree.get_bind fun first second kin => ?_
  rw [kin.keypad]
  cases first.keypad.logical? code with
  | none => exact Agree.pure none
  | some key => exact Agree.bind (agree_updateKeypad _) fun _ => Agree.pure _

section Drawing

variable [Display δ] [Display δ'] (draws : (twins R).Draws)
include draws

theorem agree_reset : Agree (Kin (twins R)) reset reset := by
  refine Agree.bind (agree_onMemory _) fun _ => Agree.bind (agree_updateRegisters _) fun _ => ?_
  refine Agree.bind (agree_updateTimers sends_twins _) fun _ => ?_
  refine Agree.bind (agree_updateKeypad _) fun _ => ?_
  refine Agree.bind (agree_clearDisplay sends_twins draws) fun _ => ?_
  refine Agree.bind (agree_renderDisplay draws) fun _ => Agree.modify fun first second kin => ?_
  exact { kin with opcode := rfl, fetchedFrom := rfl }

theorem agree_loadRom (rom : List UInt8) : Agree (Kin (twins R)) (loadRom rom) (loadRom rom) := by
  refine Agree.bind (agree_reset draws) fun _ => ?_
  refine Agree.bind (Agree.forM fun entry => agree_emit sends_twins _) fun _ => ?_
  refine Agree.bind (agree_onMemory _) fun count => ?_
  exact Agree.bind (agree_note sends_twins _ _ _) fun _ => Agree.pure count

omit draws [Display δ'] in
/-- The trace sends something, and does nothing else. -/
theorem exists_decodeExecute (machine : Machine δ) :
    ∃ outbox, decodeExecute machine =
      guarded (execute (.decode machine.opcode)) { machine with outbox := outbox } := by
  rw [decodeExecute, get_bind, decode_withOperands]
  split
  · exact ⟨_, rfl⟩
  · exact ⟨machine.outbox, rfl⟩

/-- Whether or not they are traced, they execute the same. -/
theorem agree_decodeExecute : Agree (Kin (twins R)) decodeExecute decodeExecute := by
  intro first second kin
  obtain ⟨sent, run⟩ := exists_decodeExecute first
  obtain ⟨sent', run'⟩ := exists_decodeExecute second
  have opcode : first.opcode = second.opcode := kin.opcode
  have executed := agree_guarded (agree_execute sends_twins draws (.decode first.opcode)) _ _
    (kin.withOutbox sent sent')
  rw [run, run']
  rw [opcode] at executed ⊢
  exact executed

theorem agree_step : Agree (Kin (twins R)) step step := by
  refine Agree.get_bind fun first second kin => ?_
  rw [kin.keypad]
  split
  · exact Agree.pure false
  · refine Agree.bind (Agree.modify fun first second kin => ?_) fun _ => ?_
    · exact { kin with fetchedFrom := congrArg Registers.pc kin.registers }
    refine Agree.bind (agree_guarded agree_fetch) fun word => ?_
    refine Agree.bind (Agree.modify fun first second kin => { kin with opcode := rfl }) fun _ => ?_
    refine Agree.bind (agree_direct (agree_updateRegisters _)) fun _ => ?_
    exact Agree.bind (agree_decodeExecute draws) fun _ => Agree.pure true

/-- **A request has the same reply from both, or the same crash**, and they go on holding
the same. -/
theorem agree_answer (refresh : Agree R (Display.refresh (δ := δ)) Display.refresh)
    (request : Request) : Agree (Kin (twins R)) (answer request) (answer request) := by
  cases request with
  | step => exact Agree.bind (agree_step draws) fun ran => Agree.pure _
  | tick =>
    exact Agree.bind (agree_direct (agree_updateTimers sends_twins _)) fun _ => Agree.pure _
  | keyDown code => exact Agree.bind (agree_direct (agree_keyDown code)) fun key => Agree.pure _
  | keyUp code => exact Agree.bind (agree_direct (agree_keyUp code)) fun key => Agree.pure _
  | reset => exact Agree.bind (agree_direct (agree_reset draws)) fun _ => Agree.pure _
  | load rom => exact Agree.bind (agree_direct (agree_loadRom draws rom)) fun count => Agree.pure _
  | refresh =>
    have painted : Agree (Kin (twins R)) refreshDisplay refreshDisplay :=
      Agree.bind (agree_onDisplay refresh) fun calls => agree_paint sends_twins calls
    exact Agree.bind (agree_direct painted) fun _ => Agree.pure _

end Drawing

/-! ## What answers keep -/

/-- What outlasts all that can be sent and set is kept by every answer, whatever the
display. -/
theorem Lasts.answer {Q : Timers → Array Signal → Prop} (lasts : Lasts Q Silent Timed)
    [Display δ] (request : Request) : Keeps (Tells Q) (answer request : Running δ Reply) := by
  cases request with
  | step => exact Keeps.bind lasts.step fun ran => Keeps.pure _
  | tick =>
    exact Keeps.bind (keeps_direct (keeps_updateTimers (lasts.setting (.inr (.inr (.inl rfl))))))
      fun _ => Keeps.pure _
  | keyDown code => exact Keeps.bind (keeps_direct (lasts.keyDown code)) fun key => Keeps.pure _
  | keyUp code => exact Keeps.bind (keeps_direct (keeps_keyUp code)) fun key => Keeps.pure _
  | reset => exact Keeps.bind (keeps_direct lasts.reset) fun _ => Keeps.pure _
  | load rom => exact Keeps.bind (keeps_direct (lasts.loadRom rom)) fun count => Keeps.pure _
  | refresh => exact Keeps.bind (keeps_direct lasts.refreshDisplay) fun _ => Keeps.pure _

/-! ## A machine by itself -/

/-- An operation of which something is told leaves what the operation leaves. -/
theorem left_told {β : Type} (operation : Running δ α) (told : α → β) (machine : Machine δ) :
    left ((operation >>= fun result => pure (told result)) machine) =
      left (operation machine) := by
  cases run : operation machine with
  | ok result after =>
    rw [bind_of_ok run]
    rfl
  | error crash after =>
    rw [bind_of_error run]
    rfl

theorem outcome_told {β : Type} (operation : Running Framebuffer α) (told : α → β)
    (machine : Machine Framebuffer) :
    outcome ((operation >>= fun result => pure (told result)) machine) =
      (outcome (operation machine)).map told := by
  cases run : operation machine with
  | ok result after =>
    rw [bind_of_ok run]
    rfl
  | error crash after =>
    rw [bind_of_error run]
    rfl

/-- What is replied is the response to the request. -/
theorem outcome_answer (request : Request) (machine : Machine Framebuffer) :
    outcome (answer request machine) = machine.response request := by
  cases request with
  | step => exact outcome_told step Reply.ran machine
  | tick => exact outcome_told (direct tick) (fun _ => Reply.done) machine
  | keyDown code => exact outcome_told (direct (keyDown code)) Reply.key machine
  | keyUp code => exact outcome_told (direct (keyUp code)) Reply.key machine
  | reset => exact outcome_told (direct reset) (fun _ => Reply.done) machine
  | load rom => exact outcome_told (direct (loadRom rom)) Reply.loaded machine
  | refresh => exact outcome_told (direct refreshDisplay) (fun _ => Reply.done) machine

/-- What is left is the machine after the request. -/
theorem left_answer (request : Request) (machine : Machine Framebuffer) :
    left (answer request machine) = machine.after request := by
  have served : machine.after request = left (serve request machine) := by
    unfold after
    cases serve request machine <;> rfl
  rw [served]
  cases request with
  | step => exact (left_told step _ machine).trans (left_told step _ machine).symm
  | tick => exact left_told (direct tick) _ machine
  | keyDown code =>
    exact (left_told (direct (keyDown code)) _ machine).trans (left_told _ _ machine).symm
  | keyUp code =>
    exact (left_told (direct (keyUp code)) _ machine).trans (left_told _ _ machine).symm
  | reset => exact left_told (direct reset) _ machine
  | load rom =>
    exact (left_told (direct (loadRom rom)) _ machine).trans (left_told _ _ machine).symm
  | refresh => exact left_told (direct refreshDisplay) _ machine

end Machine
end Chip8
