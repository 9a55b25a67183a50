import Chip8.Proofs.Machine.Signals
/-!
# Machines of a kin

Two machines that hold the same may still show it on displays of two kinds, be traced
or not, execute different words, and have sent different things. A `Kinship` says how
these parts of two machines are related, and machines that hold the same for the rest
are of that `Kin`. An instruction has the same result or the same fault from both and
leaves them of the kin (`agree_execute`), as long as the outboxes stay related whatever
is sent (`Kinship.Sends`) and the displays whatever is drawn (`Kinship.Draws`).
-/

namespace Chip8
namespace Machine

open Operation

variable {δ δ' α : Type}

/-- How the parts of two machines that may differ are related. -/
structure Kinship (δ δ' : Type) where
  display : δ → δ' → Prop
  opcode : Int → Int → Prop
  traced : Bool → Bool → Prop
  outbox : Array Signal → Array Signal → Prop

/-- **The machines hold the same**, but for the parts that the kinship is about. -/
structure Kin (K : Kinship δ δ') (first : Machine δ) (second : Machine δ') : Prop where
  memory : second.memory = first.memory
  registers : second.registers = first.registers
  timers : second.timers = first.timers
  keypad : second.keypad = first.keypad
  fetchedFrom : second.fetchedFrom = first.fetchedFrom
  noise : second.noise = first.noise
  drawn : second.drawn = first.drawn
  display : K.display first.display second.display
  opcode : K.opcode first.opcode second.opcode
  traced : K.traced first.traced second.traced
  outbox : K.outbox first.outbox second.outbox

namespace Kinship

/-- **The outboxes stay related** when the same is sent to both, and when what is noted
in one is worded differently in the other. -/
structure Sends (K : Kinship δ δ') : Prop where
  push : ∀ {a b : Array Signal} (signal : Signal), K.outbox a b →
    K.outbox (a.push signal) (b.push signal)
  note : ∀ {a b : Array Signal} (level : Level) (text text' : String), K.outbox a b →
    K.outbox (a.push (.noted ⟨level, text⟩)) (b.push (.noted ⟨level, text'⟩))

/-- **The displays stay related** when the same is drawn on both, and give the same
results. -/
structure Draws [Display δ] [Display δ'] (K : Kinship δ δ') : Prop where
  toggle : ∀ x y : Int, Agree K.display (Display.toggle (δ := δ) x y) (Display.toggle x y)
  clear : Agree K.display (Display.clear (δ := δ)) Display.clear
  render : ∀ {a b}, K.display a b → K.display (Display.render a) (Display.render b)

end Kinship

variable {K : Kinship δ δ'}

/-! ## Parts of a machine -/

theorem agree_onMemory (operation : Operation Bank α) :
    Agree (Kin K) (onMemory operation) (onMemory operation) := by
  intro first second kin
  have same := congrArg operation kin.memory
  cases run : operation first.memory with
  | ok result memory =>
    rw [onMemory_of_ok run, onMemory_of_ok (same.trans run)]
    exact .ok result { kin with memory := rfl }
  | error fault memory =>
    rw [onMemory_of_error run, onMemory_of_error (same.trans run)]
    exact .error fault { kin with memory := rfl }

theorem agree_onRegisters (operation : Operation Registers α) :
    Agree (Kin K) (onRegisters operation) (onRegisters operation) := by
  intro first second kin
  have same := congrArg operation kin.registers
  cases run : operation first.registers with
  | ok result registers =>
    rw [onRegisters_of_ok run, onRegisters_of_ok (same.trans run)]
    exact .ok result { kin with registers := rfl }
  | error fault registers =>
    rw [onRegisters_of_error run, onRegisters_of_error (same.trans run)]
    exact .error fault { kin with registers := rfl }

/-- Operations of the displays that agree do so on the machines. -/
theorem agree_onDisplay {operation : Operation δ α} {operation' : Operation δ' α}
    (agree : Agree K.display operation operation') :
    Agree (Kin K) (onDisplay operation) (onDisplay operation') := by
  intro first second kin
  have related := agree first.display second.display kin.display
  rw [onDisplay, onDisplay]
  generalize operation first.display = left at related
  generalize operation' second.display = right at related
  cases related with
  | ok result related => exact .ok result { kin with display := related }
  | error fault related => exact .error fault { kin with display := related }

theorem agree_updateRegisters (change : Registers → Registers) :
    Agree (Kin K) (updateRegisters change) (updateRegisters change) :=
  Agree.modify fun _ _ kin => { kin with registers := congrArg change kin.registers }

theorem agree_updateKeypad (change : Keypad → Keypad) :
    Agree (Kin K) (updateKeypad change) (updateKeypad change) :=
  Agree.modify fun _ _ kin => { kin with keypad := congrArg change kin.keypad }

theorem agree_reg (x : Fin 16) : Agree (Kin K) (reg x) (reg x) := by
  refine Agree.get_bind fun first second kin => ?_
  rw [kin.registers]
  exact Agree.pure _

theorem agree_setReg (x : Fin 16) (value : UInt8) :
    Agree (Kin K) (setReg x value) (setReg x value) :=
  agree_updateRegisters fun registers => registers.set x value

theorem agree_setFlag (value : Bool) : Agree (Kin K) (setFlag value) (setFlag value) :=
  agree_setReg Registers.flag (if value then 1 else 0)

theorem agree_skipIf (condition : Bool) :
    Agree (Kin K) (skipIf condition) (skipIf condition) := by
  rw [skipIf, skipIf]
  split
  · exact agree_updateRegisters _
  · exact Agree.pure ()

theorem agree_draw : Agree (Kin K) draw draw := by
  refine Agree.get_bind fun first second kin => ?_
  rw [kin.noise, kin.drawn]
  refine Agree.bind (Agree.modify fun first second kin => ?_) fun _ => Agree.pure _
  exact { kin with drawn := congrArg (· + 1) kin.drawn }

theorem agree_fetch : Agree (Kin K) fetch fetch := by
  refine Agree.get_bind fun first second kin => ?_
  rw [kin.registers]
  exact Agree.bind (agree_onMemory _) fun block => Agree.pure _

/-! ## Signals -/

section Sending

variable (sends : K.Sends)
include sends

theorem agree_emit (signal : Signal) : Agree (Kin K) (emit signal) (emit signal) :=
  Agree.modify fun _ _ kin => { kin with outbox := sends.push signal kin.outbox }

theorem agree_note (level : Level) (text text' : String) :
    Agree (Kin K) (note level text) (note level text') :=
  Agree.modify fun _ _ kin => { kin with outbox := sends.note level text text' kin.outbox }

theorem agree_paint (calls : List RendererCall) : Agree (Kin K) (paint calls) (paint calls) :=
  Agree.forM fun call => agree_emit sends (.paint call)

theorem agree_updateTimers (change : Timers → Timers × List ToneRequest) :
    Agree (Kin K) (updateTimers change) (updateTimers change) := by
  refine Agree.get_bind fun first second kin => ?_
  rw [kin.timers]
  refine Agree.bind (Agree.modify fun _ _ kin => { kin with timers := rfl }) fun _ => ?_
  exact Agree.forM fun request => agree_emit sends (.tone request)

end Sending

/-! ## Transfers -/

theorem agree_storeDecimal (x : Fin 16) : Agree (Kin K) (storeDecimal x) (storeDecimal x) := by
  refine Agree.bind (agree_reg x) fun value => Agree.get_bind fun first second kin => ?_
  rw [kin.registers]
  refine Agree.bind (agree_onMemory _) fun _ => Agree.bind (agree_onMemory _) fun _ => ?_
  exact Agree.bind (agree_onMemory _) fun _ => agree_onMemory _

theorem agree_storeRegisters (x : Fin 16) :
    Agree (Kin K) (storeRegisters x) (storeRegisters x) := by
  refine Agree.get_bind fun first second kin => ?_
  rw [kin.registers]
  refine Agree.bind (agree_onMemory _) fun _ => Agree.forM fun r => ?_
  exact Agree.bind (agree_reg r) fun byte => agree_onMemory _

theorem agree_loadRegisters (x : Fin 16) : Agree (Kin K) (loadRegisters x) (loadRegisters x) := by
  refine Agree.get_bind fun first second kin => ?_
  rw [kin.registers]
  refine Agree.forM fun r => ?_
  exact Agree.bind (agree_onMemory _) fun byte => agree_updateRegisters _

/-! ## Drawing -/

section Drawing

variable [Display δ] [Display δ']
variable (sends : K.Sends) (draws : K.Draws)
include sends draws

theorem agree_clearDisplay : Agree (Kin K) clearDisplay clearDisplay :=
  Agree.bind (agree_onDisplay draws.clear) fun calls => agree_paint sends calls

omit sends in
theorem agree_renderDisplay : Agree (Kin K) renderDisplay renderDisplay :=
  agree_onDisplay (Agree.modify fun _ _ related => draws.render related)

theorem agree_togglePixel (x y : Int) :
    Agree (Kin K) (togglePixel (δ := δ) x y) (togglePixel x y) :=
  Agree.bind (agree_onDisplay (draws.toggle x y)) fun toggled =>
    Agree.bind (agree_paint sends toggled.2) fun _ => Agree.pure toggled.1

theorem agree_drawRow (left top : Nat) (bits : UInt8) :
    Agree (Kin K) (drawRow left top bits) (drawRow left top bits) := by
  refine Agree.foldlM (fun hit column => ?_) false
  split
  · exact Agree.bind (agree_togglePixel sends draws _ _) fun lit => Agree.pure (lit || hit)
  · exact Agree.pure hit

theorem agree_drawRows (left top address height : Nat) :
    Agree (Kin K) (drawRows left top address height) (drawRows left top address height) := by
  refine Agree.foldlM (fun hit row => ?_) false
  refine Agree.bind (agree_onMemory _) fun bits => ?_
  exact Agree.bind (agree_drawRow sends draws _ _ bits) fun rowHit => Agree.pure (rowHit || hit)

theorem agree_drawSprite (x y n : Fin 16) :
    Agree (Kin K) (drawSprite x y n) (drawSprite x y n) := by
  refine Agree.bind (agree_reg x) fun _ => Agree.bind (agree_reg y) fun _ => ?_
  refine Agree.get_bind fun first second kin => ?_
  rw [kin.registers]
  refine Agree.bind (agree_drawRows sends draws _ _ _ _) fun collided => ?_
  exact Agree.bind (agree_setFlag collided) fun _ => agree_renderDisplay draws

/-! ## Instructions -/

/-- **An instruction does the same to machines of a kin.** -/
theorem agree_execute (i : Instruction) : Agree (Kin K) (execute i) (execute i) := by
  -- one case for each way to read and write the parts
  cases i with
  | cls =>
    exact Agree.bind (agree_clearDisplay sends draws) fun _ => agree_renderDisplay draws
  | drw x y n => exact agree_drawSprite sends draws x y n
  | ret => exact agree_onRegisters _
  | call nnn => exact agree_onRegisters _
  | jp | ldI => exact agree_updateRegisters _
  | ldByte x kk => exact agree_setReg x kk
  | seByte x | sneByte x => exact Agree.bind (agree_reg x) fun _ => agree_skipIf _
  | seReg x y | sneReg x y =>
    exact Agree.bind (agree_reg x) fun _ => Agree.bind (agree_reg y) fun _ => agree_skipIf _
  | skp x | sknp x =>
    refine Agree.get_bind fun first second kin => ?_
    rw [kin.keypad]
    exact Agree.bind (agree_reg x) fun _ => agree_skipIf _
  | addByte x => exact Agree.bind (agree_reg x) fun _ => agree_setReg x _
  | ldReg x y => exact Agree.bind (agree_reg y) fun _ => agree_setReg x _
  | orReg x y | andReg x y | xorReg x y =>
    exact Agree.bind (agree_reg x) fun _ => Agree.bind (agree_reg y) fun _ => agree_setReg x _
  | addReg x y | sub x y | subn x y =>
    exact Agree.bind (agree_reg x) fun _ => Agree.bind (agree_reg y) fun _ =>
      Agree.bind (agree_setReg x _) fun _ => agree_setFlag _
  | shr x | shl x =>
    exact Agree.bind (agree_reg x) fun _ => Agree.bind (agree_setReg x _) fun _ =>
      agree_setFlag _
  | jpV0 nnn => exact Agree.bind (agree_reg 0) fun _ => agree_updateRegisters _
  | rnd x kk => exact Agree.bind agree_draw fun _ => agree_setReg x _
  | ldVxDt x =>
    refine Agree.get_bind fun first second kin => ?_
    rw [kin.timers]
    exact agree_setReg x _
  | ldVxK => exact agree_updateKeypad _
  | ldDtVx x | ldStVx x => exact Agree.bind (agree_reg x) fun _ => agree_updateTimers sends _
  | addI x | ldF x => exact Agree.bind (agree_reg x) fun _ => agree_updateRegisters _
  | ldB x => exact agree_storeDecimal x
  | ldMemVx x => exact agree_storeRegisters x
  | ldVxMem x => exact agree_loadRegisters x
  | unknown => exact Agree.get_bind fun first second kin => agree_note sends _ _ _

end Drawing

end Machine
end Chip8
