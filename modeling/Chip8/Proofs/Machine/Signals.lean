import Chip8.Proofs.Machine.Request
/-!
# What a machine sends

A machine sends outwards when it draws, when it notes something and when its
timers are set. So a property of the timers and of the signals sent outlasts
whatever a machine does as soon as it outlasts the signals and the settings of
the timers that this may involve: `Lasts` is that condition, `keeps_execute`
says so of an instruction and `Lasts.after` of a request.

For an instruction that is granted this gives all that a step sends
(`step_sends`): the line of the trace, and what the instruction itself may send.
-/

namespace Chip8

/-! ## What an instruction may send -/

namespace Instruction

/-- The instruction may send the signal by itself: the two that draw paint, and an
unrecognised one warns. -/
def Emits (signal : Signal) : Instruction → Prop
  | cls | drw _ _ _ => ∃ call, signal = .paint call
  | unknown => ∃ text, signal = .noted ⟨.warning, text⟩
  | _ => False

/-- The instruction may change the timers so. -/
def Sets (change : Timers → Timers × List ToneRequest) : Instruction → Prop
  | ldDtVx _ => ∃ value, change = fun timers => (timers.setDelay value, [])
  | ldStVx _ => ∃ value, change = Timers.setSound value
  | _ => False

/-- What the instruction may send in all: what it sends by itself, and requests
for a tone where it sets the sound timer. -/
def Sends (signal : Signal) (i : Instruction) : Prop :=
  i.Emits signal ∨ (∃ x, i = ldStVx x) ∧ ∃ request, signal = .tone request

end Instruction

namespace Machine

open Operation

variable {Q : Timers → Array Signal → Prop}

/-- **The property outlasts** signals of a kind, and changes of the timers of a
kind together with the requests that they make. -/
structure Lasts (Q : Timers → Array Signal → Prop) (signals : Signal → Prop)
    (changes : (Timers → Timers × List ToneRequest) → Prop) : Prop where
  sending : ∀ {timers outbox signal}, signals signal → Q timers outbox →
    Q timers (outbox.push signal)
  setting : ∀ {timers outbox change}, changes change → Q timers outbox →
    Q (change timers).1 (outbox ++ (change timers).2.map Signal.tone)

section Parts

variable {δ α : Type}

/-- The property holds of the machine's timers and of what it has sent. -/
def Tells (Q : Timers → Array Signal → Prop) (machine : Machine δ) : Prop :=
  Q machine.timers machine.outbox

/-! ## Parts of a machine -/

theorem keeps_onMemory (operation : Operation Bank α) :
    Keeps (Tells Q) (onMemory operation : Operation (Machine δ) α) := by
  intro machine holds
  cases run : operation machine.memory with
  | ok result memory =>
    rw [onMemory_of_ok run]
    exact holds
  | error fault memory =>
    rw [onMemory_of_error run]
    exact holds

theorem keeps_onRegisters (operation : Operation Registers α) :
    Keeps (Tells Q) (onRegisters operation : Operation (Machine δ) α) := by
  intro machine holds
  cases run : operation machine.registers with
  | ok result registers =>
    rw [onRegisters_of_ok run]
    exact holds
  | error fault registers =>
    rw [onRegisters_of_error run]
    exact holds

theorem keeps_onDisplay (operation : Operation δ α) :
    Keeps (Tells Q) (onDisplay operation : Operation (Machine δ) α) := by
  intro machine holds
  cases run : operation machine.display with
  | ok result display =>
    rw [onDisplay_of_ok run]
    exact holds
  | error fault display =>
    rw [onDisplay, run]
    exact holds

theorem keeps_updateRegisters (change : Registers → Registers) :
    Keeps (Tells Q) (updateRegisters change : Operation (Machine δ) Unit) :=
  fun _ holds => holds

theorem keeps_updateKeypad (change : Keypad → Keypad) :
    Keeps (Tells Q) (updateKeypad change : Operation (Machine δ) Unit) :=
  fun _ holds => holds

theorem keeps_emit {signal : Signal}
    (sending : ∀ {timers outbox}, Q timers outbox → Q timers (outbox.push signal)) :
    Keeps (Tells Q) (emit signal : Operation (Machine δ) Unit) :=
  fun _ holds => sending holds

theorem keeps_paint (calls : List RendererCall)
    (sending : ∀ {call timers outbox}, Q timers outbox → Q timers (outbox.push (.paint call))) :
    Keeps (Tells Q) (paint calls : Operation (Machine δ) Unit) :=
  Keeps.forM fun _ => keeps_emit sending

theorem keeps_updateTimers {change : Timers → Timers × List ToneRequest}
    (setting : ∀ {timers outbox}, Q timers outbox →
      Q (change timers).1 (outbox ++ (change timers).2.map Signal.tone)) :
    Keeps (Tells Q) (updateTimers change : Operation (Machine δ) Unit) := by
  intro machine holds
  rw [updateTimers_eq_append]
  exact setting holds

theorem keeps_reg (x : Fin 16) : Keeps (Tells Q) (reg x : Operation (Machine δ) UInt8) :=
  Keeps.bind Keeps.get fun _ => Keeps.pure _

theorem keeps_setFlag (value : Bool) :
    Keeps (Tells Q) (setFlag value : Operation (Machine δ) Unit) :=
  keeps_updateRegisters fun registers => registers.set Registers.flag (if value then 1 else 0)

theorem keeps_skipIf (condition : Bool) :
    Keeps (Tells Q) (skipIf condition : Operation (Machine δ) Unit) := by
  rw [skipIf]
  split
  · exact keeps_updateRegisters _
  · exact Keeps.pure ()

/-! ## Transfers -/

theorem keeps_storeDecimal (x : Fin 16) :
    Keeps (Tells Q) (storeDecimal x : Operation (Machine δ) Unit) := by
  refine Keeps.bind (keeps_reg x) fun value => Keeps.bind Keeps.get fun machine => ?_
  refine Keeps.bind (keeps_onMemory _) fun _ => Keeps.bind (keeps_onMemory _) fun _ => ?_
  exact Keeps.bind (keeps_onMemory _) fun _ => keeps_onMemory _

theorem keeps_storeRegisters (x : Fin 16) :
    Keeps (Tells Q) (storeRegisters x : Operation (Machine δ) Unit) := by
  refine Keeps.bind Keeps.get fun machine => Keeps.bind (keeps_onMemory _) fun _ => ?_
  exact Keeps.forM fun r => Keeps.bind (keeps_reg r) fun byte => keeps_onMemory _

theorem keeps_loadRegisters (x : Fin 16) :
    Keeps (Tells Q) (loadRegisters x : Operation (Machine δ) Unit) := by
  refine Keeps.bind Keeps.get fun machine => ?_
  exact Keeps.forM fun r => Keeps.bind (keeps_onMemory _) fun byte => keeps_updateRegisters _

/-! ## Drawing -/

section Drawing

variable [Display δ]
variable (sending : ∀ {call timers outbox},
  Q timers outbox → Q timers (outbox.push (.paint call)))
include sending

theorem keeps_clearDisplay : Keeps (Tells Q) (clearDisplay : Operation (Machine δ) Unit) :=
  Keeps.bind (keeps_onDisplay _) fun calls => keeps_paint calls sending

theorem keeps_togglePixel (x y : Int) :
    Keeps (Tells Q) (togglePixel x y : Operation (Machine δ) Bool) :=
  Keeps.bind (keeps_onDisplay _) fun toggled =>
    Keeps.bind (keeps_paint toggled.2 sending) fun _ => Keeps.pure toggled.1

theorem keeps_drawRow (left top : Nat) (bits : UInt8) :
    Keeps (Tells Q) (drawRow left top bits : Operation (Machine δ) Bool) := by
  refine Keeps.foldlM (fun hit column => ?_) false
  split
  · exact Keeps.bind (keeps_togglePixel sending _ _) fun lit => Keeps.pure (lit || hit)
  · exact Keeps.pure hit

theorem keeps_drawRows (left top address height : Nat) :
    Keeps (Tells Q) (drawRows left top address height : Operation (Machine δ) Bool) := by
  refine Keeps.foldlM (fun hit row => ?_) false
  refine Keeps.bind (keeps_onMemory _) fun bits => ?_
  exact Keeps.bind (keeps_drawRow sending _ _ bits) fun rowHit => Keeps.pure (rowHit || hit)

theorem keeps_drawSprite (x y n : Fin 16) :
    Keeps (Tells Q) (drawSprite x y n : Operation (Machine δ) Unit) := by
  refine Keeps.bind (keeps_reg x) fun _ => Keeps.bind (keeps_reg y) fun _ => ?_
  refine Keeps.bind Keeps.get fun machine => ?_
  refine Keeps.bind (keeps_drawRows sending _ _ _ _) fun collided => ?_
  exact Keeps.bind (keeps_setFlag collided) fun _ => keeps_onDisplay _

end Drawing

theorem keeps_fetch : Keeps (Tells Q) (fetch : Operation (Machine δ) Nat) :=
  Keeps.bind Keeps.get fun _ => Keeps.bind (keeps_onMemory _) fun _ => Keeps.pure _

/-! ## Instructions -/

theorem keeps_direct {P : Machine δ → Prop} {operation : Operation (Machine δ) α}
    (kept : Keeps P operation) : Keeps P (direct operation) := by
  intro machine holds
  have left := kept machine holds
  rw [direct]
  cases run : operation machine <;>
  · rw [run] at left
    exact left

theorem keeps_guarded {P : Machine δ → Prop} {operation : Operation (Machine δ) α}
    (kept : Keeps P operation) : Keeps P (guarded operation) := by
  intro machine holds
  have left := kept machine holds
  rw [guarded]
  cases run : operation machine with
  | ok result after =>
    rw [run] at left
    exact left
  | error fault after =>
    rw [run] at left
    dsimp only
    split <;> exact left

/-- **An instruction keeps a property** that outlasts what the instruction may send
and how it may set the timers, whether it is granted or refused. -/
theorem keeps_execute [Display δ] {i : Instruction} (lasts : Lasts Q i.Emits i.Sets) :
    Keeps (Tells Q) (execute i : Operation (Machine δ) Unit) := by
  cases i with
  | cls =>
    exact Keeps.bind (keeps_clearDisplay (lasts.sending ⟨_, rfl⟩)) fun _ => keeps_onDisplay _
  | drw x y n => exact keeps_drawSprite (lasts.sending ⟨_, rfl⟩) x y n
  | ret => exact keeps_onRegisters _
  | call nnn => exact keeps_onRegisters _
  | seByte x | sneByte x => exact Keeps.bind (keeps_reg x) fun _ => keeps_skipIf _
  | seReg x y | sneReg x y =>
    exact Keeps.bind (keeps_reg x) fun _ => Keeps.bind (keeps_reg y) fun _ => keeps_skipIf _
  | skp x | sknp x =>
    exact Keeps.bind Keeps.get fun _ => Keeps.bind (keeps_reg x) fun _ => keeps_skipIf _
  | ldDtVx x | ldStVx x =>
    exact Keeps.bind (keeps_reg x) fun value =>
      keeps_updateTimers (lasts.setting ⟨value.toNat, rfl⟩)
  | ldB x => exact keeps_storeDecimal x
  | ldMemVx x => exact keeps_storeRegisters x
  | ldVxMem x => exact keeps_loadRegisters x
  | unknown => exact Keeps.bind Keeps.get fun machine => keeps_emit (lasts.sending ⟨_, rfl⟩)
  -- the others read and write registers only
  | _ => exact fun _ holds => holds

/-! ## Requests -/

/-- What requests of a machine may have it send besides requests for a tone. -/
def Silent (signal : Signal) : Prop :=
  (∃ call, signal = .paint call) ∨ ∃ entry, signal = .noted entry

/-- How requests of a machine may have its timers changed. -/
def Timed (change : Timers → Timers × List ToneRequest) : Prop :=
  (∃ value, change = fun timers => (timers.setDelay value, [])) ∨
    (∃ value, change = Timers.setSound value) ∨ change = Timers.tick ∨ change = Timers.reset

/-- What outlasts all that can be sent and set outlasts what an instruction does. -/
theorem Lasts.ofInstruction (lasts : Lasts Q Silent Timed) (i : Instruction) :
    Lasts Q i.Emits i.Sets where
  sending emits := by
    cases i with
    | cls | drw => exact lasts.sending (.inl emits)
    | unknown =>
      obtain ⟨text, rfl⟩ := emits
      exact lasts.sending (.inr ⟨_, rfl⟩)
    | _ => exact emits.elim
  setting sets := by
    cases i with
    | ldDtVx => exact lasts.setting (.inl sets)
    | ldStVx => exact lasts.setting (.inr (.inl sets))
    | _ => exact sets.elim

theorem keeps_keyUp (code : Option KeyCode) :
    Keeps (Tells Q) (keyUp code : Operation (Machine δ) (Option (Fin 16))) := by
  refine Keeps.bind Keeps.get fun machine => ?_
  split
  · exact Keeps.pure none
  · exact Keeps.bind (keeps_updateKeypad _) fun _ => Keeps.pure _

variable (lasts : Lasts Q Silent Timed)
include lasts

theorem Lasts.note (level : Level) (text : String) :
    Keeps (Tells Q) (note level text : Operation (Machine δ) Unit) :=
  keeps_emit (lasts.sending (.inr ⟨_, rfl⟩))

theorem Lasts.keyDown (code : Option KeyCode) :
    Keeps (Tells Q) (keyDown code : Operation (Machine δ) (Option (Fin 16))) := by
  refine Keeps.bind Keeps.get fun machine => ?_
  split
  · exact Keeps.pure none
  · refine Keeps.bind (keeps_updateKeypad _) fun _ => Keeps.bind Keeps.get fun machine => ?_
    split
    · exact Keeps.pure _
    · refine Keeps.bind (keeps_onRegisters _) fun _ => Keeps.bind (lasts.note _ _) fun _ => ?_
      exact Keeps.bind (keeps_updateKeypad _) fun _ => Keeps.pure _

variable [Display δ]

theorem Lasts.reset : Keeps (Tells Q) (reset : Operation (Machine δ) Unit) := by
  refine Keeps.bind (keeps_onMemory _) fun _ => Keeps.bind (keeps_updateRegisters _) fun _ => ?_
  refine Keeps.bind (keeps_updateTimers (lasts.setting (.inr (.inr (.inr rfl))))) fun _ => ?_
  refine Keeps.bind (keeps_updateKeypad _) fun _ => ?_
  refine Keeps.bind (keeps_clearDisplay (lasts.sending (.inl ⟨_, rfl⟩))) fun _ => ?_
  exact Keeps.bind (keeps_onDisplay _) fun _ => Keeps.modify fun _ holds => holds

theorem Lasts.loadRom (rom : List UInt8) :
    Keeps (Tells Q) (loadRom rom : Operation (Machine δ) Nat) := by
  refine Keeps.bind lasts.reset fun _ => ?_
  refine Keeps.bind (Keeps.forM fun entry => keeps_emit (lasts.sending (.inr ⟨_, rfl⟩))) fun _ => ?_
  refine Keeps.bind (keeps_onMemory _) fun count => ?_
  exact Keeps.bind (lasts.note _ _) fun _ => Keeps.pure count

theorem Lasts.refreshDisplay : Keeps (Tells Q) (refreshDisplay : Operation (Machine δ) Unit) :=
  Keeps.bind (keeps_onDisplay _) fun calls => keeps_paint calls (lasts.sending (.inl ⟨_, rfl⟩))

theorem Lasts.decodeExecute : Keeps (Tells Q) (decodeExecute : Running δ Unit) := by
  refine Keeps.bind Keeps.get fun machine => ?_
  have executed (i : Instruction) : Keeps (Tells Q) (guarded (execute i) : Running δ Unit) :=
    keeps_guarded (keeps_execute (lasts.ofInstruction _))
  split
  · exact Keeps.bind (keeps_direct (lasts.note _ _)) fun _ => executed _
  · exact executed _

theorem Lasts.step : Keeps (Tells Q) (step : Running δ Bool) := by
  refine Keeps.bind Keeps.get fun machine => ?_
  split
  · exact Keeps.pure false
  · refine Keeps.bind (Keeps.modify fun _ holds => holds) fun _ => ?_
    refine Keeps.bind (keeps_guarded keeps_fetch) fun word => ?_
    refine Keeps.bind (Keeps.modify fun _ holds => holds) fun _ => ?_
    refine Keeps.bind (keeps_direct (keeps_updateRegisters _)) fun _ => ?_
    exact Keeps.bind lasts.decodeExecute fun _ => Keeps.pure true

end Parts

/-- **What outlasts all that can be sent and set is kept by every request**, those
included that crash. -/
theorem Lasts.after {machine : Machine Framebuffer} (lasts : Lasts Q Silent Timed)
    (holds : machine.Tells Q) (request : Request) : (machine.after request).Tells Q := by
  have kept : Keeps (Tells Q) (serve request) := by
    cases request with
    | step => exact Keeps.bind lasts.step fun _ => Keeps.pure _
    | tick => exact keeps_direct (keeps_updateTimers (lasts.setting (.inr (.inr (.inl rfl)))))
    | keyDown code => exact Keeps.bind (keeps_direct (lasts.keyDown code)) fun _ => Keeps.pure _
    | keyUp code => exact Keeps.bind (keeps_direct (keeps_keyUp code)) fun _ => Keeps.pure _
    | reset => exact keeps_direct lasts.reset
    | load rom => exact Keeps.bind (keeps_direct (lasts.loadRom rom)) fun _ => Keeps.pure _
    | refresh =>
      have painted : Keeps (Tells Q)
          (Machine.refreshDisplay : Operation (Machine Framebuffer) Unit) := lasts.refreshDisplay
      exact keeps_direct painted
  have left := kept machine holds
  rw [Machine.after]
  cases run : serve request machine <;>
  · rw [run] at left
    exact left

/-- **What outlasts all that can be sent and set holds of every machine in use**, if it
holds of timers that are empty and of a machine that has sent nothing. -/
theorem Reachable.tells {width height : Nat} {machine : Machine Framebuffer}
    (reachable : Reachable width height machine) (lasts : Lasts Q Silent Timed)
    (first : Q .initial #[]) : machine.Tells Q := by
  induction reachable with
  | @start keymap traced noise machine width_pos height_pos on =>
    have kept := lasts.reset (parts keymap (Framebuffer.blank width height) traced noise) first
    rw [switchOn] at on
    cases run : Machine.reset (parts keymap (Framebuffer.blank width height) traced noise) with
    | ok result after =>
      rw [run] at on kept
      injection on with same
      exact same ▸ kept
    | error fault after =>
      rw [run] at on
      injection on
  | served reachable request ih => exact lasts.after ih request

/-! ## What a step sends -/

/-- The outbox holds what it held, followed by signals that the instruction may
send. -/
def Grown (base : Array Signal) (i : Instruction) (outbox : Array Signal) : Prop :=
  ∃ sent : List Signal, (∀ signal ∈ sent, i.Sends signal) ∧ outbox = base ++ sent

theorem Grown.append {base outbox : Array Signal} {i : Instruction} {more : List Signal}
    (grown : Grown base i outbox) (may : ∀ signal ∈ more, i.Sends signal) :
    Grown base i (outbox ++ more) := by
  obtain ⟨sent, before, rfl⟩ := grown
  refine ⟨sent ++ more, ?_, List.foldl_append.symm⟩
  intro signal mem
  rcases List.mem_append.1 mem with mem | mem
  · exact before signal mem
  · exact may signal mem

theorem lasts_grown (base : Array Signal) (i : Instruction) :
    Lasts (fun _ => Grown base i) i.Emits i.Sets where
  sending {_ outbox signal} emits grown := by
    have may : ∀ other ∈ [signal], i.Sends other := by
      intro other mem
      rw [List.mem_singleton.1 mem]
      exact .inl emits
    exact grown.append may
  setting {timers outbox change} sets grown := by
    refine grown.append fun signal mem => ?_
    obtain ⟨request, asked, rfl⟩ := List.mem_map.1 mem
    cases i with
    | ldDtVx =>
      obtain ⟨value, rfl⟩ := sets
      exact absurd asked List.not_mem_nil
    | ldStVx => exact .inr ⟨⟨_, rfl⟩, request, rfl⟩
    | _ => exact sets.elim

variable {width height : Nat} {machine : Machine Framebuffer}

/-- **What a granted instruction sends.** The step sends the line of the trace, and
then nothing but what the instruction may send. -/
theorem step_sends (sound : machine.Sound width height)
    (ready : machine.keypad.isAwaiting = false) (fits : ¬ machine.AtTop)
    (granted : machine.poised.refusal machine.upcoming = none) :
    ∃ outbox, Grown (machine.outbox ++ machine.poised.announcement) machine.upcoming outbox ∧
      step machine =
        .ok true { machine.poised.executed machine.upcoming with outbox := outbox } := by
  obtain ⟨outbox, executed⟩ := execute_of_granted
    (sound.poised.withOutbox (machine.outbox ++ machine.poised.announcement)) granted
  have grown := keeps_execute
    (lasts_grown (machine.outbox ++ machine.poised.announcement) machine.upcoming)
    { machine.poised with outbox := machine.outbox ++ machine.poised.announcement }
    ⟨[], nofun, Array.appendList_nil.symm⟩
  rw [executed] at grown
  refine ⟨outbox, grown, ?_⟩
  rw [step_of_not_atTop sound ready fits, bind_of_ok (guarded_of_ok executed)]
  rfl

/-- **What a completed step leaves**, with all that it sends. -/
theorem Sound.of_completed {left : Machine Framebuffer} (sound : machine.Sound width height)
    (run : step machine = .ok true left) :
    machine.keypad.isAwaiting = false ∧ ¬ machine.AtTop ∧
      machine.poised.refusal machine.upcoming = none ∧
      ∃ outbox, Grown (machine.outbox ++ machine.poised.announcement) machine.upcoming outbox ∧
        left = { machine.poised.executed machine.upcoming with outbox := outbox } := by
  have course := sound.course
  rw [run] at course
  cases course with
  | granted ready fits granted =>
    obtain ⟨outbox, grown, again⟩ := step_sends sound ready fits granted
    rw [run] at again
    injection again with _ same
    exact ⟨ready, fits, granted, outbox, grown, same⟩

end Machine
end Chip8
