import Chip8.Machine.Execute
import Chip8.Proofs.Framebuffer.Inversion
/-!
# Operations on the parts of a machine

An operation on a part does to the machine what it does to the part, and
leaves the other parts alone: one equation for success and one for refusal.
What a machine sends out is of no account here; where signals are sent, the
equations say that there is an outbox with which they hold.
-/

namespace Chip8
namespace Machine

variable {δ α : Type} {machine : Machine δ} {fault : Fault} {result : α}

theorem onMemory_of_ok {operation : Operation Bank α} {memory : Bank}
    (h : operation machine.memory = .ok result memory) :
    onMemory operation machine = .ok result { machine with memory := memory } := by
  rw [onMemory, h]

theorem onMemory_of_error {operation : Operation Bank α} {memory : Bank}
    (h : operation machine.memory = .error fault memory) :
    onMemory operation machine = .error fault { machine with memory := memory } := by
  rw [onMemory, h]

theorem onRegisters_of_ok {operation : Operation Registers α} {registers : Registers}
    (h : operation machine.registers = .ok result registers) :
    onRegisters operation machine = .ok result { machine with registers := registers } := by
  rw [onRegisters, h]

theorem onRegisters_of_error {operation : Operation Registers α} {registers : Registers}
    (h : operation machine.registers = .error fault registers) :
    onRegisters operation machine = .error fault { machine with registers := registers } := by
  rw [onRegisters, h]

theorem onDisplay_of_ok {operation : Operation δ α} {display : δ}
    (h : operation machine.display = .ok result display) :
    onDisplay operation machine = .ok result { machine with display := display } := by
  rw [onDisplay, h]

/-- Reading the machine changes nothing. -/
theorem get_bind {β : Type} {ε : Type} (next : Machine δ → EStateM ε (Machine δ) β)
    (machine : Machine δ) :
    (get >>= next) machine = next machine machine := rfl

/-! ## Signals -/

theorem forM_emit_eq {γ : Type} (signal : γ → Signal) (items : List γ) (machine : Machine δ) :
    (items.forM fun item => emit (signal item)) machine =
      .ok () { machine with outbox := machine.outbox ++ items.map signal } := by
  induction items generalizing machine with
  | nil => rfl
  | cons item items ih => exact ih { machine with outbox := machine.outbox.push (signal item) }

theorem forM_emit {γ : Type} (signal : γ → Signal) (items : List γ) (machine : Machine δ) :
    ∃ outbox, (items.forM fun item => emit (signal item)) machine =
      .ok () { machine with outbox := outbox } :=
  ⟨_, forM_emit_eq signal items machine⟩

theorem paint_eq (calls : List RendererCall) (machine : Machine δ) :
    ∃ outbox, paint calls machine = .ok () { machine with outbox := outbox } :=
  forM_emit .paint calls machine

/-- A change of the timers sends the requests that it makes. -/
theorem updateTimers_eq_append (change : Timers → Timers × List ToneRequest)
    (machine : Machine δ) :
    updateTimers change machine =
      .ok () { machine with
        timers := (change machine.timers).1
        outbox := machine.outbox ++ (change machine.timers).2.map Signal.tone } :=
  forM_emit_eq .tone (change machine.timers).2
    { machine with timers := (change machine.timers).1 }

theorem updateTimers_eq (change : Timers → Timers × List ToneRequest) (machine : Machine δ) :
    ∃ outbox, updateTimers change machine =
      .ok () { machine with timers := (change machine.timers).1, outbox := outbox } :=
  ⟨_, updateTimers_eq_append change machine⟩

/-! ## The display -/

variable {width height : Nat} {machine : Machine Framebuffer}

theorem clearDisplay_of_sound (sound : machine.display.Sound width height) :
    ∃ outbox, clearDisplay machine =
      .ok () { machine with display := machine.display.cleared, outbox := outbox } := by
  have clear := onDisplay_of_ok (Framebuffer.clear_of_sound sound)
  obtain ⟨outbox, sent⟩ := paint_eq
    [.blank machine.display.width machine.display.height]
    { machine with display := machine.display.cleared }
  exact ⟨outbox, (Operation.bind_of_ok clear).trans sent⟩

/-- The dot of a display with given sides that a dot lands on. -/
def land (width height : Nat) (dot : Nat × Nat) : Nat × Nat := (dot.1 % width, dot.2 % height)

theorem togglePixel_of_sound (sound : machine.display.Sound width height) (dot : Nat × Nat) :
    ∃ outbox, togglePixel dot.1 dot.2 machine =
      .ok (machine.display.pixel (land width height dot) != 0)
        { machine with
          display := machine.display.flip (land width height dot), outbox := outbox } := by
  have landed : ((dot.1 : Int).fmod width).toNat = dot.1 % width ∧
      ((dot.2 : Int).fmod height).toNat = dot.2 % height := by
    rw [Int.fmod_eq_emod_of_nonneg _ (Int.natCast_nonneg width),
      Int.fmod_eq_emod_of_nonneg _ (Int.natCast_nonneg height)]
    exact ⟨rfl, rfl⟩
  have toggle := onDisplay_of_ok (Framebuffer.toggle_of_sound sound dot.1 dot.2)
  rw [landed.1, landed.2] at toggle
  obtain ⟨outbox, sent⟩ := paint_eq
    [.setPixel ((dot.1 : Int).fmod width) ((dot.2 : Int).fmod height)
      (if machine.display.pixel (land width height dot) ^^^ 0xFF != 0 then 1 else 0)]
    { machine with display := machine.display.flip (land width height dot) }
  refine ⟨outbox, ?_⟩
  rw [togglePixel]
  refine (Operation.bind_of_ok toggle).trans ?_
  exact (Operation.bind_of_ok sent).trans rfl

end Machine
end Chip8
