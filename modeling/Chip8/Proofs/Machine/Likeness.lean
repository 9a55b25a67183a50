import Chip8.Proofs.Machine.Run
/-!
# Machines alike

Two machines with the same contents, to which the same random bytes are still to
come, are `Alike`, whatever is traced of them and whatever they have sent or drawn
before. The same request has the same reply or the same crash from both, and
leaves them alike (`Alike.step`, `Alike.after`), so that nothing that is seen of a
run tells them apart (`Alike.transcript_eq`).
-/

namespace Chip8
namespace Machine

variable {width height : Nat} {machine first second : Machine Framebuffer}

/-- **The same contents, and the same random bytes to come.** -/
structure Alike (first second : Machine Framebuffer) : Prop where
  contents : first.bare = second.bare
  noise : ∀ k, first.noise (first.drawn + k) = second.noise (second.drawn + k)

/-- Machines alike differ in nothing but their surroundings. -/
theorem Alike.eq_with (alike : Alike first second) :
    ∃ traced noise drawn outbox, second =
      { first with traced := traced, noise := noise, drawn := drawn, outbox := outbox } := by
  refine ⟨second.traced, second.noise, second.drawn, second.outbox, ?_⟩
  calc second = { second.bare with
        traced := second.traced, noise := second.noise, drawn := second.drawn,
        outbox := second.outbox } := rfl
    _ = { first.bare with
        traced := second.traced, noise := second.noise, drawn := second.drawn,
        outbox := second.outbox } := by rw [alike.contents]

/-- What they have sent is of no account. -/
theorem Alike.withOutbox (alike : Alike first second) (sent sent' : Array Signal) :
    Alike { first with outbox := sent } { second with outbox := sent' } :=
  ⟨alike.contents, alike.noise⟩

theorem Alike.sound (alike : Alike first second) (sound : first.Sound width height) :
    second.Sound width height := by
  obtain ⟨traced, noise, drawn, outbox, rfl⟩ := alike.eq_with
  exact ⟨sound.memory, sound.registers, sound.latch, sound.display⟩

/-! ## Instructions -/

/-- They fetch the same word, and are poised alike. -/
theorem Alike.poised (alike : Alike first second) : Alike first.poised second.poised := by
  obtain ⟨traced, noise, drawn, outbox, rfl⟩ := alike.eq_with
  exact ⟨rfl, alike.noise⟩

theorem Alike.marked (alike : Alike first second) : Alike first.marked second.marked := by
  obtain ⟨traced, noise, drawn, outbox, rfl⟩ := alike.eq_with
  exact ⟨rfl, alike.noise⟩

theorem Alike.upcoming_eq (alike : Alike first second) : second.upcoming = first.upcoming := by
  obtain ⟨traced, noise, drawn, outbox, rfl⟩ := alike.eq_with
  rfl

/-- They refuse the same instructions. -/
theorem Alike.refusal_eq (alike : Alike first second) (i : Instruction) :
    second.refusal i = first.refusal i := by
  obtain ⟨traced, noise, drawn, outbox, rfl⟩ := alike.eq_with
  cases i <;> rfl

/-- An instruction leaves them alike: a random byte that it draws is the next one
to come to either. -/
theorem Alike.executed (alike : Alike first second) (i : Instruction) :
    Alike (first.executed i) (second.executed i) := by
  obtain ⟨traced, noise, drawn, outbox, rfl⟩ := alike.eq_with
  cases i with
  | rnd x kk =>
    have byte : first.noise first.drawn = noise drawn := alike.noise 0
    refine ⟨?_, fun k => ?_⟩
    · simp only [bare, Machine.executed, registersAfter, byte]
      rfl
    · have next := alike.noise (1 + k)
      simp only [← Nat.add_assoc] at next
      exact next
  | _ => exact ⟨rfl, alike.noise⟩

theorem Alike.interrupted (alike : Alike first second) (i : Instruction) :
    Alike (first.interrupted i) (second.interrupted i) := by
  obtain ⟨traced, noise, drawn, outbox, rfl⟩ := alike.eq_with
  cases i <;> exact ⟨rfl, alike.noise⟩

/-- They are reported on in the same words. -/
theorem Alike.crashReport_eq (alike : Alike first second) (fault : Fault) :
    second.crashReport fault = first.crashReport fault := by
  obtain ⟨traced, noise, drawn, outbox, rfl⟩ := alike.eq_with
  rfl

/-! ## Steps -/

/-- Two results that are the same, of machines that are left alike. -/
inductive Same {α : Type} :
    EStateM.Result Crash (Machine Framebuffer) α →
    EStateM.Result Crash (Machine Framebuffer) α → Prop where
  | ok {first second : Machine Framebuffer} (result : α) (alike : Alike first second) :
      Same (.ok result first) (.ok result second)
  | error {first second : Machine Framebuffer} (crash : Crash) (alike : Alike first second) :
      Same (.error crash first) (.error crash second)

/-- **A step of machines alike** has the same result, and leaves them alike. -/
theorem Alike.step (alike : Alike first second) (sound : first.Sound width height) :
    Same (step first) (step second) := by
  have sound' := alike.sound sound
  have keypad : second.keypad = first.keypad := (congrArg Machine.keypad alike.contents).symm
  have registers : second.registers = first.registers :=
    (congrArg Machine.registers alike.contents).symm
  rcases Bool.eq_false_or_eq_true first.keypad.isAwaiting with awaiting | ready
  · rw [step_of_awaiting awaiting, step_of_awaiting (keypad ▸ awaiting)]
    exact .ok false alike
  · have ready' : second.keypad.isAwaiting = false := keypad ▸ ready
    by_cases top : first.AtTop
    · have top' : second.AtTop := by
        rw [AtTop, registers]
        exact top
      rw [step_of_atTop sound ready top, step_of_atTop sound' ready' top', registers,
        alike.marked.crashReport_eq]
      exact .error _ alike.marked
    · have fits : ¬ second.AtTop := by
        rw [AtTop, registers]
        exact top
      have verdict : second.poised.refusal second.upcoming =
          first.poised.refusal first.upcoming := by
        rw [alike.upcoming_eq, alike.poised.refusal_eq]
      cases refused : first.poised.refusal first.upcoming with
      | none =>
        obtain ⟨sent, run⟩ := step_of_granted sound ready top refused
        obtain ⟨sent', run'⟩ := step_of_granted sound' ready' fits (verdict.trans refused)
        rw [run, run', alike.upcoming_eq]
        exact .ok true ((alike.poised.executed first.upcoming).withOutbox sent sent')
      | some fault =>
        obtain ⟨sent, run⟩ := step_of_refused sound ready top refused
        obtain ⟨sent', run'⟩ := step_of_refused sound' ready' fits (verdict.trans refused)
        have left := (alike.poised.interrupted first.upcoming).withOutbox sent sent'
        rw [run, run', alike.upcoming_eq, left.crashReport_eq]
        exact .error _ left

theorem Alike.step_ok {ran : Bool} {left : Machine Framebuffer} (alike : Alike first second)
    (sound : first.Sound width height) (run : Machine.step first = .ok ran left) :
    ∃ left', Machine.step second = .ok ran left' ∧ Alike left left' := by
  have same := alike.step sound
  rw [run] at same
  generalize Machine.step second = result at same
  cases same with
  | ok _ alike => exact ⟨_, rfl, alike⟩

theorem Alike.step_error {crash : Crash} {left : Machine Framebuffer} (alike : Alike first second)
    (sound : first.Sound width height) (run : Machine.step first = .error crash left) :
    ∃ left', Machine.step second = .error crash left' ∧ Alike left left' := by
  have same := alike.step sound
  rw [run] at same
  generalize Machine.step second = result at same
  cases same with
  | error _ alike => exact ⟨_, rfl, alike⟩

/-! ## Requests -/

theorem Alike.answered (alike : Alike first second) {request : Request}
    (other : request ≠ .step) : Alike (first.answered request) (second.answered request) := by
  obtain ⟨traced, noise, drawn, outbox, rfl⟩ := alike.eq_with
  cases request with
  | step => exact absurd rfl other
  | keyDown code =>
    simp only [Machine.answered]
    cases first.keypad.logical? code with
    | none => exact alike
    | some key =>
      simp only [pressed]
      cases first.keypad.latch <;> exact ⟨rfl, alike.noise⟩
  | keyUp code =>
    simp only [Machine.answered]
    cases first.keypad.logical? code <;> exact ⟨rfl, alike.noise⟩
  | _ => exact ⟨rfl, alike.noise⟩

/-- **A request leaves machines alike.** -/
theorem Alike.after (alike : Alike first second) (sound : first.Sound width height)
    (request : Request) : Alike (first.after request) (second.after request) := by
  by_cases other : request = .step
  · subst other
    cases run : Machine.step first with
    | ok ran left =>
      obtain ⟨left', run', alike⟩ := alike.step_ok sound run
      rw [after_step_of_ok run, after_step_of_ok run']
      exact alike
    | error crash left =>
      obtain ⟨left', run', alike⟩ := alike.step_error sound run
      rw [after_step_of_error run, after_step_of_error run']
      exact alike
  · obtain ⟨sent, left⟩ := after_eq sound request
    obtain ⟨sent', left'⟩ := after_eq (alike.sound sound) request
    rw [left, left']
    exact (alike.answered other).withOutbox sent sent'

/-- **A request has the same reply from machines alike**, or the same crash. -/
theorem Alike.response_eq (alike : Alike first second) (sound : first.Sound width height)
    (request : Request) : second.response request = first.response request := by
  by_cases other : request = .step
  · subst other
    simp only [response]
    cases run : Machine.step first with
    | ok ran left =>
      obtain ⟨left', run', -⟩ := alike.step_ok sound run
      rw [run']
      rfl
    | error crash left =>
      obtain ⟨left', run', -⟩ := alike.step_error sound run
      rw [run']
      rfl
  · have keypad : second.keypad = first.keypad := (congrArg Machine.keypad alike.contents).symm
    rw [response_of_ne_step sound other, response_of_ne_step (alike.sound sound) other]
    cases request with
    | keyDown | keyUp => rw [told, told, keypad]
    | _ => rfl

/-- **Nothing that is seen of a run tells machines alike apart.** -/
theorem Alike.transcript_eq (alike : Alike first second) (sound : first.Sound width height)
    (requests : List Request) : second.transcript requests = first.transcript requests := by
  induction requests generalizing first second with
  | nil => rfl
  | cons request requests ih =>
    have after := alike.after sound request
    rw [transcript, transcript, alike.response_eq sound request, ih after (sound.after request),
      after.contents]

end Machine
end Chip8
