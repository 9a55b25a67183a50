import Chip8.Proofs.Machine.Diagnosis
/-!
# Waiting for a key

A register is awaited from the instruction that asks for a key on
(`Sound.latch_after`), until a key of the keymap goes down or the machine starts
again. Until then nothing but ticks and keys that go up has any effect
(`Follows.undisturbed`); the key that ends the wait fills the register
(`Sound.released`), and the keys that come with it change nothing about that
(`Sound.wait_ended`); and after it no key fills any, until one is asked for again
(`Follows.free`).
-/

namespace Chip8

namespace Machine

variable {width height : Nat} {machine left : Machine Framebuffer} {request : Request}
variable {number : Int} {register key : Fin 16} {code : Option KeyCode} {requests : List Request}

/-! ## How a wait begins -/

/-- The upcoming word asks for a key, to fill a register. -/
def AsksForKey (machine : Machine Framebuffer) (register : Fin 16) : Prop :=
  let op := machine.upcomingWord
  op / 4096 = 0xF ∧ op % 256 = 0x0A ∧ op / 256 % 16 = register

theorem isAwaiting_of_latch (latch : machine.keypad.latch = some number) :
    machine.keypad.isAwaiting = true := by
  rw [Keypad.isAwaiting, latch]
  rfl

theorem isAwaiting_of_free (free : machine.keypad.latch = none) :
    machine.keypad.isAwaiting = false := by
  rw [Keypad.isAwaiting, free]
  rfl

/-- Nothing is awaited of a machine that does not wait. -/
theorem not_latch_of_ready (ready : machine.keypad.isAwaiting = false) :
    machine.keypad.latch ≠ some number := by
  intro latch
  rw [isAwaiting_of_latch latch] at ready
  exact Bool.noConfusion ready

/-- A register that is awaited after an instruction and was not before it is the
one that the instruction asks for. -/
theorem asksForKey_of_executed (ready : machine.keypad.isAwaiting = false)
    (latch : (machine.poised.executed machine.upcoming).keypad.latch = some number) :
    ∃ register : Fin 16, number = register.val ∧ machine.AsksForKey register := by
  change (machine.poised.keypadAfter machine.upcoming).latch = _ at latch
  cases upcoming : machine.upcoming with
  | ldVxK x =>
    obtain ⟨op, last, rfl⟩ := matches_of_upcoming upcoming
    rw [upcoming] at latch
    injection latch with named
    exact ⟨_, named.symm, op, last, rfl⟩
  | _ =>
    rw [upcoming] at latch
    exact absurd latch (not_latch_of_ready ready)

/-- Once a key of the keymap has gone down no register is awaited. -/
theorem latch_pressed (key : Fin 16) : (machine.pressed key).keypad.latch = none := by
  rw [pressed]
  cases latch : machine.keypad.latch with
  | none => exact latch
  | some number => rfl

/-- A register that is awaited after a request other than a step was before it,
and memory and registers are as they were. -/
theorem latch_answered (other : request ≠ .step)
    (latch : (machine.answered request).keypad.latch = some number) :
    machine.keypad.latch = some number ∧
      (machine.answered request).memory = machine.memory ∧
      (machine.answered request).registers = machine.registers := by
  cases request with
  | step => exact absurd rfl other
  | tick | refresh => exact ⟨latch, rfl, rfl⟩
  | reset | load => exact absurd latch (Option.some_ne_none number).symm
  | keyUp code =>
    revert latch
    rw [answered]
    cases machine.keypad.logical? code <;> exact fun latch => ⟨latch, rfl, rfl⟩
  | keyDown code =>
    revert latch
    rw [answered]
    cases machine.keypad.logical? code with
    | none => exact fun latch => ⟨latch, rfl, rfl⟩
    | some key =>
      intro latch
      rw [latch_pressed] at latch
      exact absurd latch (Option.some_ne_none number).symm

/-- **How a register comes to be awaited.** It was before, and memory and
registers are as they were; or a step has completed an instruction that asks for
it. -/
theorem Sound.latch_after (sound : machine.Sound width height)
    (latch : (machine.after request).keypad.latch = some number) :
    (machine.keypad.latch = some number ∧
      (machine.after request).memory = machine.memory ∧
      (machine.after request).registers = machine.registers) ∨
    (request = .step ∧ step machine = .ok true (machine.after request) ∧
      ∃ register : Fin 16, number = register.val ∧ machine.AsksForKey register) := by
  by_cases other : request = .step
  · subst other
    have course := sound.course
    cases run : step machine with
    | ok ran left =>
      rw [run] at course
      rw [after_step_of_ok run] at latch ⊢
      cases course with
      | awaited => exact .inl ⟨latch, rfl, rfl⟩
      | granted ready => exact .inr ⟨rfl, rfl, asksForKey_of_executed ready latch⟩
    | error crash left =>
      rw [run] at course
      rw [after_step_of_error run] at latch
      cases course with
      | unfetched ready => exact absurd latch (not_latch_of_ready ready)
      | refused ready _ _ _ leaves =>
        rw [leaves] at latch
        exact absurd latch (not_latch_of_ready ready)
  · obtain ⟨outbox, answered⟩ := after_eq sound request
    rw [answered] at latch ⊢
    exact .inl (latch_answered other latch)

/-- The request is made of a machine that waits. -/
def Waiting (machine : Machine Framebuffer) (_ : Request) : Prop :=
  machine.keypad.isAwaiting = true

/-- **A wait has begun with an instruction that asked for it.** The machine has
waited ever since, and memory and registers are as the instruction has left them. -/
theorem Reachable.asked (reachable : Reachable width height machine)
    (latch : machine.keypad.latch = some number) :
    ∃ asked armed, Reachable width height asked ∧ step asked = .ok true armed ∧
      (∃ register : Fin 16, number = register.val ∧ asked.AsksForKey register) ∧
      Follows Waiting armed machine ∧
      machine.memory = armed.memory ∧ machine.registers = armed.registers := by
  induction reachable with
  | start width_pos height_pos on =>
    rename_i keymap traced noise machine
    obtain ⟨outbox, switched⟩ := switchOn_eq width_pos height_pos keymap traced noise
    rw [switched] at on
    injection on with same
    rw [← same] at latch
    exact absurd latch (Option.some_ne_none number).symm
  | served reachable request ih =>
    rcases reachable.sound.latch_after latch with ⟨before, memory, registers⟩ | ⟨rfl, run, asks⟩
    · -- the wait is older than the request
      obtain ⟨asked, armed, reached, run, asks, follows, memory', registers'⟩ := ih before
      exact ⟨asked, armed, reached, run, asks, follows.served (isAwaiting_of_latch before),
        memory.trans memory', registers.trans registers'⟩
    · exact ⟨_, _, reachable, run, asks, .start, rfl, rfl⟩

/-! ## The wait -/

/-- The requests that a wait outlasts: steps, ticks, keys that go up, and keys that
are not of the keymap. -/
def Unheard (machine : Machine Framebuffer) : Request → Prop
  | .step | .tick | .keyUp _ => True
  | .keyDown code => machine.keypad.logical? code = none
  | .reset | .load _ | .refresh => False

/-- **The same but for the timers, the keys held down and the signals sent.** -/
def Undisturbed (before after : Machine Framebuffer) : Prop :=
  after = { before with
    timers := after.timers
    keypad := { before.keypad with pressed := after.keypad.pressed }
    outbox := after.outbox }

theorem Undisturbed.trans {before between after : Machine Framebuffer}
    (first : Undisturbed before between) (second : Undisturbed between after) :
    Undisturbed before after := by
  rw [Undisturbed] at first second ⊢
  rw [first] at second
  exact second

theorem Undisturbed.latch_eq {before after : Machine Framebuffer}
    (same : Undisturbed before after) : after.keypad.latch = before.keypad.latch :=
  (congrArg (fun machine => machine.keypad.latch) same :)

/-- **What a request leaves while a register is awaited**, if it does not end the
wait: all but the timers is as it was unless a key goes up, and all but the keys held
down unless the timers tick. -/
theorem Sound.after_unheard (sound : machine.Sound width height)
    (latch : machine.keypad.latch = some number) (unheard : Unheard machine request) :
    Undisturbed machine (machine.after request) ∧
      (request ≠ .tick → (machine.after request).timers = machine.timers) ∧
      ((∀ code, request ≠ .keyUp code) → (machine.after request).keypad = machine.keypad) := by
  obtain ⟨outbox, left⟩ := after_eq sound request
  cases request with
  | step =>
    rw [after_step_of_ok (step_of_awaiting (isAwaiting_of_latch latch))]
    exact ⟨rfl, fun _ => rfl, fun _ => rfl⟩
  | tick =>
    rw [left]
    exact ⟨rfl, fun other => absurd rfl other, fun _ => rfl⟩
  | keyUp code =>
    rw [left, Machine.answered]
    cases machine.keypad.logical? code with
    | none => exact ⟨rfl, fun _ => rfl, fun _ => rfl⟩
    | some key => exact ⟨rfl, fun _ => rfl, fun other => absurd rfl (other code)⟩
  | keyDown code =>
    rw [Unheard] at unheard
    rw [left, Machine.answered, unheard]
    exact ⟨rfl, fun _ => rfl, fun _ => rfl⟩
  | reset | load | refresh => exact absurd unheard id

/-- **A wait goes on**, and leaves the machine undisturbed. -/
theorem Follows.undisturbed {waiting : Machine Framebuffer}
    (follows : Follows Unheard machine waiting) (sound : machine.Sound width height)
    (latch : machine.keypad.latch = some number) : Undisturbed machine waiting := by
  refine follows.keeps_of_sound sound rfl fun between request sound same unheard => ?_
  have still := same.latch_eq.trans latch
  exact same.trans (sound.after_unheard still unheard).1

/-! ## The key that ends it -/

/-- **What a key leaves that ends a wait**: its number in the register, and itself
held down with the others. -/
structure Released (register key : Fin 16) (before after : Machine Framebuffer) : Prop where
  filled : (after.registers.get register).toNat = key
  others : ∀ x ≠ register, after.registers.get x = before.registers.get x
  held : ∀ number, after.keypad.isPressed number = true ↔
    number = key.val ∨ before.keypad.isPressed number = true
  /-- Nothing else is touched, and no register is awaited. -/
  rest : after = { before with
    registers := { before.registers with v := after.registers.v }
    keypad := { before.keypad with pressed := after.keypad.pressed, latch := none }
    outbox := after.outbox }

/-- A key that goes down while a register is awaited fills it. -/
theorem Sound.released (sound : machine.Sound width height)
    (latch : machine.keypad.latch = some (register.val : Int))
    (known : machine.keypad.logical? code = some key) :
    ∃ left, keyDown code machine = .ok (some key) left ∧ Released register key machine left := by
  obtain ⟨outbox, run⟩ := keyDown_of_some sound known
  have named : Fin.ofNat 16 (register.val : Int).toNat = register := Fin.ofNat_val_eq_self register
  have byte : (UInt8.ofInt key.val).toNat = key.val := by
    rw [ofInt_key, UInt8.toNat_ofNat']
    omega
  simp only [Machine.pressed, latch, named] at run
  refine ⟨_, run, ?_, ?_, Keypad.isPressed_press key machine.keypad, rfl⟩
  · exact (congrArg UInt8.toNat (Registers.get_set_self _ _ _)).trans byte
  · intro x other
    exact Registers.get_set_of_ne other.symm

theorem after_keyDown_of_ok {result : Option (Fin 16)}
    (run : keyDown code machine = .ok result left) : machine.after (.keyDown code) = left :=
  after_of_ok (Operation.bind_of_ok (direct_of_ok run))

/-! ## After the wait -/

/-- The request is no step, and does not start the machine again. -/
def Idle (_ : Machine Framebuffer) (request : Request) : Prop :=
  request ≠ .step ∧ request.Continues

/-- While no register is awaited such a request leaves memory and registers
alone. -/
theorem answered_idle (free : machine.keypad.latch = none) (idle : Idle machine request) :
    (machine.answered request).memory = machine.memory ∧
      (machine.answered request).registers = machine.registers ∧
      (machine.answered request).keypad.latch = none := by
  obtain ⟨other, continues⟩ := idle
  refine ⟨(congrArg Machine.memory (answered_eq other continues) :), ?_⟩
  cases request with
  | step => exact absurd rfl other
  | reset | load => exact absurd continues id
  | tick | refresh => exact ⟨rfl, free⟩
  | keyUp code =>
    rw [answered]
    cases machine.keypad.logical? code <;> exact ⟨rfl, free⟩
  | keyDown code =>
    rw [answered]
    cases machine.keypad.logical? code with
    | none => exact ⟨rfl, free⟩
    | some key =>
      refine ⟨?_, latch_pressed key⟩
      change (machine.pressed key).registers = _
      rw [pressed, free]

theorem Sound.after_idle (sound : machine.Sound width height)
    (free : machine.keypad.latch = none) (idle : Idle machine request) :
    (machine.after request).memory = machine.memory ∧
      (machine.after request).registers = machine.registers ∧
      (machine.after request).keypad.latch = none := by
  obtain ⟨outbox, left⟩ := after_eq sound request
  rw [left]
  exact answered_idle free idle

/-- Nothing happens to memory and registers before the next step. -/
theorem Follows.idle {resumed : Machine Framebuffer} (follows : Follows Idle machine resumed)
    (sound : machine.Sound width height) (free : machine.keypad.latch = none) :
    resumed.memory = machine.memory ∧ resumed.registers = machine.registers ∧
      resumed.keypad.latch = none := by
  refine follows.keeps_of_sound (P := fun between => between.memory = machine.memory ∧
    between.registers = machine.registers ∧ between.keypad.latch = none) sound ⟨rfl, rfl, free⟩
    fun between request sound same idle => ?_
  obtain ⟨memory, registers, free⟩ := same
  obtain ⟨memory', registers', free'⟩ := sound.after_idle free idle
  exact ⟨memory'.trans memory, registers'.trans registers, free'⟩

/-- What a wait outlasts now it outlasts later on. -/
theorem Undisturbed.unheard {before after : Machine Framebuffer} {request : Request}
    (same : Undisturbed before after) (unheard : Unheard before request) :
    Unheard after request := by
  cases request with
  | keyDown code =>
    have keymap : after.keypad.keymap = before.keypad.keymap :=
      (congrArg (fun machine => machine.keypad.keymap) same :)
    rw [Unheard, Keypad.logical?, keymap]
    exact unheard
  | _ => exact unheard

theorem Sound.undisturbed_afterAll {number : Int} (sound : machine.Sound width height)
    (latch : machine.keypad.latch = some number)
    (unheard : ∀ request ∈ requests, Unheard machine request) :
    Undisturbed machine (machine.afterAll requests) := by
  induction requests generalizing machine with
  | nil => exact rfl
  | cons request requests ih =>
    obtain ⟨here, there⟩ := List.forall_mem_cons.1 unheard
    have first := (sound.after_unheard latch here).1
    exact first.trans (ih (sound.after request) (first.latch_eq.trans latch)
      fun request mem => first.unheard (there request mem))

/-- **What a wait has come to that ended**: its register holds the key, the others are as
they were, and none is awaited. -/
structure WaitEnded (register key : Fin 16) (before after : Machine Framebuffer) : Prop where
  free : after.keypad.latch = none
  filled : (after.registers.get register).toNat = key
  others : ∀ x ≠ register, after.registers.get x = before.registers.get x

/-- **A wait ends with the first key of the keymap that goes down**, whatever keys come
after. -/
theorem Sound.wait_ended {register key : Fin 16} {code : Option KeyCode} {later : List Request}
    (sound : machine.Sound width height)
    (latch : machine.keypad.latch = some (register.val : Int))
    (unheard : ∀ request ∈ requests, Unheard machine request)
    (known : machine.keypad.logical? code = some key)
    (idle : ∀ request ∈ later, ∀ machine, Idle machine request) :
    WaitEnded register key machine (machine.afterAll (requests ++ .keyDown code :: later)) := by
  have waiting := sound.undisturbed_afterAll latch unheard
  have sound' := sound.afterAll requests
  have keymap : (machine.afterAll requests).keypad.keymap = machine.keypad.keymap :=
    (congrArg (fun machine => machine.keypad.keymap) waiting :)
  have registers : (machine.afterAll requests).registers = machine.registers :=
    (congrArg Machine.registers waiting :)
  have known' : (machine.afterAll requests).keypad.logical? code = some key := by
    rw [Keypad.logical?, keymap]
    exact known
  obtain ⟨left, down, released⟩ := sound'.released (waiting.latch_eq.trans latch) known'
  have pressed := after_keyDown_of_ok down
  have free : left.keypad.latch = none := by rw [released.rest]
  have resumed := (Follows.start.afterAll idle : Follows Idle left (left.afterAll later))
  obtain ⟨-, kept, free'⟩ := resumed.idle (pressed ▸ sound'.after _) free
  rw [afterAll_append, ← List.singleton_append, afterAll_append,
    show (machine.afterAll requests).afterAll [.keyDown code] = left from pressed]
  refine ⟨free', ?_, fun x other => ?_⟩
  · rw [kept]
    exact released.filled
  · rw [kept, released.others x other, registers]

/-- The request completes no instruction that asks for a key. -/
def Unasked (machine : Machine Framebuffer) (request : Request) : Prop :=
  request = .step → ∀ left, step machine = .ok true left →
    ∀ register, ¬ machine.AsksForKey register

/-- **No register is awaited until one is asked for.** -/
theorem Follows.free {later : Machine Framebuffer} (follows : Follows Unasked machine later)
    (sound : machine.Sound width height) (free : machine.keypad.latch = none) :
    later.keypad.latch = none := by
  refine follows.keeps_of_sound (P := fun later => later.keypad.latch = none) sound free
    fun between request sound free unasked => ?_
  refine Option.eq_none_iff_forall_ne_some.2 fun number latch => ?_
  rcases sound.latch_after latch with ⟨before, -⟩ | ⟨step, run, register, -, asks⟩
  · exact absurd (free.symm.trans before) nofun
  · exact unasked step _ (step ▸ run) register asks

/-- **The wait for a key is exact.** It has begun with an instruction that asked for
one, and the machine has waited ever since. Whatever steps, ticks, keys that go up
and keys that are not of the keymap follow, the machine is undisturbed and no step
runs an instruction: only ticks change the timers, and only keys that go up change
which are held down. The first key of the keymap that goes down ends the wait, and
fills the register with its number. The next step then fetches from where the
instruction that asked has left the program counter, and no key that goes down fills
a register until one is asked for again. -/
theorem Reachable.key_wait (reachable : Reachable width height machine)
    (latch : machine.keypad.latch = some (register.val : Int)) :
    ∃ asked armed, Reachable width height asked ∧ step asked = .ok true armed ∧
      asked.AsksForKey register ∧ Follows Waiting armed machine ∧
      machine.registers = armed.registers ∧
      ∀ waiting, Follows Unheard machine waiting →
        Undisturbed machine waiting ∧ step waiting = .ok false waiting ∧
        (∀ request, Unheard waiting request →
          (request ≠ .tick → (waiting.after request).timers = waiting.timers) ∧
          ((∀ code, request ≠ .keyUp code) →
            (waiting.after request).keypad = waiting.keypad)) ∧
        ∀ code key, waiting.keypad.logical? code = some key →
          ∃ left, keyDown code waiting = .ok (some key) left ∧
            Released register key waiting left ∧
            (∀ resumed, Follows Idle left resumed →
              resumed.keypad.isAwaiting = false ∧
              (resumed.after .step).fetchedFrom = armed.registers.pc ∧
              (armed.registers.pc < 0xFFF →
                (resumed.after .step).opcode = armed.upcomingWord)) ∧
            ∀ later, Follows Unasked left later → later.keypad.latch = none ∧
              ∀ code, (later.after (.keyDown code)).registers = later.registers := by
  obtain ⟨asked, armed, reached, run, ⟨register', named, asks⟩, since, memory, registers⟩ :=
    reachable.asked latch
  have same : register = register' := Fin.ext (Int.ofNat.inj named)
  refine ⟨asked, armed, reached, run, same ▸ asks, since, registers, fun waiting follows => ?_⟩
  have sound := follows.sound reachable.sound
  have undisturbed := follows.undisturbed reachable.sound latch
  have still := undisturbed.latch_eq.trans latch
  refine ⟨undisturbed, step_of_awaiting (isAwaiting_of_latch still),
    fun request unheard => (sound.after_unheard still unheard).2, fun code key known => ?_⟩
  obtain ⟨left, down, released⟩ := sound.released still known
  have sound' : left.Sound width height := by
    rw [← after_keyDown_of_ok down]
    exact sound.after _
  have free : left.keypad.latch = none := by rw [released.rest]
  refine ⟨left, down, released, fun resumed follows => ?_, fun later follows => ?_⟩
  · -- memory and the program counter are those that the asking instruction has left: through
    -- the wait, the key that ends it and the requests up to the step
    obtain ⟨memory', registers', free'⟩ := follows.idle sound' free
    have ready := isAwaiting_of_free free'
    obtain ⟨address, opcode⟩ := (follows.sound sound').noted ready
    have pc : resumed.registers.pc = armed.registers.pc := by
      rw [registers', released.rest, undisturbed, registers]
    have word : resumed.upcomingWord = armed.upcomingWord := by
      rw [upcomingWord, pc, memory', released.rest, undisturbed, memory]
      rfl
    refine ⟨ready, address.trans pc, fun low => ?_⟩
    have fits : ¬ resumed.AtTop := by
      rw [AtTop, pc]
      exact Int.not_le.2 low
    rw [opcode, if_neg fits, word]
  · have free' := follows.free sound' free
    refine ⟨free', fun code => ?_⟩
    have idle : Idle later (.keyDown code) := ⟨by simp, trivial⟩
    exact ((follows.sound sound').after_idle free' idle).2.1

/-- So it is of a program that asks for a key to fill the first register with, when
the key for zero goes down. -/
theorem key_wait_of_zero :
    ∃ machine left, Reachable 64 32 machine ∧
      machine.keypad.latch = some ((0 : Fin 16).val : Int) ∧
      step machine = .ok false machine ∧
      keyDown (some (.text "x")) machine = .ok (some 0) left ∧ Released 0 0 machine left ∧
      (left.after .step).fetchedFrom = 0x202 := by
  obtain ⟨first, asking, asks⟩ :=
    reachable_first [0xF0, 0x0A] (.ldVxK 0) (by decide) (by decide) rfl
  obtain ⟨second, run, waits⟩ := asking.granted rfl (show ¬ (0xFFF : Int) ≤ 0x200 by decide)
    (by rw [asks]; rfl)
  rw [asks] at run waits
  have known : usualKeys.find? (Text.lowercase "x") = some 0 := by decide
  obtain ⟨-, armed, -, -, -, -, registers, wait⟩ := waits.key_wait rfl
  obtain ⟨-, idle, -, release⟩ := wait _ .start
  obtain ⟨left, down, released, resumes, -⟩ := release (some (.text "x")) 0 known
  obtain ⟨-, address, -⟩ := resumes left .start
  rw [← registers] at address
  exact ⟨_, left, waits, rfl, idle, down, released, address⟩

end Machine
end Chip8
