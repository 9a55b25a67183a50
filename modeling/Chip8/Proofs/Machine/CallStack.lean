import Chip8.Proofs.Machine.Interruption
/-!
# Calls and returns match

Between resets, a request that does not crash leaves the addresses saved by
calls alone, adds one on a call, or takes the newest away on a return
(`Sound.callMove`). So the addresses below a call stay where they are until its
return (`Within.take_calls`), and the return goes to the instruction after the
call (`Within.returns`), whatever is called, awaited or overwritten in between.
-/

namespace Chip8

/-- The request leaves the program that is running in place. -/
def Request.Continues : Request → Prop
  | .reset | .load _ => False
  | _ => True

namespace Machine

variable {width height : Nat} {machine after start : Machine Framebuffer} {request : Request}
variable {i : Instruction}

/-- The addresses that calls have saved, oldest first. -/
def calls (machine : Machine Framebuffer) : List UInt16 := machine.registers.stack.items

theorem depth_eq (machine : Machine Framebuffer) : machine.depth = machine.calls.length := rfl

/-- The address of the instruction after the upcoming one. -/
def following (machine : Machine Framebuffer) : Int :=
  if machine.registers.pc + 2 ≥ 4096 then 0x200 else machine.registers.pc + 2

/-- **What a request can do to the calls.** -/
inductive CallMove (request : Request) (before after : Machine Framebuffer) : Prop where
  /-- They stay as they are. -/
  | kept (same : after.calls = before.calls)
  /-- A call saves the address of the instruction after it. -/
  | called (step : request = .step) (op : before.upcomingWord / 4096 = 0x2) {address : UInt16}
      (saved : (address.toNat : Int) = before.following)
      (pushed : after.calls = before.calls ++ [address])
  /-- A return goes to the newest address. -/
  | returned (step : request = .step) (op : before.upcomingWord = 0x00EE) {address : UInt16}
      (popped : before.calls = after.calls ++ [address])
      (resumed : after.registers.pc = address.toNat)

/-! ## One request -/

/-- Only calls and returns touch the call stack. -/
theorem stack_registersAfter (notRet : i ≠ .ret) (notCall : ∀ nnn, i ≠ .call nnn) :
    (machine.registersAfter i).stack = machine.registers.stack := by
  have skip : ∀ condition, (machine.skipped condition).stack = machine.registers.stack := by
    intro condition
    cases condition <;> rfl
  cases i with
  | ret => exact absurd rfl notRet
  | call nnn => exact absurd rfl (notCall nnn)
  | seByte | sneByte | seReg | sneReg | skp | sknp => exact skip _
  | ldVxMem x => exact (congrArg Registers.stack (Registers.fill_eq _ _ _) :)
  | _ => rfl

/-- A completed call has saved the address of the instruction after it. -/
theorem Sound.calls_of_call (sound : machine.Sound width height)
    (op : machine.upcomingWord / 4096 = 0x2)
    (granted : machine.poised.refusal machine.upcoming = none) :
    ∃ address : UInt16, (address.toNat : Int) = machine.following ∧
      (machine.poised.executed machine.upcoming).calls = machine.calls ++ [address] := by
  have call : machine.upcoming = .call _ := upcoming_of_matches nofun ⟨op, rfl⟩
  obtain ⟨nonneg, le⟩ := sound.pc_poised
  rw [call] at granted ⊢
  exact ⟨_, Registers.toNat_ofInt_address nonneg le,
    Stack.items_pushed sound.poised.registers.stack (sound.poised.room_of_granted granted)⟩

/-- A completed return has gone to the newest address. -/
theorem Sound.calls_of_ret (sound : machine.Sound width height)
    (op : machine.upcomingWord = 0x00EE)
    (granted : machine.poised.refusal machine.upcoming = none) :
    ∃ address : UInt16,
      machine.calls = (machine.poised.executed machine.upcoming).calls ++ [address] ∧
      (machine.poised.executed machine.upcoming).registers.pc = address.toNat := by
  have ret : machine.upcoming = .ret := upcoming_of_matches nofun op
  rw [ret] at granted ⊢
  exact ⟨_, Stack.items_popped sound.poised.registers.stack (depth_pos_of_granted granted), rfl⟩

/-- Any other completed instruction has left the calls alone. -/
theorem calls_of_other (notCall : machine.upcomingWord / 4096 ≠ 0x2)
    (notRet : machine.upcomingWord ≠ 0x00EE) :
    (machine.poised.executed machine.upcoming).calls = machine.calls := by
  have same := @stack_registersAfter machine.poised machine.upcoming
    (fun ret => notRet (matches_of_upcoming ret))
    (fun _ call => notCall (matches_of_upcoming call).1)
  exact (congrArg Stack.items same :)

/-- A completed instruction calls, returns, or leaves the calls alone. -/
theorem callMove_of_granted (sound : machine.Sound width height)
    (granted : machine.poised.refusal machine.upcoming = none) (outbox : Array Signal) :
    CallMove .step machine
      { machine.poised.executed machine.upcoming with outbox := outbox } := by
  by_cases call : machine.upcomingWord / 4096 = 0x2
  · obtain ⟨address, saved, pushed⟩ := sound.calls_of_call call granted
    exact .called rfl call saved pushed
  · by_cases ret : machine.upcomingWord = 0x00EE
    · obtain ⟨address, popped, resumed⟩ := sound.calls_of_ret ret granted
      exact .returned rfl ret popped resumed
    · exact .kept (calls_of_other call ret)

/-- **What other requests leave alone**, unless they start again: memory, and all
registers but those that a key can fill. -/
theorem answered_eq (other : request ≠ .step) (continues : request.Continues) :
    machine.answered request = { machine with
      registers := { machine.registers with v := (machine.answered request).registers.v }
      timers := (machine.answered request).timers
      keypad := (machine.answered request).keypad
      display := (machine.answered request).display } := by
  cases request with
  | step => exact absurd rfl other
  | reset | load => exact absurd continues id
  | tick | refresh => rfl
  | keyUp code =>
    rw [answered]
    cases machine.keypad.logical? code <;> rfl
  | keyDown code =>
    rw [answered]
    cases machine.keypad.logical? code with
    | none => rfl
    | some key =>
      simp only [pressed]
      cases machine.keypad.latch <;> rfl

/-- So they leave the calls alone. -/
theorem calls_answered (continues : request.Continues) (other : request ≠ .step) :
    (machine.answered request).calls = machine.calls :=
  (congrArg calls (answered_eq other continues) :)

/-- **A request keeps the calls, calls or returns**, unless it starts again. One
that crashes keeps them. -/
theorem Sound.callMove (sound : machine.Sound width height) (continues : request.Continues) :
    CallMove request machine (machine.after request) := by
  by_cases other : request = .step
  · subst other
    have course := sound.course
    cases run : step machine with
    | ok ran left =>
      rw [run] at course
      rw [after_step_of_ok run]
      cases course with
      | awaited awaiting => exact .kept rfl
      | granted ready fits granted outbox => exact callMove_of_granted sound granted outbox
    | error crash left =>
      rw [run] at course
      rw [after_step_of_error run]
      cases course with
      | unfetched ready top out => exact .kept rfl
      | refused ready fits refused outbox leaves =>
        have same := registersLeft_eq machine.poised machine.upcoming
        rw [leaves]
        exact .kept (congrArg (Stack.items ∘ Registers.stack) same :)
  · obtain ⟨outbox, left⟩ := after_eq sound request
    rw [left]
    exact .kept (calls_answered continues other)

/-! ## Many requests -/

/-- **What follows a machine** while calls stay nested deeper than a bound, none
of the requests starting again or crashing. -/
inductive Within (depth : Nat) (start : Machine Framebuffer) : Machine Framebuffer → Prop where
  /-- Nothing yet. -/
  | start (deeper : depth < start.depth) : Within depth start start
  /-- One more request. -/
  | served {machine after : Machine Framebuffer} {request : Request}
      (within : Within depth start machine) (continues : request.Continues)
      (done : serve request machine = .ok () after) (deeper : depth < after.depth) :
      Within depth start after

theorem Within.deeper {depth : Nat} (within : Within depth start machine) :
    depth < machine.depth := by
  cases within with
  | start deeper => exact deeper
  | served _ _ _ deeper => exact deeper

theorem Within.sound {depth : Nat} (within : Within depth start machine)
    (sound : start.Sound width height) : machine.Sound width height := by
  induction within with
  | start deeper => exact sound
  | served within continues done deeper ih =>
    rw [← after_of_ok done]
    exact ih.after _

/-- **What lies at or below the bound is untouched.** -/
theorem Within.take_calls {depth : Nat} (within : Within depth start machine)
    (sound : start.Sound width height) :
    machine.calls.take (depth + 1) = start.calls.take (depth + 1) := by
  induction within with
  | start deeper => rfl
  | served within continues done deeper ih =>
    -- what is pushed lies above the bound, and what is popped did
    have move := (within.sound sound).callMove continues
    rw [after_of_ok done] at move
    have above := within.deeper
    rw [← ih]
    cases move with
    | kept same => rw [same]
    | called step op saved pushed =>
      rw [pushed]
      exact List.take_append_of_le_length above
    | returned step op popped resumed =>
      rw [popped]
      exact (List.take_append_of_le_length deeper).symm

/-- **The request that gets back to the bound is a return**, to the address that
lies there. -/
theorem Within.returns {depth : Nat} (within : Within depth start machine)
    (sound : start.Sound width height) (continues : request.Continues)
    (done : serve request machine = .ok () after) (back : ¬ depth < after.depth) :
    request = .step ∧ machine.upcomingWord = 0x00EE ∧
      ∃ address : UInt16, start.calls.take (depth + 1) = after.calls ++ [address] ∧
        after.registers.pc = address.toNat := by
  have above := within.deeper
  have move := (within.sound sound).callMove continues
  rw [after_of_ok done] at move
  cases move with
  | kept same =>
    refine absurd ?_ back
    rw [depth_eq, same]
    exact above
  | called step op saved pushed =>
    refine absurd ?_ back
    rw [depth_eq, pushed, List.length_append]
    exact Nat.lt_add_right _ above
  | returned step op popped resumed =>
    -- the entry popped is the one at the bound, with nothing left above it
    have length := congrArg List.length popped
    rw [List.length_append, List.length_singleton] at length
    rw [depth_eq] at above back
    refine ⟨step, op, _, ?_, resumed⟩
    rw [← within.take_calls sound, ← popped]
    exact List.take_of_length_le (by omega)

/-- **A request changes the depth by one at most**, a call alone makes it
greater, and a return alone less. -/
theorem CallMove.depth_cases (move : CallMove request machine after) :
    after.depth ≤ machine.depth + 1 ∧ machine.depth ≤ after.depth + 1 ∧
      (machine.depth < after.depth → request = .step ∧ machine.upcomingWord / 4096 = 0x2) ∧
      (after.depth < machine.depth → request = .step ∧ machine.upcomingWord = 0x00EE) := by
  rw [depth_eq, depth_eq]
  cases move with
  | kept same =>
    rw [same]
    exact ⟨by omega, by omega, by omega, by omega⟩
  | called step op saved pushed =>
    have length := congrArg List.length pushed
    rw [List.length_append, List.length_singleton] at length
    exact ⟨by omega, by omega, fun _ => ⟨step, op⟩, by omega⟩
  | returned step op popped resumed =>
    have length := congrArg List.length popped
    rw [List.length_append, List.length_singleton] at length
    exact ⟨by omega, by omega, by omega, fun _ => ⟨step, op⟩⟩

/-- A step that has completed a call. -/
theorem Sound.calls_of_step (sound : machine.Sound width height)
    (run : step machine = .ok true after) (op : machine.upcomingWord / 4096 = 0x2) :
    ∃ address : UInt16, (address.toNat : Int) = machine.following ∧
      after.calls = machine.calls ++ [address] := by
  have course := sound.course
  rw [run] at course
  cases course with
  | granted ready fits granted outbox => exact sound.calls_of_call op granted

/-- **Calls and returns match.** From a call that a machine in use has completed,
and as long as calls stay nested deeper than before it, the addresses below are
untouched; and what first gets back to that depth is a return, which goes to the
instruction after the call and leaves the addresses as they were. The depth
changes by one at most, by calls and returns alone, and is never above sixteen. -/
theorem calls_match (width height : Nat) :
    (∀ caller callee, Reachable width height caller → step caller = .ok true callee →
      caller.upcomingWord / 4096 = 0x2 →
      (∀ machine, Within caller.depth callee machine →
        machine.calls.take caller.depth = caller.calls) ∧
      (∀ machine request after, Within caller.depth callee machine → request.Continues →
        serve request machine = .ok () after → ¬ caller.depth < after.depth →
        request = .step ∧ machine.upcomingWord = 0x00EE ∧
          after.registers.pc = caller.following ∧ after.calls = caller.calls)) ∧
    (∀ machine request, Reachable width height machine → request.Continues →
      let after := machine.after request
      after.depth ≤ machine.depth + 1 ∧ machine.depth ≤ after.depth + 1 ∧
        (machine.depth < after.depth → request = .step ∧ machine.upcomingWord / 4096 = 0x2) ∧
        (after.depth < machine.depth → request = .step ∧ machine.upcomingWord = 0x00EE)) ∧
    (∀ machine, Reachable width height machine → machine.depth ≤ 16) := by
  refine ⟨?_, fun machine request reachable continues =>
    (reachable.sound.callMove continues).depth_cases,
    fun machine reachable => reachable.sound.depth_le⟩
  intro caller callee reachable run op
  have sound := reachable.sound
  have callee_sound := sound.of_step run
  obtain ⟨address, saved, calls⟩ := sound.calls_of_step run op
  have all : callee.calls.take (caller.depth + 1) = caller.calls ++ [address] := by
    rw [calls]
    exact List.take_of_length_le (by rw [List.length_append]; exact Nat.le_refl _)
  constructor
  · intro machine within
    have same := congrArg (List.take caller.depth) (within.take_calls callee_sound)
    rw [all, List.take_take, Nat.min_eq_left (Nat.le_succ _)] at same
    exact same.trans (List.take_left)
  · intro machine request after within continues done back
    obtain ⟨step, ret, address', lies, resumed⟩ :=
      within.returns callee_sound continues done back
    obtain ⟨below, top⟩ := List.append_inj' (all.symm.trans lies) rfl
    injection top with top
    refine ⟨step, ret, ?_, below.symm⟩
    rw [resumed, ← top, saved]

/-- A program that calls a subroutine which returns at once goes on after the
call. -/
theorem calls_match_of_call :
    ∃ caller callee after, Reachable 64 32 caller ∧ step caller = .ok true callee ∧
      caller.upcomingWord / 4096 = 0x2 ∧ Within caller.depth callee callee ∧
      serve .step callee = .ok () after ∧ after.registers.pc = caller.following ∧
      after.calls = caller.calls := by
  obtain ⟨first, reachable⟩ := reachable_booted [0x22, 0x04, 0x00, 0x00, 0x00, 0xEE]
  have call := @wordAt_booted [0x22, 0x04, 0x00, 0x00, 0x00, 0xEE] (by decide) 0 (by decide)
  have ret := @wordAt_booted [0x22, 0x04, 0x00, 0x00, 0x00, 0xEE] (by decide) 4 (by decide)
  let caller : Machine Framebuffer :=
    { booted [0x22, 0x04, 0x00, 0x00, 0x00, 0xEE] with outbox := first }
  have calling : caller.upcoming = .call 0x204 :=
    congrArg (fun word : Nat => Instruction.decode word) call
  have granted : caller.poised.refusal caller.upcoming = none := by
    rw [calling]
    rfl
  have low : ¬ (0xFFF : Int) ≤ 0x200 := by decide
  obtain ⟨second, run⟩ := step_of_granted reachable.sound rfl low granted
  rw [calling] at run
  let callee : Machine Framebuffer :=
    { caller.poised.executed (.call 0x204) with outbox := second }
  have returning : callee.upcoming = .ret :=
    congrArg (fun word : Nat => Instruction.decode word) ret
  have sound : callee.Sound 64 32 := reachable.sound.of_step run
  have granted' : callee.poised.refusal callee.upcoming = none := by
    rw [returning]
    rfl
  have low' : ¬ (0xFFF : Int) ≤ 0x204 := by decide
  obtain ⟨third, run'⟩ := step_of_granted sound rfl low' granted'
  rw [returning] at run'
  have op : caller.upcomingWord / 4096 = 0x2 := congrArg (· / 4096) call
  have within : Within caller.depth callee callee := .start (Nat.zero_lt_one)
  have done : serve .step callee = .ok () _ := Operation.bind_of_ok run'
  obtain ⟨-, -, resumed, same⟩ := ((calls_match 64 32).1 caller callee reachable run op).2
    callee .step _ within trivial done (Nat.lt_irrefl 0)
  exact ⟨caller, callee, _, reachable, run, op, within, done, resumed, same⟩

end Machine
end Chip8
