import Chip8.Proofs.Time.Tally
/-!
# What the clock has called for

A system that is `Logged` remembers every call that a poll has made of it, and what came
back. Like a tally the log is kept beside the system and changes nothing about it
(`erased_afterAll`).

A clock is asked for one thing after another: to start, for the first time or again, and to
poll. It may be polled on after the user has quit, and after a poll that failed, from what
that left (`afterAll`). What every poll keeps, and every start, holds all along
(`holds_afterAll`).
-/

namespace Chip8

/-- A call that a poll has made, and what came back of it, if anything did. -/
inductive Call where
  /-- A step; whether an instruction was run. -/
  | step (ran : Option Bool)
  | tick (done : Option Unit)
  /-- The key events; whether the user quits. -/
  | inputs (quits : Option Bool)
  | refresh (done : Option Unit)
  | report (fps ops : Int) (done : Option Unit)
  | note (entry : Entry) (done : Option Unit)
  deriving DecidableEq, Repr

/-- A system, and the calls that were made of it. -/
structure Logged (σ : Type) where
  system : σ
  /-- The calls, the latest first. -/
  calls : List Call

namespace Logged

variable {ε σ α : Type}

/-- A system before any call. -/
def fresh (system : σ) : Logged σ := ⟨system, []⟩

/-- An operation of the system, which is recorded with its result or without one. -/
def record (call : Option α → Call) (operation : EStateM ε σ α) : EStateM ε (Logged σ) α :=
  fun ⟨system, calls⟩ =>
    match operation system with
    | .ok result system => .ok result ⟨system, call (some result) :: calls⟩
    | .error error system => .error error ⟨system, call none :: calls⟩

theorem record_of_ok {call : Option α → Call} {operation : EStateM ε σ α} {system after : σ}
    {calls : List Call} {result : α} (run : operation system = .ok result after) :
    record call operation ⟨system, calls⟩ = .ok result ⟨after, call (some result) :: calls⟩ := by
  rw [record, run]

theorem record_of_error {call : Option α → Call} {operation : EStateM ε σ α} {system after : σ}
    {calls : List Call} {error : ε} (run : operation system = .error error after) :
    record call operation ⟨system, calls⟩ = .error error ⟨after, call none :: calls⟩ := by
  rw [record, run]

/-- An operation of the system that is none of a poll's. -/
def pass (operation : EStateM ε σ α) : EStateM ε (Logged σ) α := fun ⟨system, calls⟩ =>
  match operation system with
  | .ok result system => .ok result ⟨system, calls⟩
  | .error error system => .error error ⟨system, calls⟩

end Logged

/-- The driven system with a log of what a poll calls for. -/
def Driven.logged {ε σ τ : Type} (driven : Driven ε σ τ) : Driven ε (Logged σ) τ where
  step := Logged.record .step driven.step
  tick := Logged.record .tick driven.tick
  pollInputs := Logged.record .inputs driven.pollInputs
  refresh := Logged.record .refresh driven.refresh
  report fps ops := Logged.record (.report fps ops) (driven.report fps ops)
  note entry := Logged.record (.note entry) (driven.note entry)
  now := Logged.pass driven.now
  rest := Logged.pass driven.rest

namespace Clocked

open Operation

variable {ε σ τ α : Type}

/-! ## One command after another -/

/-- What a clock is asked for. -/
inductive Command (τ : Type) where
  /-- To start, for the first time or again. -/
  | start (now : τ)
  /-- To run whatever is due. -/
  | poll (now : τ)
  deriving DecidableEq, Repr

section Commands

variable [TimeScale τ]

/-- What the clock does on a command. -/
def obey (driven : Driven ε σ τ) : Command τ → EStateM ε (Clocked τ σ) Unit
  | .start now => updateClock (Clock.start now)
  | .poll now => do
    let _ ← poll driven now

/-- The clock and its system after commands given one after another, whatever came of each. -/
def afterAll (driven : Driven ε σ τ) (clocked : Clocked τ σ) (commands : List (Command τ)) :
    Clocked τ σ :=
  commands.foldl (fun clocked command => left (obey driven command clocked)) clocked

/-- **What every start and every poll keeps holds all along.** -/
theorem holds_afterAll {P : Clocked τ σ → Prop} {driven : Driven ε σ τ}
    (starts : ∀ now, Keeps P (updateClock (ε := ε) (Clock.start now)))
    (polls : ∀ now, Keeps P (poll driven now)) {clocked : Clocked τ σ} (holds : P clocked)
    (commands : List (Command τ)) : P (afterAll driven clocked commands) := by
  induction commands generalizing clocked with
  | nil => exact holds
  | cons command commands ih =>
    refine ih ?_
    cases command with
    | start now => exact starts now clocked holds
    | poll now => exact Keeps.bind (polls now) (fun _ => Keeps.pure ()) clocked holds

end Commands

/-! ## The log is of no account -/

/-- The clock and the system, without the log. -/
def erased (clocked : Clocked τ (Logged σ)) : Clocked τ σ :=
  ⟨clocked.clock, clocked.system.system⟩

theorem agree_record (call : Option α → Call) (operation : EStateM ε σ α) :
    Agree (fun logged system => logged.system = system) (Logged.record call operation)
      operation := by
  rintro ⟨system, calls⟩ _ rfl
  dsimp only [Logged.record]
  cases operation system with
  | ok result after => exact .ok result rfl
  | error error after => exact .error error rfl

theorem drives_logged [TimeScale τ] (driven : Driven ε σ τ) :
    Drives (fun logged system => logged.system = system) driven.logged driven where
  step := agree_record _ driven.step
  tick := agree_record _ driven.tick
  pollInputs := agree_record _ driven.pollInputs
  refresh := agree_record _ driven.refresh
  report fps ops := agree_record _ (driven.report fps ops)
  note entry := agree_record _ (driven.note entry)

theorem agree_obey_logged [TimeScale τ] (driven : Driven ε σ τ) (command : Command τ) :
    Agree (Beside fun logged system => logged.system = system)
      (obey driven.logged command) (obey driven command) := by
  cases command with
  | start now => exact agree_updateClock _
  | poll now => exact Agree.bind (agree_poll (drives_logged driven) now) fun _ => Agree.pure ()

theorem poll_of_logged [TimeScale τ] {driven : Driven ε σ τ} {now : τ}
    {before after : Clocked τ (Logged σ)} {goesOn : Bool}
    (run : poll driven.logged now before = .ok goesOn after) :
    poll driven now before.erased = .ok goesOn after.erased := by
  have same := agree_poll (drives_logged driven) now before before.erased ⟨rfl, rfl⟩
  rw [run] at same
  generalize poll driven now before.erased = plain at same ⊢
  cases same with
  | @ok _ plain _ beside =>
    obtain ⟨clock, system⟩ := plain
    obtain ⟨rfl, rfl⟩ := beside
    rfl

/-- **The log is of no account**: without it, commands leave the same. -/
theorem erased_afterAll [TimeScale τ] (driven : Driven ε σ τ) (clocked : Clocked τ (Logged σ))
    (commands : List (Command τ)) :
    (afterAll driven.logged clocked commands).erased =
      afterAll driven clocked.erased commands := by
  induction commands generalizing clocked with
  | nil => rfl
  | cons command commands ih =>
    have same := agree_obey_logged driven command clocked clocked.erased ⟨rfl, rfl⟩
    have next : (left (obey driven.logged command clocked)).erased =
        left (obey driven command clocked.erased) := by
      generalize obey driven.logged command clocked = logged at same ⊢
      generalize obey driven command clocked.erased = plain at same ⊢
      cases same with
      | @ok _ second _ beside | @error _ second _ beside =>
        obtain ⟨clock, system⟩ := second
        obtain ⟨rfl, rfl⟩ := beside
        rfl
    exact (ih _).trans (congrArg (afterAll driven · commands) next)

/-! ## What is recorded -/

variable {P : Clocked τ (Logged σ) → Prop} {call : Option α → Call} {operation : EStateM ε σ α}
variable {clock : Clock τ} {system : σ} {calls : List Call}

/-- A call is recorded whatever comes of it. -/
theorem left_record
    (recorded : ∀ result after, P ⟨clock, ⟨after, call result :: calls⟩⟩) :
    P (left (onSystem (Logged.record call operation) ⟨clock, ⟨system, calls⟩⟩)) := by
  cases run : operation system with
  | ok result after =>
    simp only [onSystem, Logged.record_of_ok run]
    exact recorded (some result) after
  | error error after =>
    simp only [onSystem, Logged.record_of_error run]
    exact recorded none after

/-- If it comes back, there is more to be done before anything need hold. -/
theorem left_record_bind {β : Type} {next : α → EStateM ε (Clocked τ (Logged σ)) β}
    (fails : ∀ after, P ⟨clock, ⟨after, call none :: calls⟩⟩)
    (goesOn : ∀ result after,
      P (left (next result ⟨clock, ⟨after, call (some result) :: calls⟩⟩))) :
    P (left ((onSystem (Logged.record call operation) >>= next) ⟨clock, ⟨system, calls⟩⟩)) := by
  cases run : operation system with
  | ok result after =>
    have came_back : onSystem (Logged.record call operation) ⟨clock, ⟨system, calls⟩⟩ =
        .ok result ⟨clock, ⟨after, call (some result) :: calls⟩⟩ := by
      simp only [onSystem, Logged.record_of_ok run]
    rw [bind_of_ok came_back]
    exact goesOn result after
  | error error after =>
    have failed : onSystem (Logged.record call operation) ⟨clock, ⟨system, calls⟩⟩ =
        .error error ⟨clock, ⟨after, call none :: calls⟩⟩ := by
      simp only [onSystem, Logged.record_of_error run]
    rw [bind_of_error failed]
    exact fails after

end Clocked
end Chip8
