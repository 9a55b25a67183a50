import Chip8.Proofs.Time.Upkeep
/-!
# Counting what the clock asks for

A system that is `Tallied` keeps count of the ticks and the steps that the clock has asked
it for, and of what the clock has noted. It also remembers whether it was disturbed: whether
one of its operations has failed, or the user has quit. The tally is kept beside the system
and changes nothing about it: a clock drives a tallied system as it drives the system by
itself (`agree_pollAll`).
-/

namespace Chip8

/-- How often the clock has called for each. -/
structure Tally where
  ticks : Nat
  steps : Nat
  notes : Nat
  deriving DecidableEq, Repr

namespace Tally

/-- One more tick. -/
def tick (tally : Tally) : Tally := { tally with ticks := tally.ticks + 1 }

/-- One more step. -/
def step (tally : Tally) : Tally := { tally with steps := tally.steps + 1 }

/-- One more note. -/
def note (tally : Tally) : Tally := { tally with notes := tally.notes + 1 }

end Tally

/-- A system, the tally of the calls made of it, and whether it was disturbed. -/
structure Tallied (σ : Type) where
  system : σ
  tally : Tally
  disturbed : Bool

namespace Tallied

variable {ε σ α : Type}

/-- A system before any call. -/
def fresh (system : σ) : Tallied σ := ⟨system, ⟨0, 0, 0⟩, false⟩

/-- An operation of the system, which is counted. It disturbs the system if it fails, or if
its result means that the user quits. -/
def observe (count : Tally → Tally) (quits : α → Bool) (operation : EStateM ε σ α) :
    EStateM ε (Tallied σ) α := fun ⟨system, tally, disturbed⟩ =>
  match operation system with
  | .ok result system => .ok result ⟨system, count tally, disturbed || quits result⟩
  | .error error system => .error error ⟨system, count tally, true⟩

end Tallied

namespace Driven

variable {ε σ τ : Type}

/-- The driven system with a tally. -/
def tallied (driven : Driven ε σ τ) : Driven ε (Tallied σ) τ where
  step := Tallied.observe Tally.step (fun _ => false) driven.step
  tick := Tallied.observe Tally.tick (fun _ => false) driven.tick
  pollInputs := Tallied.observe id id driven.pollInputs
  refresh := Tallied.observe id (fun _ => false) driven.refresh
  report fps ops := Tallied.observe id (fun _ => false) (driven.report fps ops)
  note entry := Tallied.observe Tally.note (fun _ => false) (driven.note entry)
  now := Tallied.observe id (fun _ => false) driven.now
  rest := Tallied.observe id (fun _ => false) driven.rest

end Driven

namespace Clocked

open Operation

variable {ε σ σ' τ α : Type}

/-- Polls at given times, one after another, until the user quits. -/
def pollAll [TimeScale τ] (driven : Driven ε σ τ) : List τ → EStateM ε (Clocked τ σ) Bool
  | [] => pure true
  | now :: later => do
    if ← poll driven now then pollAll driven later else return false

/-- Polls one after another are confined as the operations of the system are. -/
theorem confined_pollAll [TimeScale τ] {P : σ → Prop} {C : ε → Prop} {driven : Driven ε σ τ}
    (confines : Confines P C driven) (times : List τ) :
    Confined (fun clocked => P clocked.system) C (pollAll driven times) := by
  induction times with
  | nil => exact Confined.pure true
  | cons now later ih =>
    refine Confined.bind (confined_poll confines now) fun goesOn => ?_
    split
    · exact ih
    · exact Confined.pure false

/-! ## Systems driven alike -/

section Alike

variable {S : σ → σ' → Prop}

/-- The clocks are the same, and the systems related. -/
structure Beside (S : σ → σ' → Prop) (first : Clocked τ σ) (second : Clocked τ σ') : Prop where
  clock : second.clock = first.clock
  system : S first.system second.system

theorem agree_onSystem {operation : EStateM ε σ α} {operation' : EStateM ε σ' α}
    (agree : Agree S operation operation') :
    Agree (Beside (τ := τ) S) (onSystem operation) (onSystem operation') := by
  rintro ⟨clock, system⟩ ⟨_, system'⟩ ⟨rfl, related⟩
  have same := agree system system' related
  dsimp only [onSystem]
  generalize operation system = left at same
  generalize operation' system' = right at same
  cases same with
  | ok result related => exact .ok result ⟨rfl, related⟩
  | error error related => exact .error error ⟨rfl, related⟩

theorem agree_updateClock (change : Clock τ → Clock τ) :
    Agree (ε := ε) (Beside (τ := τ) S) (updateClock change) (updateClock change) :=
  Agree.modify fun _ _ beside => { beside with clock := congrArg change beside.clock }

variable [TimeScale τ] {driven : Driven ε σ τ} {driven' : Driven ε σ' τ}

/-- All that a poll calls for agrees. -/
structure Drives (S : σ → σ' → Prop) (driven : Driven ε σ τ) (driven' : Driven ε σ' τ) :
    Prop where
  step : Agree S driven.step driven'.step
  tick : Agree S driven.tick driven'.tick
  pollInputs : Agree S driven.pollInputs driven'.pollInputs
  refresh : Agree S driven.refresh driven'.refresh
  report : ∀ fps ops, Agree S (driven.report fps ops) (driven'.report fps ops)
  note : ∀ entry, Agree S (driven.note entry) (driven'.note entry)

theorem agree_ensureStarted (now : τ) :
    Agree (ε := ε) (Beside S) (ensureStarted now) (ensureStarted now) := by
  refine Agree.get_bind fun first second beside => ?_
  rw [beside.clock]
  split
  · exact agree_updateClock _
  · exact Agree.pure _

variable (drives : Drives S driven driven')
include drives

theorem agree_reportIfDue (now : τ) :
    Agree (Beside S) (reportIfDue driven now) (reportIfDue driven' now) := by
  refine Agree.get_bind fun first second beside => ?_
  rw [beside.clock]
  split
  · refine Agree.bind (agree_updateClock _) fun _ => Agree.get_bind fun first second beside => ?_
    rw [beside.clock]
    exact Agree.bind (agree_onSystem (drives.report _ _)) fun _ => agree_updateClock _
  · exact Agree.pure _

theorem agree_displayIfDue (now : τ) :
    Agree (Beside S) (displayIfDue driven now) (displayIfDue driven' now) := by
  refine Agree.get_bind fun first second beside => ?_
  rw [beside.clock]
  split
  · refine Agree.bind (agree_onSystem drives.pollInputs) fun quits => ?_
    split
    · exact Agree.pure true
    · refine Agree.bind (agree_updateClock _) fun _ => ?_
      refine Agree.bind (agree_onSystem drives.refresh) fun _ => ?_
      exact Agree.bind (agree_updateClock _) fun _ => Agree.pure false
  · exact Agree.pure false

theorem agree_resync (time : Schedule τ → τ) (change : τ → Schedule τ → Schedule τ) (now : τ) :
    Agree (Beside S) (resync driven time change now) (resync driven' time change now) := by
  refine Agree.get_bind fun first second beside => ?_
  rw [beside.clock]
  split
  · exact Agree.pure _
  · dsimp only
    split
    · exact Agree.bind (agree_onSystem (drives.note _)) fun _ => agree_updateClock _
    · exact Agree.pure _

theorem agree_runTicks (now : τ) (limit : Nat) :
    Agree (Beside S) (runTicks driven now limit) (runTicks driven' now limit) := by
  induction limit with
  | zero => exact Agree.pure _
  | succ limit ih =>
    refine Agree.get_bind fun first second beside => ?_
    rw [beside.clock]
    split
    · exact Agree.bind (agree_onSystem drives.tick) fun _ =>
        Agree.bind (agree_updateClock _) fun _ => ih
    · exact Agree.pure _

omit [TimeScale τ] in
theorem agree_runStep : Agree (Beside S) (runStep driven) (runStep driven') := by
  refine Agree.bind (agree_onSystem drives.step) fun ran => ?_
  split
  · exact agree_updateClock _
  · exact Agree.pure _

theorem agree_runSteps (now : τ) (speed limit : Nat) :
    Agree (Beside S) (runSteps driven now speed limit) (runSteps driven' now speed limit) := by
  induction limit with
  | zero => exact Agree.pure _
  | succ limit ih =>
    refine Agree.get_bind fun first second beside => ?_
    rw [beside.clock]
    split
    · exact Agree.bind (agree_runStep drives) fun _ =>
        Agree.bind (agree_updateClock _) fun _ => ih
    · exact Agree.pure _

/-- **Systems whose operations agree are driven alike** by a poll. -/
theorem agree_poll (now : τ) : Agree (Beside S) (poll driven now) (poll driven' now) := by
  refine Agree.bind (agree_ensureStarted now) fun _ => ?_
  refine Agree.bind (agree_reportIfDue drives now) fun _ => ?_
  refine Agree.bind (agree_displayIfDue drives now) fun quits => ?_
  split
  · exact Agree.pure false
  · refine Agree.bind (agree_resync drives _ _ now) fun _ => ?_
    refine Agree.bind (agree_runTicks drives now _) fun _ => ?_
    refine Agree.get_bind fun first second beside => ?_
    rw [beside.clock]
    split
    · exact Agree.bind (agree_runStep drives) fun _ => Agree.pure true
    · refine Agree.bind (agree_resync drives _ _ now) fun _ => ?_
      exact Agree.bind (agree_runSteps drives now _ _) fun _ => Agree.pure true

theorem agree_pollAll (times : List τ) :
    Agree (Beside S) (pollAll driven times) (pollAll driven' times) := by
  induction times with
  | nil => exact Agree.pure true
  | cons now later ih =>
    refine Agree.bind (agree_poll drives now) fun goesOn => ?_
    split
    · exact ih
    · exact Agree.pure false

end Alike

/-! ## The tally is of no account -/

theorem agree_observe (count : Tally → Tally) (quits : α → Bool) (operation : EStateM ε σ α) :
    Agree (fun tallied system => tallied.system = system)
      (Tallied.observe count quits operation) operation := by
  rintro ⟨system, tally, disturbed⟩ _ rfl
  dsimp only [Tallied.observe]
  cases operation system with
  | ok result after => exact .ok result rfl
  | error error after => exact .error error rfl

theorem drives_tallied [TimeScale τ] (driven : Driven ε σ τ) :
    Drives (fun tallied system => tallied.system = system) driven.tallied driven where
  step := agree_observe _ _ driven.step
  tick := agree_observe _ _ driven.tick
  pollInputs := agree_observe _ _ driven.pollInputs
  refresh := agree_observe _ _ driven.refresh
  report fps ops := agree_observe _ _ (driven.report fps ops)
  note entry := agree_observe _ _ (driven.note entry)

/-- **The tally is of no account**: what comes of polls of a tallied system is what comes of
them without the tally. -/
theorem agree_pollAll_tallied [TimeScale τ] (driven : Driven ε σ τ) (times : List τ) :
    Agree (Beside fun tallied system => tallied.system = system)
      (pollAll driven.tallied times) (pollAll driven times) :=
  agree_pollAll (drives_tallied driven) times

theorem pollAll_of_tallied [TimeScale τ] {driven : Driven ε σ τ} {times : List τ}
    {before after : Clocked τ (Tallied σ)} {goesOn : Bool}
    (run : pollAll driven.tallied times before = .ok goesOn after) :
    pollAll driven times ⟨before.clock, before.system.system⟩ =
      .ok goesOn ⟨after.clock, after.system.system⟩ := by
  have same := agree_pollAll_tallied driven times before ⟨before.clock, before.system.system⟩
    ⟨rfl, rfl⟩
  rw [run] at same
  generalize pollAll driven times ⟨before.clock, before.system.system⟩ = result at same
  cases same with
  | @ok _ plain _ beside =>
    obtain ⟨clock, system⟩ := plain
    obtain ⟨rfl, rfl⟩ := beside
    rfl

/-! ## There is no way back from a disturbance -/

/-- The system was disturbed. -/
def Disturbed (clocked : Clocked τ (Tallied σ)) : Prop := clocked.system.disturbed = true

theorem keeps_observe_disturbed (count : Tally → Tally) (quits : α → Bool)
    (operation : EStateM ε σ α) :
    Keeps (fun tallied => tallied.disturbed = true) (Tallied.observe count quits operation) := by
  rintro ⟨system, tally, _⟩ rfl
  dsimp only [Tallied.observe]
  cases operation system <;> rfl

/-- What has been disturbed stays so. -/
theorem confines_disturbed (driven : Driven ε σ τ) :
    Confines (fun tallied => tallied.disturbed = true) (fun _ => True) driven.tallied where
  step := (keeps_observe_disturbed _ _ driven.step).confined
  tick := (keeps_observe_disturbed _ _ driven.tick).confined
  pollInputs := (keeps_observe_disturbed _ _ driven.pollInputs).confined
  refresh := (keeps_observe_disturbed _ _ driven.refresh).confined
  report fps ops := (keeps_observe_disturbed _ _ (driven.report fps ops)).confined
  note entry := (keeps_observe_disturbed _ _ (driven.note entry)).confined

end Clocked
end Chip8
