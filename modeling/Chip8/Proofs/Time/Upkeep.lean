import Chip8.Proofs.Operation
import Chip8.Time.Clock
/-!
# What comes of a run of the clock

A poll is made of operations of the system, and a run of polls, of readings of the time and
of rests. What all of these operations keep is kept by a poll and by a run, to whatever end
they come, and where one fails it fails as one of the operations does (`confined_poll`,
`confined_run`).

A run without a failure ends because the user quits (`quits_of_run`). Its bound plays no
part if every reading of the time spends something of which there is no more than that
(`Spends`).
-/

namespace Chip8
namespace Clocked

open Operation

variable {ε σ τ α : Type} {P : σ → Prop} {C : ε → Prop} {driven : Driven ε σ τ}

/-! ## What is kept -/

/-- All that a poll calls for besides steps is confined. -/
structure ConfinesIdle (P : σ → Prop) (C : ε → Prop) (driven : Driven ε σ τ) : Prop where
  tick : Confined P C driven.tick
  pollInputs : Confined P C driven.pollInputs
  refresh : Confined P C driven.refresh
  report : ∀ fps ops, Confined P C (driven.report fps ops)
  note : ∀ entry, Confined P C (driven.note entry)

/-- All that a poll calls for is confined. -/
structure Confines (P : σ → Prop) (C : ε → Prop) (driven : Driven ε σ τ) : Prop
    extends ConfinesIdle P C driven where
  step : Confined P C driven.step

/-- All that a run calls for is, between the polls too. -/
structure ConfinesRun (P : σ → Prop) (C : ε → Prop) (driven : Driven ε σ τ) : Prop
    extends Confines P C driven where
  now : Confined P C driven.now
  rest : Confined P C driven.rest

/-- The clock runs at a speed, and its system is of a kind. -/
structure Within (speed : Option Nat) (P : σ → Prop) (clocked : Clocked τ σ) : Prop where
  speed : clocked.clock.speed = speed
  system : P clocked.system

/-- What is confined at every speed is confined. -/
theorem confined_of_within {operation : EStateM ε (Clocked τ σ) α}
    (confined : ∀ speed, Confined (Within speed P) C operation) :
    Confined (fun clocked => P clocked.system) C operation where
  keeps _ holds := ((confined _).keeps _ ⟨rfl, holds⟩).system
  fails holds failed := (confined _).fails ⟨rfl, holds⟩ failed

variable {speed : Option Nat}

theorem within_onSystem {operation : EStateM ε σ α} (confined : Confined P C operation) :
    Confined (Within (τ := τ) speed P) C (onSystem operation) where
  keeps clocked holds := by
    have left := confined.keeps clocked.system holds.system
    dsimp only [onSystem]
    cases ran : operation clocked.system <;>
    · rw [ran] at left
      exact ⟨holds.speed, left⟩
  fails {clocked _ _} holds failed := by
    dsimp only [onSystem] at failed
    cases ran : operation clocked.system with
    | ok result after =>
      rw [ran] at failed
      exact nomatch failed
    | error fault after =>
      rw [ran] at failed
      injection failed with same
      exact same ▸ confined.fails holds.system ran

/-- The speed of a clock is never changed. -/
theorem within_updateClock {change : Clock τ → Clock τ}
    (kept : ∀ clock, (change clock).speed = clock.speed) :
    Confined (Within (σ := σ) speed P) C (updateClock change) :=
  Confined.modify fun _ holds => ⟨(kept _).trans holds.speed, holds.system⟩

variable [TimeScale τ]

theorem within_ensureStarted (now : τ) :
    Confined (Within (σ := σ) speed P) C (ensureStarted now) := by
  refine Confined.bind Confined.get fun clocked => ?_
  split
  · exact within_updateClock fun _ => rfl
  · exact Confined.pure _

section Idling

variable (confines : ConfinesIdle P C driven)
include confines

theorem within_reportIfDue (now : τ) : Confined (Within speed P) C (reportIfDue driven now) := by
  refine Confined.bind Confined.get fun clocked => ?_
  split
  · refine Confined.bind (within_updateClock fun _ => rfl) fun _ =>
      Confined.bind Confined.get fun _ => ?_
    exact Confined.bind (within_onSystem (confines.report _ _)) fun _ =>
      within_updateClock fun _ => rfl
  · exact Confined.pure _

theorem within_displayIfDue (now : τ) : Confined (Within speed P) C (displayIfDue driven now) := by
  refine Confined.bind Confined.get fun clocked => ?_
  split
  · refine Confined.bind (within_onSystem confines.pollInputs) fun quits => ?_
    split
    · exact Confined.pure true
    · refine Confined.bind (within_updateClock fun _ => rfl) fun _ => ?_
      refine Confined.bind (within_onSystem confines.refresh) fun _ => ?_
      exact Confined.bind (within_updateClock fun _ => rfl) fun _ => Confined.pure false
  · exact Confined.pure false

theorem within_resync (time : Schedule τ → τ) (change : τ → Schedule τ → Schedule τ) (now : τ) :
    Confined (Within speed P) C (resync driven time change now) := by
  refine Confined.bind Confined.get fun clocked => ?_
  split
  · exact Confined.pure _
  · dsimp only
    split
    · exact Confined.bind (within_onSystem (confines.note _)) fun _ =>
        within_updateClock fun _ => rfl
    · exact Confined.pure _

theorem within_runTicks (now : τ) (limit : Nat) :
    Confined (Within speed P) C (runTicks driven now limit) := by
  induction limit with
  | zero => exact Confined.pure _
  | succ limit ih =>
    refine Confined.bind Confined.get fun clocked => ?_
    split
    · exact Confined.bind (within_onSystem confines.tick) fun _ =>
        Confined.bind (within_updateClock fun _ => rfl) fun _ => ih
    · exact Confined.pure _

end Idling

section Polling

variable (confines : Confines P C driven)
include confines

omit [TimeScale τ] in
theorem within_runStep : Confined (Within speed P) C (runStep driven) := by
  refine Confined.bind (within_onSystem confines.step) fun ran => ?_
  split
  · exact within_updateClock fun _ => rfl
  · exact Confined.pure _

theorem within_runSteps (now : τ) (rate limit : Nat) :
    Confined (Within speed P) C (runSteps driven now rate limit) := by
  induction limit with
  | zero => exact Confined.pure _
  | succ limit ih =>
    refine Confined.bind Confined.get fun clocked => ?_
    split
    · exact Confined.bind (within_runStep confines) fun _ =>
        Confined.bind (within_updateClock fun _ => rfl) fun _ => ih
    · exact Confined.pure _

theorem within_poll (now : τ) : Confined (Within speed P) C (poll driven now) := by
  refine Confined.bind (within_ensureStarted now) fun _ => ?_
  refine Confined.bind (within_reportIfDue confines.toConfinesIdle now) fun _ => ?_
  refine Confined.bind (within_displayIfDue confines.toConfinesIdle now) fun quits => ?_
  split
  · exact Confined.pure false
  · refine Confined.bind (within_resync confines.toConfinesIdle _ _ now) fun _ => ?_
    refine Confined.bind (within_runTicks confines.toConfinesIdle now _) fun _ => ?_
    refine Confined.bind Confined.get fun clocked => ?_
    split
    · exact Confined.bind (within_runStep confines) fun _ => Confined.pure true
    · refine Confined.bind (within_resync confines.toConfinesIdle _ _ now) fun _ => ?_
      exact Confined.bind (within_runSteps confines now _ _) fun _ => Confined.pure true

/-- **A poll is confined as the operations of the system are.** -/
theorem confined_poll (now : τ) :
    Confined (fun clocked => P clocked.system) C (poll driven now) :=
  confined_of_within fun _ => within_poll confines now

end Polling

section Running

variable (confines : ConfinesRun P C driven)
include confines

theorem within_restIfIdle : Confined (Within speed P) C (restIfIdle driven) := by
  refine Confined.bind Confined.get fun clocked => ?_
  dsimp only
  split
  · split
    · exact Confined.pure _
    · refine Confined.bind (within_onSystem confines.now) fun now => ?_
      split
      · exact within_onSystem confines.rest
      · exact Confined.pure _
  · exact Confined.pure _

theorem within_turn : Confined (Within speed P) C (turn driven) := by
  refine Confined.bind (within_onSystem confines.now) fun now => ?_
  refine Confined.bind (within_poll confines.toConfines now) fun goesOn => ?_
  split
  · exact Confined.bind (within_restIfIdle confines) fun _ => Confined.pure true
  · exact Confined.pure false

theorem within_turnUntilQuit (limit : Nat) :
    Confined (Within speed P) C (turnUntilQuit driven limit) := by
  induction limit with
  | zero => exact Confined.pure _
  | succ limit ih =>
    refine Confined.bind (within_turn confines) fun goesOn => ?_
    split
    · exact ih
    · exact Confined.pure _

/-- **A run keeps what all operations keep, and fails as they do only**, whether the user
quits or one of them fails. -/
theorem confined_run (limit : Nat) :
    Confined (fun clocked => P clocked.system) C (run driven limit) := by
  refine confined_of_within fun speed => ?_
  refine Confined.bind (within_onSystem confines.now) fun now => ?_
  refine Confined.bind (within_updateClock fun _ => rfl) fun _ => ?_
  refine Confined.bind (within_turnUntilQuit confines limit) fun _ => ?_
  exact within_onSystem (confines.note _)

end Running

/-! ## How a run comes to its end -/

section Quitting

variable {spare : σ → Nat} {clocked left : Clocked τ σ} {now : τ}

omit [TimeScale τ] in
theorem ok_of_onSystem {operation : EStateM ε σ α} {result : α}
    (run : onSystem operation clocked = .ok result left) :
    operation clocked.system = .ok result left.system := by
  dsimp only [onSystem] at run
  split at run
  · injection run with value after
    rw [← value, ← after]
    assumption
  · exact nomatch run

omit [TimeScale τ] in
theorem onSystem_of_ok {operation : EStateM ε σ α} {result : α} {after : σ}
    (run : operation clocked.system = .ok result after) :
    onSystem operation clocked = .ok result { clocked with system := after } := by
  dsimp only [onSystem]
  rw [run]

omit [TimeScale τ] in
theorem onSystem_of_error {operation : EStateM ε σ α} {error : ε} {after : σ}
    (run : operation clocked.system = .error error after) :
    onSystem operation clocked = .error error { clocked with system := after } := by
  dsimp only [onSystem]
  rw [run]

/-- A display that ends the poll has asked for key events. -/
theorem asked_of_display (run : displayIfDue driven now clocked = .ok true left) :
    ∃ after, driven.pollInputs clocked.system = .ok true after := by
  obtain ⟨_, _, ⟨⟩, run⟩ := ok_of_bind run
  split at run
  · obtain ⟨quits, middle, asked, run⟩ := ok_of_bind run
    split at run
    · rename_i wish
      rw [wish] at asked
      exact ⟨_, ok_of_onSystem asked⟩
    · obtain ⟨_, _, -, run⟩ := ok_of_bind run
      obtain ⟨_, _, -, run⟩ := ok_of_bind run
      obtain ⟨_, _, -, run⟩ := ok_of_bind run
      exact nomatch run
  · exact nomatch run

/-- **What is left of a poll of an uncapped clock**, where nothing fails but a step and the user
does not quit: one step. -/
theorem poll_of_uncapped (idles : ConfinesIdle P (fun _ => False) driven)
    (asked : ∀ before after, P before → driven.pollInputs before ≠ .ok true after)
    (within : Within none P clocked) (now : τ) :
    ∃ before, P before.system ∧
      poll driven now clocked = (runStep driven >>= fun _ => pure true) before := by
  obtain ⟨_, started, starts, within⟩ := (within_ensureStarted now).exists_ok within
  obtain ⟨_, reported, reports, within⟩ := (within_reportIfDue idles now).exists_ok within
  obtain ⟨quits, shown, shows, settled⟩ := (within_displayIfDue idles now).exists_ok within
  cases quits with
  | true =>
    obtain ⟨after, wish⟩ := asked_of_display shows
    exact absurd wish (asked _ _ within.system)
  | false =>
    obtain ⟨_, synced, syncs, settled⟩ := (within_resync idles Schedule.tick
      (fun time schedule => { schedule with tick := time }) now).exists_ok settled
    obtain ⟨_, ticked, ticks, settled⟩ :=
      (within_runTicks idles now (Clock.catchUpLimit Clock.frameRate)).exists_ok settled
    refine ⟨ticked, settled.system, ?_⟩
    rw [poll, bind_of_ok starts, bind_of_ok reports, bind_of_ok shows,
      if_neg Bool.false_ne_true, bind_of_ok syncs, bind_of_ok ticks, get_bind_apply]
    rw [settled.speed]

/-- **The user quits**: in a state of this kind the key events are asked for, and among them
is a wish to quit. -/
def Quits (P : σ → Prop) (driven : Driven ε σ τ) : Prop :=
  ∃ before after, P before ∧ driven.pollInputs before = .ok true after

variable (confines : ConfinesRun P C driven)
include confines

/-- A poll after which the clock does not go on is one in which the user quits. -/
theorem quits_of_poll (run : poll driven now clocked = .ok false left)
    (holds : P clocked.system) : Quits P driven := by
  obtain ⟨_, started, starts, run⟩ := ok_of_bind run
  obtain ⟨_, reported, reports, run⟩ := ok_of_bind run
  obtain ⟨quits, shown, shows, run⟩ := ok_of_bind run
  split at run
  · rename_i wish
    rw [wish] at shows
    obtain ⟨after, asked⟩ := asked_of_display shows
    have first := (within_ensureStarted (C := C) now).keeps.of_ok ⟨rfl, holds⟩ starts
    have second := (within_reportIfDue confines.toConfinesIdle now).keeps.of_ok first reports
    exact ⟨_, after, second.system, asked⟩
  · -- whatever else is due, the clock goes on after it
    obtain ⟨_, _, -, run⟩ := ok_of_bind run
    obtain ⟨_, _, -, run⟩ := ok_of_bind run
    obtain ⟨_, _, -, run⟩ := ok_of_bind run
    split at run
    · obtain ⟨_, _, -, run⟩ := ok_of_bind run
      exact nomatch run
    · obtain ⟨_, _, -, run⟩ := ok_of_bind run
      obtain ⟨_, _, -, run⟩ := ok_of_bind run
      exact nomatch run

/-- So is a turn. -/
theorem quits_of_turn (run : turn driven clocked = .ok false left)
    (holds : P clocked.system) : Quits P driven := by
  obtain ⟨now, read, reads, run⟩ := ok_of_bind run
  obtain ⟨goesOn, polled, polls, run⟩ := ok_of_bind run
  split at run
  · obtain ⟨_, _, -, run⟩ := ok_of_bind run
    exact nomatch run
  · rename_i ends
    rw [Bool.not_eq_true] at ends
    rw [ends] at polls
    exact quits_of_poll confines polls (confines.now.keeps.of_ok holds (ok_of_onSystem reads))

/-- Each reading of the time spends something, and nothing gives it back. -/
structure Spends (spare : σ → Nat) (driven : Driven ε σ τ) : Prop where
  keeping : ∀ most, ConfinesRun (fun system => spare system ≤ most) (fun _ => True) driven
  spending : ∀ {before now after}, driven.now before = .ok now after → spare after < spare before

omit confines in
/-- A turn begins with a reading of the time. -/
theorem Spends.turn (spends : Spends spare driven) {goesOn : Bool}
    (run : turn driven clocked = .ok goesOn left) :
    spare left.system < spare clocked.system := by
  obtain ⟨now, read, reads, run⟩ := ok_of_bind run
  obtain ⟨goesOn, polled, polls, run⟩ := ok_of_bind run
  have spent := spends.spending (ok_of_onSystem reads)
  have confines := spends.keeping (spare read.system)
  have kept := (confined_poll confines.toConfines now).keeps.of_ok (Nat.le_refl _) polls
  split at run
  · obtain ⟨_, rested, rests, run⟩ := ok_of_bind run
    injection run with _ same
    rw [← same]
    have idle := (within_restIfIdle confines).keeps.of_ok ⟨rfl, kept⟩ rests
    exact Nat.lt_of_le_of_lt idle.system spent
  · injection run with _ same
    rw [← same]
    exact Nat.lt_of_le_of_lt kept spent

theorem quits_of_turns (spends : Spends spare driven) {limit : Nat}
    (enough : spare clocked.system < limit)
    (run : turnUntilQuit driven limit clocked = .ok () left) (holds : P clocked.system) :
    Quits P driven := by
  induction limit generalizing clocked with
  | zero => exact absurd enough (Nat.not_lt_zero _)
  | succ limit ih =>
    obtain ⟨goesOn, turned, turns, run⟩ := ok_of_bind run
    cases goesOn with
    | false => exact quits_of_turn confines turns holds
    | true =>
      have spent := spends.turn turns
      have turned := (within_turn confines).keeps.of_ok ⟨rfl, holds⟩ turns
      exact ih (by omega) run turned.system

/-- **Only the user ends a run**, and not its bound, if there is no more to spend than the
bound. -/
theorem quits_of_run (spends : Spends spare driven) {limit : Nat}
    (enough : spare clocked.system ≤ limit) (ran : run driven limit clocked = .ok () left)
    (holds : P clocked.system) : Quits P driven := by
  obtain ⟨now, read, reads, ran⟩ := ok_of_bind ran
  obtain ⟨_, _, ⟨⟩, ran⟩ := ok_of_bind ran
  obtain ⟨_, turned, turns, -⟩ := ok_of_bind ran
  have spent := Nat.lt_of_lt_of_le (spends.spending (ok_of_onSystem reads)) enough
  have met := confines.now.keeps.of_ok holds (ok_of_onSystem reads)
  -- of the start of the clock the system knows nothing
  refine quits_of_turns confines spends ?_ turns ?_
  · exact spent
  · exact met

end Quitting

end Clocked
end Chip8
