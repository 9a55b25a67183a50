import Chip8.Console
import Chip8.Proofs.Machine.Halting
import Chip8.Proofs.Machine.Signals
import Chip8.Proofs.Machine.Soundness
import Chip8.Proofs.Time.Upkeep
/-!
# Consoles in use

What outlasts all that a machine can send and set, and the asking for key events, is kept
by a whole run of the console that the machine is part of (`keeps_run_of_lasts`). A run that
fails is interrupted by a halt of the machine or by the timepiece (`natural_of_run`), and one
that does not fail ends because of a wish to quit among the key events (`quit_of_run`). Its
bound is never met: every turn reads the time, and the timepiece gives out first.
-/

namespace Chip8

/-- **What can interrupt a run** of a machine in use: a fault of the memory or of the call
stack that halts the machine, or the timepiece. -/
inductive Interruption.Natural : Interruption → Prop where
  | halted {cause report} (halting : cause.isHalting = true) :
      Natural (.crashed (.halted cause report))
  | untimed {cause} : Natural (.untimed cause)

namespace Console

open Machine Operation

variable {δ α : Type}

/-! ## Operations of the machine -/

/-- An operation of the machine leaves what is beside the machine alone. -/
theorem left_onMachine (operation : Running δ α) (console : Console δ) :
    left (onMachine operation console) =
      { console with machine := left (operation console.machine) } := by
  dsimp only [onMachine]
  cases operation console.machine <;> rfl

theorem keeps_onMachine {P : Machine δ → Prop} {operation : Running δ α}
    (kept : Keeps P operation) :
    Keeps (fun console => P console.machine) (onMachine operation) := by
  intro console holds
  rw [left_onMachine]
  exact kept console.machine holds

theorem keeps_beside {P : List (List InputEvent) → Timepiece → Prop} (operation : Running δ α) :
    Keeps (fun console => P console.batches console.timepiece) (onMachine operation) := by
  intro console holds
  rw [left_onMachine]
  exact holds

/-- A result of an operation of a part comes from the part. -/
theorem ok_of_direct {operation : Operation (Machine δ) α} {console after : Console δ} {result : α}
    (run : direct operation console = .ok result after) :
    operation console.machine = .ok result after.machine := by
  dsimp only [direct, onMachine, Machine.direct] at run
  cases given : operation console.machine with
  | ok value machine =>
    rw [given] at run
    injection run with same left
    rw [← same, ← left]
  | error fault machine =>
    rw [given] at run
    exact nomatch run

/-! ## What a run keeps -/

section Lasting

variable {Q : Timers → Array Signal → Prop} (lasts : Lasts Q Silent Timed)
include lasts

theorem keeps_deliverAll (batch : List InputEvent) :
    Keeps (Tells Q) (InputEvent.deliverAll batch : Operation (Machine δ) Bool) := by
  induction batch with
  | nil => exact Keeps.pure false
  | cons event batch ih =>
    have delivered : Keeps (Tells Q) (event.deliver : Operation (Machine δ) Unit) := by
      cases event with
      | down code => exact Keeps.bind (lasts.keyDown code) fun _ => Keeps.pure ()
      | up code => exact Keeps.bind (keeps_keyUp code) fun _ => Keeps.pure ()
      | quit | ignored => exact Keeps.pure ()
    exact Keeps.bind delivered fun _ => Keeps.bind ih fun _ => Keeps.pure _

variable [Display δ]
variable (polling : ∀ {timers outbox}, Q timers outbox → Q timers (outbox.push .polled))
include polling

theorem confines_of_lasts : Clocked.ConfinesRun (fun console : Console δ => Tells Q console.machine)
    (fun _ => True) driven where
  step := (keeps_onMachine lasts.step).confined
  tick := (keeps_onMachine
    (keeps_direct (keeps_updateTimers (lasts.setting (.inr (.inr (.inl rfl))))))).confined
  pollInputs := by
    refine Confined.bind (keeps_onMachine (keeps_direct (keeps_emit polling))).confined fun _ => ?_
    have taken : Keeps (fun console : Console δ => Tells Q console.machine) nextBatch :=
      fun _ holds => holds
    refine Confined.bind taken.confined fun batch => ?_
    exact (keeps_onMachine (keeps_direct (keeps_deliverAll lasts batch))).confined
  refresh := (keeps_onMachine (keeps_direct lasts.refreshDisplay)).confined
  report fps ops := by
    refine (keeps_onMachine (keeps_direct ?_)).confined
    exact Keeps.bind (keeps_onDisplay _) fun calls =>
      keeps_paint calls (lasts.sending (.inl ⟨_, rfl⟩))
  note entry :=
    (keeps_onMachine (keeps_direct (keeps_emit (lasts.sending (.inr ⟨_, rfl⟩))))).confined
  now := by
    refine Keeps.confined fun console holds => ?_
    dsimp only [driven, timed, readTime]
    split <;> exact holds
  rest := Confined.modify fun _ holds => holds

/-- **What outlasts all that can be sent and set is kept by a run**, however it ends. -/
theorem keeps_run_of_lasts :
    Keeps (fun clocked : Clocked Float (Console δ) => Tells Q clocked.system.machine) run :=
  Keeps.bind Keeps.get fun _ =>
    (Clocked.confined_run (confines_of_lasts lasts polling) _).keeps

end Lasting

/-! ## What can interrupt a run -/

section Interrupting

variable {width height : Nat} {P : Machine δ → Prop}

theorem confined_onMachine {C : Crash → Prop} {C' : Interruption → Prop}
    {operation : Running δ α} (confined : Confined P C operation)
    (crashes : ∀ crash, C crash → C' (.crashed crash)) :
    Confined (fun console => P console.machine) C' (onMachine operation) where
  keeps := keeps_onMachine confined.keeps
  fails {console _ _} holds failed := by
    dsimp only [onMachine] at failed
    cases ran : operation console.machine with
    | ok result after =>
      rw [ran] at failed
      exact nomatch failed
    | error crash after =>
      rw [ran] at failed
      injection failed with same
      exact same ▸ crashes crash (confined.fails holds ran)

/-- An operation of a part that never fails interrupts nothing. -/
theorem confined_direct {C' : Interruption → Prop} {operation : Operation (Machine δ) α}
    (confined : Confined P (fun _ => False) operation) :
    Confined (fun console => P console.machine) C' (direct operation) := by
  have directly : Confined P (fun _ => False) (Machine.direct operation) := by
    refine ⟨keeps_direct confined.keeps, fun {machine _ _} holds failed => ?_⟩
    dsimp only [Machine.direct] at failed
    cases ran : operation machine with
    | ok result after =>
      rw [ran] at failed
      exact nomatch failed
    | error fault after => exact confined.fails holds ran
  exact confined_onMachine directly fun _ never => never.elim

theorem confined_step : Confined (Machine.Sound width height)
    (fun crash => ∃ cause report, crash = .halted cause report ∧ cause.isHalting = true) step where
  keeps machine sound := by
    have after := sound.afterStep
    cases run : step machine with
    | ok ran left =>
      rw [after_step_of_ok run] at after
      exact after
    | error crash left =>
      rw [after_step_of_error run] at after
      exact after
  fails {machine _ _} sound failed := by
    rcases sound.step_contained with ⟨ran, left, run⟩ | ⟨cause, report, left, run, halting⟩
    · rw [run] at failed
      exact nomatch failed
    · rw [run] at failed
      injection failed with same
      exact ⟨cause, report, same.symm, isHalting_iff.2 halting⟩

section Parts

variable {C : Fault → Prop}

theorem confined_emit (signal : Signal) :
    Confined (Machine.Sound width height) C (emit signal : Operation (Machine Framebuffer) Unit) :=
  Confined.modify fun _ sound => sound.withOutbox _

theorem confined_tick :
    Confined (Machine.Sound width height) C (tick : Operation (Machine Framebuffer) Unit) := by
  refine Confined.of_ok fun machine sound => ?_
  obtain ⟨outbox, counted⟩ := updateTimers_eq Timers.tick machine
  exact ⟨(), _, counted, (sound.answered .tick).withOutbox outbox⟩

theorem confined_refreshDisplay : Confined (Machine.Sound width height) C
    (refreshDisplay : Operation (Machine Framebuffer) Unit) := by
  refine Confined.of_ok fun machine sound => ?_
  obtain ⟨outbox, painted⟩ := refreshDisplay_eq machine
  exact ⟨(), _, painted, (sound.answered .refresh).withOutbox outbox⟩

theorem confined_reportPerformance (fps ops : Int) : Confined (Machine.Sound width height) C
    (reportPerformance fps ops : Operation (Machine Framebuffer) Unit) := by
  refine Confined.of_ok fun machine sound => ?_
  obtain ⟨outbox, painted⟩ := paint_eq (Framebuffer.report fps ops) machine
  exact ⟨(), _, painted, sound.withOutbox outbox⟩

theorem confined_deliver (event : InputEvent) : Confined (Machine.Sound width height) C
    (event.deliver : Operation (Machine Framebuffer) Unit) := by
  refine Confined.of_ok fun machine sound => ?_
  cases event with
  | down code =>
    cases known : machine.keypad.logical? code with
    | none => exact ⟨(), machine, bind_of_ok (keyDown_of_none known), sound⟩
    | some key =>
      obtain ⟨outbox, filled⟩ := keyDown_of_some sound known
      exact ⟨(), _, bind_of_ok filled, (sound.pressed key).withOutbox outbox⟩
  | up code =>
    obtain ⟨key, released⟩ := keyUp_eq code machine
    exact ⟨(), _, bind_of_ok released, sound.answered (.keyUp code)⟩
  | quit | ignored => exact ⟨(), machine, rfl, sound⟩

theorem confined_deliverAll (batch : List InputEvent) : Confined (Machine.Sound width height) C
    (InputEvent.deliverAll batch : Operation (Machine Framebuffer) Bool) := by
  induction batch with
  | nil => exact Confined.pure false
  | cons event batch ih =>
    exact Confined.bind (confined_deliver event) fun _ => Confined.bind ih fun _ =>
      Confined.pure _

end Parts

/-- **A sound machine is interrupted naturally only**, and stays sound. -/
theorem confines_sound : Clocked.ConfinesRun
    (fun console : Console Framebuffer => console.machine.Sound width height)
    Interruption.Natural driven where
  step := by
    refine confined_onMachine confined_step ?_
    rintro _ ⟨cause, report, rfl, halting⟩
    exact .halted halting
  tick := confined_direct confined_tick
  pollInputs := by
    refine Confined.bind (confined_direct (confined_emit .polled)) fun _ => ?_
    have taken : Confined (fun console : Console Framebuffer => console.machine.Sound width height)
        Interruption.Natural nextBatch := ⟨fun _ sound => sound, fun _ failed => nomatch failed⟩
    exact Confined.bind taken fun batch => confined_direct (confined_deliverAll batch)
  refresh := confined_direct confined_refreshDisplay
  report fps ops := confined_direct (confined_reportPerformance fps ops)
  note entry := confined_direct (confined_emit (.noted entry))
  now := by
    constructor
    · intro console sound
      dsimp only [driven, timed, readTime]
      split <;> exact sound
    · intro console interruption after _ failed
      dsimp only [driven, timed, readTime] at failed
      split at failed
      · exact nomatch failed
      · injection failed with same
        exact same ▸ .untimed
  rest := Confined.modify fun _ sound => sound

/-- **A run that fails is interrupted naturally.** -/
theorem natural_of_run {clocked left : Clocked Float (Console Framebuffer)}
    {interruption : Interruption} (sound : clocked.system.machine.Sound width height)
    (ran : run clocked = .error interruption left) : interruption.Natural := by
  have confined : Confined (fun clocked : Clocked Float (Console Framebuffer) =>
      clocked.system.machine.Sound width height) Interruption.Natural run :=
    Confined.bind Confined.get fun _ => Clocked.confined_run confines_sound _
  exact confined.fails sound ran

end Interrupting

/-! ## Halting at once -/

section Halting

variable {width height : Nat} {fault : Fault}

/-- The machine is doomed, and no key events are to come. -/
def Ends (width height : Nat) (fault : Fault) (console : Console Framebuffer) : Prop :=
  Machine.Doomed width height fault console.machine ∧ console.batches = []

theorem confined_ends {C : Interruption → Prop} (operation : Operation (Machine Framebuffer) α)
    (fine : ∀ machine, Machine.Doomed width height fault machine →
      ∃ result after, operation machine = .ok result after ∧
        Machine.Doomed width height fault after) :
    Confined (Ends width height fault) C (direct operation) :=
  (confined_direct (Confined.of_ok fine)).and
    (keeps_beside (P := fun batches _ => batches = []) (Machine.direct operation))

/-- With no key events to come nobody quits. -/
theorem pollInputs_of_ends {console : Console Framebuffer}
    (ends : Ends width height fault console) :
    ∃ after, pollInputs console = .ok false after ∧ Ends width height fault after := by
  obtain ⟨machine, batches, timepiece⟩ := console
  obtain ⟨doomed, rfl⟩ := ends
  exact ⟨_, rfl, doomed.beside (doomed.sound.withOutbox _), rfl⟩

/-- Nothing but a step fails. -/
theorem confinesIdle_ends :
    Clocked.ConfinesIdle (Ends width height fault) (fun _ => False) driven where
  tick := by
    refine confined_ends tick fun machine doomed => ?_
    obtain ⟨outbox, counted⟩ := updateTimers_eq Timers.tick machine
    exact ⟨(), _, counted, doomed.beside ((doomed.sound.answered .tick).withOutbox outbox)⟩
  pollInputs := by
    refine Confined.of_ok fun console ends => ?_
    obtain ⟨after, asked, kept⟩ := pollInputs_of_ends ends
    exact ⟨false, after, asked, kept⟩
  refresh := by
    refine confined_ends refreshDisplay fun machine doomed => ?_
    obtain ⟨outbox, painted⟩ := refreshDisplay_eq machine
    exact ⟨(), _, painted, doomed.beside ((doomed.sound.answered .refresh).withOutbox outbox)⟩
  report fps ops := by
    refine confined_ends (reportPerformance fps ops) fun machine doomed => ?_
    obtain ⟨outbox, painted⟩ := paint_eq (Framebuffer.report fps ops) machine
    exact ⟨(), _, painted, doomed.beside (doomed.sound.withOutbox outbox)⟩
  note entry := by
    refine confined_ends (emit (.noted entry)) fun machine doomed => ?_
    exact ⟨(), _, rfl, doomed.beside (doomed.sound.withOutbox _)⟩

/-- **An uncapped clock runs into the halt at its first poll**, whatever time it is, if the
time can be read for the start of the clock and for that poll. -/
theorem run_of_ends {clocked : Clocked Float (Console Framebuffer)} {start now : Float}
    {once twice : Timepiece} (ends : Ends width height fault clocked.system)
    (uncapped : clocked.clock.speed = none)
    (first : clocked.system.timepiece.read = .ok start once)
    (second : once.read = .ok now twice) :
    ∃ report left, run clocked = .error (.crashed (.halted fault report)) left := by
  have starts : readTime clocked.system = .ok start { clocked.system with timepiece := once } := by
    simp only [readTime, first]
  let started : Clocked Float (Console Framebuffer) :=
    ⟨clocked.clock.start start, { clocked.system with timepiece := once }⟩
  have reads : readTime started.system = .ok now { clocked.system with timepiece := twice } := by
    simp only [readTime, started, second]
  have asked : ∀ before after, Ends width height fault before →
      driven.pollInputs before ≠ .ok true after := by
    intro before after ends wish
    obtain ⟨_, unwished, -⟩ := pollInputs_of_ends ends
    exact nomatch unwished.symm.trans wish
  have within : Clocked.Within none (Ends width height fault)
      ⟨started.clock, { clocked.system with timepiece := twice }⟩ := ⟨uncapped, ends⟩
  obtain ⟨before, met, polls⟩ := Clocked.poll_of_uncapped confinesIdle_ends asked within now
  -- all that is left of the poll is the step, and that one fails
  obtain ⟨report, halted, halts⟩ := met.1.step
  have stops : onMachine step before.system =
      .error (.crashed (.halted fault report)) { before.system with machine := halted } := by
    simp only [onMachine, halts]
  have steps : Clocked.runStep driven before = .error _ _ :=
    bind_of_error (Clocked.onSystem_of_error stops)
  have turns : Clocked.turn driven started = .error _ _ :=
    (bind_of_ok (Clocked.onSystem_of_ok reads)).trans
      (bind_of_error (polls.trans (bind_of_error steps)))
  have runs : run clocked = .error _ _ :=
    (bind_of_ok (Clocked.onSystem_of_ok starts)).trans
      ((bind_of_ok rfl).trans (bind_of_error (bind_of_error turns)))
  exact ⟨report, _, runs⟩

end Halting

/-! ## Quitting -/

section Quitting

variable [Display δ]

/-- What lies beside the machine is changed only where key events are asked for, where the
time is read, and by a rest. -/
theorem confines_beside {P : List (List InputEvent) → Timepiece → Prop}
    (asking : ∀ {batches timepiece}, P batches timepiece → P batches.tail timepiece)
    (reading : ∀ {batches timepiece}, P batches timepiece → P batches (left timepiece.read))
    (resting : ∀ {batches timepiece}, P batches timepiece → P batches timepiece.rest) :
    Clocked.ConfinesRun (fun console : Console δ => P console.batches console.timepiece)
      (fun _ => True) driven where
  step := (keeps_beside _).confined
  tick := (keeps_beside _).confined
  pollInputs := by
    refine Confined.bind (keeps_beside _).confined fun _ => ?_
    have taken : Keeps (fun console : Console δ => P console.batches console.timepiece)
        nextBatch := fun _ holds => asking holds
    exact Confined.bind taken.confined fun batch => (keeps_beside _).confined
  refresh := (keeps_beside _).confined
  report _ _ := (keeps_beside _).confined
  note entry := (keeps_beside (Machine.direct (emit (.noted entry)))).confined
  now := by
    refine Keeps.confined fun console holds => ?_
    have read := reading holds
    dsimp only [driven, timed, readTime]
    cases given : console.timepiece.read <;>
    · rw [given] at read
      exact read
  rest := Confined.modify fun _ holds => resting holds

/-- The readings that a timepiece still allows. -/
def readingsLeft (timepiece : Timepiece) : Nat := timepiece.limit - timepiece.readings

omit [Display δ] in
theorem readingsLeft_of_ok {before after : Timepiece} {now : Float}
    (given : before.read = .ok now after) : readingsLeft after < readingsLeft before := by
  rw [Timepiece.read] at given
  split at given
  · rename_i inside
    split at given
    · injection given with _ moved
      rw [← moved]
      exact Nat.sub_lt_sub_left inside (Nat.lt_succ_self _)
    · exact nomatch given
  · exact nomatch given

omit [Display δ] in
theorem readingsLeft_left (timepiece : Timepiece) :
    readingsLeft (left timepiece.read) ≤ readingsLeft timepiece := by
  rw [Timepiece.read]
  split
  · have moved : readingsLeft timepiece.moveOn ≤ readingsLeft timepiece :=
      Nat.sub_le_sub_left (Nat.le_succ _) _
    split <;> exact moved
  · exact Nat.le_refl _

/-- The clock spends the readings of the timepiece. -/
theorem spends_readings :
    Clocked.Spends (fun console : Console δ => readingsLeft console.timepiece) driven where
  keeping most := confines_beside (P := fun _ timepiece => readingsLeft timepiece ≤ most) id
    (fun {_ timepiece} most => Nat.le_trans (readingsLeft_left timepiece) most) id
  spending {before now after} given := by
    dsimp only [driven, timed, readTime] at given
    split at given
    · rename_i told
      injection given with _ same
      rw [← same]
      exact readingsLeft_of_ok told
    · exact nomatch given

omit [Display δ] in
/-- The delivery of a batch tells of the wishes to quit in it. -/
theorem deliverAll_eq_ok {batch : List InputEvent} {before after : Machine δ} {quits : Bool}
    (run : InputEvent.deliverAll batch before = .ok quits after) :
    quits = batch.any InputEvent.isQuit := by
  induction batch generalizing before quits after with
  | nil =>
    injection run with told
    exact told.symm
  | cons event batch ih =>
    obtain ⟨_, _, -, run⟩ := ok_of_bind run
    obtain ⟨later, _, delivered, run⟩ := ok_of_bind run
    injection run with told
    rw [List.any_cons, ← ih delivered, told]

omit [Display δ] in
/-- Asking for key events tells of the wishes to quit in the batch that comes next. -/
theorem pollInputs_eq_ok {before after : Console δ} {quits : Bool}
    (run : pollInputs before = .ok quits after) :
    quits = (before.batches.headD []).any InputEvent.isQuit := by
  obtain ⟨_, asked, asks, run⟩ := ok_of_bind run
  obtain ⟨batch, taken, takes, run⟩ := ok_of_bind run
  have kept : asked.batches = before.batches :=
    (keeps_beside (P := fun batches _ => batches = before.batches) _).of_ok rfl asks
  injection takes with same
  rw [deliverAll_eq_ok (ok_of_direct run), ← same, kept]

/-- **A run that ends without a failure ends because the user quits.** -/
theorem quit_of_run {clocked after : Clocked Float (Console δ)}
    (ran : run clocked = .ok () after) :
    ∃ batch ∈ clocked.system.batches, InputEvent.quit ∈ batch := by
  have remaining : Clocked.ConfinesRun
      (fun console : Console δ => console.batches <:+ clocked.system.batches) (fun _ => True)
      driven :=
    confines_beside (P := fun batches _ => batches <:+ clocked.system.batches)
      (fun {batches _} rest => (List.tail_suffix batches).trans rest) id id
  have bound : readingsLeft clocked.system.timepiece ≤ clocked.system.timepiece.limit + 1 := by
    rw [readingsLeft]
    omega
  obtain ⟨before, after, rest, asked⟩ :=
    Clocked.quits_of_run remaining spends_readings bound ran (List.suffix_refl _)
  have wished := pollInputs_eq_ok asked
  cases left : before.batches with
  | nil =>
    rw [left] at wished
    exact nomatch wished
  | cons batch batches =>
    rw [left, List.headD_cons] at wished
    obtain ⟨event, mem, isQuit⟩ := List.any_eq_true.1 wished.symm
    refine ⟨batch, rest.subset (left ▸ List.mem_cons_self), ?_⟩
    cases event with
    | quit => exact mem
    | _ => exact nomatch isQuit

end Quitting

end Console
end Chip8
