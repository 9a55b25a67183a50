import Chip8.Proofs.Time.Exact
import Chip8.Proofs.Time.Tally
/-!
# One poll in exact time

On exact times all that a poll does to the schedule and to the tally can be said: the
display and the report move on from the present if they are due, and ticks and steps are
caught up with, each on a `Lane` of its own (`leads_poll`). That the loops of a poll are
bounded is of no account: what is due after a lag is dropped stays below the bounds, so
that a loop ends because nothing is due any more.
-/

namespace Chip8
namespace Clocked

open Operation Exact

variable {ε σ : Type}

/-! ## States -/

/-- **Where the clock stands**: its speed, its schedule and the tally of its calls. -/
structure Standing (speed : ℕ) (schedule : Schedule ℚ) (tally : Tally)
    (clocked : Clocked ℚ (Tallied σ)) : Prop where
  speed : clocked.clock.speed = some speed
  schedule : clocked.clock.schedule = some schedule
  tally : clocked.system.tally = tally

variable {speed rate n limit : ℕ} {now : ℚ} {schedule : Schedule ℚ} {tally : Tally}
variable {clocked : Clocked ℚ (Tallied σ)}

theorem Standing.isDue_iff (standing : Standing speed schedule tally clocked)
    (time : Schedule ℚ → ℚ) (now : ℚ) :
    clocked.clock.isDue time now = true ↔ time schedule ≤ now := by
  unfold Clock.isDue
  rw [standing.schedule]
  exact decide_eq_true_iff

/-- What is kept at every speed of the clock does not undo a disturbance. -/
theorem keeps_disturbed {α : Type} {operation : EStateM ε (Clocked ℚ (Tallied σ)) α}
    (kept : ∀ rate, Confined (Within rate fun tallied : Tallied σ => tallied.disturbed = true)
      (fun _ => True) operation) : Keeps Disturbed operation :=
  (confined_of_within kept).keeps

/-- A call of the system is counted, and leaves the clock as it was. -/
theorem leads_observe {α : Type} (count : Tally → Tally) (quits : α → Bool)
    (operation : EStateM ε σ α) :
    Leads Disturbed (Standing speed schedule tally)
      (onSystem (Tallied.observe count quits operation))
      (fun result after => quits result = false ∧ Standing speed schedule (count tally) after) where
  stays := keeps_disturbed fun _ =>
    within_onSystem (keeps_observe_disturbed count quits operation).confined
  leads := by
    rintro ⟨clock, system, _, disturbed⟩ ⟨capped, started, rfl⟩
    dsimp only [onSystem, Tallied.observe]
    cases operation system with
    | ok result after =>
      cases quit : quits result with
      | true =>
        left
        change (disturbed || quits result) = true
        rw [quit, Bool.or_true]
      | false => exact .inr ⟨result, _, rfl, quit, capped, started, rfl⟩
    | error error after => exact .inl rfl

/-- So is one that has nothing to say of quitting. -/
theorem leads_call {α : Type} (count : Tally → Tally) (operation : EStateM ε σ α) :
    Leads Disturbed (Standing speed schedule tally)
      (onSystem (Tallied.observe count (fun _ => false) operation))
      (fun _ => Standing speed schedule (count tally)) :=
  (leads_observe count (fun _ => false) operation).mono (fun _ standing => standing)
    fun _ _ shown => shown.2

theorem leads_reschedule (change : Schedule ℚ → Schedule ℚ) :
    Leads (ε := ε) Disturbed (Standing (σ := σ) speed schedule tally)
      (updateClock (Clock.reschedule change))
      (fun _ => Standing speed (change schedule) tally) := by
  refine Leads.modify (fun _ was => was) fun before standing => ?_
  exact ⟨standing.speed, congrArg (Option.map change) standing.schedule, standing.tally⟩

/-- The counts of frames and of instructions are of no account here. -/
theorem leads_updateClock {change : Clock ℚ → Clock ℚ}
    (capped : ∀ clock, (change clock).speed = clock.speed)
    (started : ∀ clock, (change clock).schedule = clock.schedule) :
    Leads (ε := ε) Disturbed (Standing (σ := σ) speed schedule tally) (updateClock change)
      (fun _ => Standing speed schedule tally) := by
  refine Leads.modify (fun _ was => was) fun before standing => ?_
  exact ⟨(capped _).trans standing.speed, (started _).trans standing.schedule, standing.tally⟩

/-! ## Catching up -/

/-- **A lane of the clock**: one of the two schedules that are caught up with, and how its
runs are counted. -/
structure Lane where
  time : Schedule ℚ → ℚ
  retime : ℚ → Schedule ℚ → Schedule ℚ
  count : ℕ → Tally → Tally
  time_retime : ∀ t schedule, time (retime t schedule) = t
  retime_time : ∀ schedule, retime (time schedule) schedule = schedule
  retime_retime : ∀ t u schedule, retime t (retime u schedule) = retime t schedule
  count_zero : ∀ tally, count 0 tally = tally
  count_succ : ∀ n tally, count n (count 1 tally) = count (n + 1) tally

/-- The lane of the ticks. -/
def ticking : Lane where
  time := Schedule.tick
  retime t schedule := { schedule with tick := t }
  count n tally := { tally with ticks := tally.ticks + n }
  time_retime _ _ := rfl
  retime_time _ := rfl
  retime_retime _ _ _ := rfl
  count_zero _ := rfl
  count_succ n tally := by rw [Nat.add_assoc, Nat.add_comm 1 n]

/-- The lane of the steps. -/
def stepping : Lane where
  time := Schedule.step
  retime t schedule := { schedule with step := t }
  count n tally := { tally with steps := tally.steps + n }
  time_retime _ _ := rfl
  retime_time _ := rfl
  retime_retime _ _ _ := rfl
  count_zero _ := rfl
  count_succ n tally := by rw [Nat.add_assoc, Nat.add_comm 1 n]

/-- Runs what is due on a lane, at most so many times. -/
def runDue (lane : Lane) (rate : ℕ) (work : EStateM ε (Clocked ℚ (Tallied σ)) Unit) (now : ℚ) :
    ℕ → EStateM ε (Clocked ℚ (Tallied σ)) Unit
  | 0 => pure ()
  | limit + 1 => do
    if (← get).clock.isDue lane.time now then
      work
      updateClock (Clock.reschedule fun schedule =>
        lane.retime (lane.time schedule + 1 / rate) schedule)
      runDue lane rate work now limit

theorem runTicks_eq (driven : Driven ε σ ℚ) (now : ℚ) (limit : ℕ) :
    runTicks driven.tallied now limit =
      runDue ticking Clock.frameRate (onSystem driven.tallied.tick) now limit := by
  induction limit with
  | zero => rfl
  | succ limit ih =>
    rw [runTicks, runDue, ih]
    rfl

theorem runSteps_eq (driven : Driven ε σ ℚ) (now : ℚ) (speed limit : ℕ) :
    runSteps driven.tallied now speed limit =
      runDue stepping speed (runStep driven.tallied) now limit := by
  induction limit with
  | zero => rfl
  | succ limit ih =>
    rw [runSteps, runDue, ih]
    rfl

theorem keeps_runDue {lane : Lane} {work : EStateM ε (Clocked ℚ (Tallied σ)) Unit}
    (kept : Keeps Disturbed work) (limit : ℕ) :
    Keeps Disturbed (runDue lane rate work now limit) := by
  induction limit with
  | zero => exact Keeps.pure _
  | succ limit ih =>
    refine Keeps.bind Keeps.get fun clocked => ?_
    split
    · exact Keeps.bind kept fun _ => Keeps.bind (Keeps.modify fun _ was => was) fun _ => ih
    · exact Keeps.pure _

/-- **A loop runs what is due**, as long as its bound is no less. Then it is left because
nothing is due any more. -/
theorem leads_runDue {lane : Lane} {work : EStateM ε (Clocked ℚ (Tallied σ)) Unit}
    (positive : 0 < rate)
    (worked : ∀ schedule tally, Leads Disturbed (Standing speed schedule tally) work
      (fun _ => Standing speed schedule (lane.count 1 tally)))
    (due : runs rate now (lane.time schedule) = n) (enough : n ≤ limit) :
    Leads Disturbed (Standing speed schedule tally) (runDue lane rate work now limit)
      (fun _ => Standing speed (lane.retime (lane.time schedule + n / rate) schedule)
        (lane.count n tally)) := by
  have kept := (worked schedule tally).stays
  induction n generalizing limit schedule tally with
  | zero =>
    -- nothing is due: the loop is not entered
    have early : now < lane.time schedule := (runs_eq_zero_iff positive).1 due
    rw [Nat.cast_zero, zero_div, add_zero, lane.retime_time, lane.count_zero]
    cases limit with
    | zero => exact Leads.pure fun _ standing => standing
    | succ limit =>
      refine Leads.get_bind (keeps_runDue kept (limit + 1)) fun clocked standing => ?_
      have idle : ¬ clocked.clock.isDue lane.time now = true := by
        rw [standing.isDue_iff]
        exact not_le.2 early
      rw [if_neg idle]
      exact Leads.pure fun _ standing => standing
  | succ n ih =>
    have late : lane.time schedule ≤ now := by
      rw [← not_lt, ← runs_eq_zero_iff positive, due]
      omega
    obtain ⟨limit, rfl⟩ : ∃ fewer, limit = fewer + 1 := ⟨limit - 1, by omega⟩
    have sooner : lane.time (lane.retime (lane.time schedule + 1 / rate) schedule) =
        lane.time schedule + 1 / rate := lane.time_retime _ _
    have whole : lane.time schedule + 1 / rate + n / rate =
        lane.time schedule + (n + 1 : ℕ) / rate := by
      push_cast
      ring
    have rest : Leads Disturbed
        (Standing speed (lane.retime (lane.time schedule + 1 / rate) schedule)
          (lane.count 1 tally))
        (runDue lane rate work now limit)
        (fun _ => Standing speed (lane.retime (lane.time schedule + (n + 1 : ℕ) / rate) schedule)
          (lane.count (n + 1) tally)) := by
      have left : runs rate now (lane.time
          (lane.retime (lane.time schedule + 1 / rate) schedule)) = n := by
        rw [sooner]
        exact runs_of_succ positive due
      have further := @ih limit _ (lane.count 1 tally) left (by omega)
      rw [sooner, lane.retime_retime, lane.count_succ, whole] at further
      exact further
    refine Leads.get_bind (keeps_runDue kept (limit + 1)) fun clocked standing => ?_
    rw [if_pos ((standing.isDue_iff _ _).2 late)]
    refine Leads.bind (worked schedule tally) fun _ => ?_
    exact Leads.bind (leads_reschedule _) fun _ => rest

/-- The tally, with a note of the lag if there is one. -/
def noted (now due : ℚ) (tally : Tally) : Tally := if 1 / 4 < now - due then tally.note else tally

theorem leads_resync (driven : Driven ε σ ℚ) (lane : Lane) :
    Leads Disturbed (Standing speed schedule tally)
      (resync driven.tallied lane.time lane.retime now)
      (fun _ => Standing speed (lane.retime (resynced now (lane.time schedule)) schedule)
        (noted now (lane.time schedule) tally)) := by
  have patience : (TimeScale.period Clock.patience : ℚ) = 1 / 4 := by
    change (1 : ℚ) / (4 : ℕ) = 1 / 4
    norm_num
  have confines := (confines_disturbed driven).toConfinesIdle
  refine Leads.get_bind (keeps_disturbed fun _ => within_resync confines _ _ now)
    fun clocked standing => ?_
  rw [standing.schedule]
  dsimp only
  by_cases lag : 1 / 4 < now - lane.time schedule
  · have late : now - lane.time schedule > TimeScale.period Clock.patience := patience ▸ lag
    rw [resynced_of_lag lag, noted, if_pos lag, if_pos late]
    refine Leads.bind (leads_call Tally.note (driven.note _)) fun _ => ?_
    exact leads_reschedule _
  · have near : ¬ now - lane.time schedule > TimeScale.period Clock.patience := patience ▸ lag
    rw [resynced_of_le (not_lt.1 lag), lane.retime_time, noted, if_neg lag, if_neg near]
    exact Leads.pure fun _ standing => standing

/-- **Catching up on a lane**: the lag is dropped, and what is due then is run. -/
theorem leads_catchUp {α : Type} (driven : Driven ε σ ℚ) {lane : Lane}
    {work : EStateM ε (Clocked ℚ (Tallied σ)) Unit} (positive : 0 < rate)
    (worked : ∀ schedule tally, Leads Disturbed (Standing speed schedule tally) work
      (fun _ => Standing speed schedule (lane.count 1 tally)))
    {rest : EStateM ε (Clocked ℚ (Tallied σ)) α} {Q : α → Clocked ℚ (Tallied σ) → Prop}
    (later : Leads Disturbed
      (Standing speed (lane.retime (onward rate now (lane.time schedule)) schedule)
        (lane.count (caughtUp rate now (lane.time schedule))
          (noted now (lane.time schedule) tally))) rest Q) :
    Leads Disturbed (Standing speed schedule tally)
      (resync driven.tallied lane.time lane.retime now >>= fun _ =>
        runDue lane rate work now (Clock.catchUpLimit rate) >>= fun _ => rest) Q := by
  have enough : caughtUp rate now (lane.time schedule) ≤ Clock.catchUpLimit rate := by
    have burst := caughtUp_le rate now (lane.time schedule)
    unfold Clock.catchUpLimit
    omega
  have due : runs rate now
      (lane.time (lane.retime (resynced now (lane.time schedule)) schedule)) =
        caughtUp rate now (lane.time schedule) := by
    rw [lane.time_retime]
    rfl
  have ran := @leads_runDue _ _ _ _ _ _ now _ (noted now (lane.time schedule) tally) lane work
    positive worked due enough
  rw [lane.time_retime, lane.retime_retime] at ran
  exact Leads.bind (leads_resync driven lane) fun _ => Leads.bind ran fun _ => later

/-! ## The whole poll -/

theorem frameRate_pos : 0 < Clock.frameRate := by decide

/-- The schedule after a poll. -/
def moved (speed : ℕ) (now : ℚ) (schedule : Schedule ℚ) : Schedule ℚ where
  step := onward speed now schedule.step
  tick := onward Clock.frameRate now schedule.tick
  display := if schedule.display ≤ now then now + 1 / Clock.frameRate else schedule.display
  report := if schedule.report ≤ now then now + 1 / (1 : ℕ) else schedule.report

/-- The tally after a poll. -/
def polled (speed : ℕ) (now : ℚ) (schedule : Schedule ℚ) (tally : Tally) : Tally :=
  stepping.count (caughtUp speed now schedule.step) (noted now schedule.step
    (ticking.count (caughtUp Clock.frameRate now schedule.tick) (noted now schedule.tick tally)))

theorem leads_ensureStarted (now : ℚ) :
    Leads (ε := ε) Disturbed (Standing (σ := σ) speed schedule tally) (ensureStarted now)
      (fun _ => Standing speed schedule tally) := by
  refine Leads.get_bind (keeps_disturbed fun _ => within_ensureStarted now)
    fun clocked standing => ?_
  have started : ¬ clocked.clock.schedule.isNone = true := by
    rw [standing.schedule]
    exact Bool.false_ne_true
  rw [if_neg started]
  exact Leads.pure fun _ standing => standing

theorem leads_reportIfDue (driven : Driven ε σ ℚ) (now : ℚ) :
    Leads Disturbed (Standing speed schedule tally) (reportIfDue driven.tallied now)
      (fun _ => Standing speed
        { schedule with
          report := if schedule.report ≤ now then now + 1 / (1 : ℕ) else schedule.report }
        tally) := by
  have confines := (confines_disturbed driven).toConfinesIdle
  refine Leads.get_bind (keeps_disturbed fun _ => within_reportIfDue confines now)
    fun clocked standing => ?_
  by_cases due : schedule.report ≤ now
  · rw [if_pos ((standing.isDue_iff _ _).2 due), if_pos due]
    refine Leads.bind (leads_reschedule _) fun _ => ?_
    refine Leads.get_bind (Keeps.bind Keeps.get fun _ => Keeps.bind
      (keeps_disturbed fun _ => within_onSystem (confines.report _ _)) fun _ =>
        Keeps.modify fun _ disturbed => disturbed) fun clocked standing => ?_
    refine Leads.bind (leads_call id (driven.report _ _)) fun _ => ?_
    exact leads_updateClock (fun _ => rfl) fun _ => rfl
  · rw [if_neg (mt (standing.isDue_iff _ _).1 due), if_neg due]
    exact Leads.pure fun _ standing => standing

theorem leads_displayIfDue (driven : Driven ε σ ℚ) (now : ℚ) :
    Leads Disturbed (Standing speed schedule tally) (displayIfDue driven.tallied now)
      (fun quits after => quits = false ∧ Standing speed
        { schedule with
          display := if schedule.display ≤ now then now + 1 / Clock.frameRate
            else schedule.display }
        tally after) := by
  have confines := (confines_disturbed driven).toConfinesIdle
  refine Leads.get_bind (keeps_disturbed fun _ => within_displayIfDue confines now)
    fun clocked standing => ?_
  by_cases due : schedule.display ≤ now
  · rw [if_pos ((standing.isDue_iff _ _).2 due), if_pos due]
    refine Leads.bind (leads_observe id id driven.pollInputs) fun quits => ?_
    cases quits with
    | true => exact Leads.of_never (Keeps.pure true) fun _ given => nomatch given.1
    | false =>
      refine Leads.bind ((leads_reschedule _).mono (fun _ given => given.2)
        fun _ _ shown => shown) fun _ => ?_
      refine Leads.bind (leads_call id driven.refresh) fun _ => ?_
      refine Leads.bind (leads_updateClock (fun _ => rfl) fun _ => rfl) fun _ => ?_
      exact Leads.pure fun _ standing => ⟨rfl, standing⟩
  · rw [if_neg (mt (standing.isDue_iff _ _).1 due), if_neg due]
    exact Leads.pure fun _ standing => ⟨rfl, standing⟩

theorem leads_runStep (driven : Driven ε σ ℚ) (schedule : Schedule ℚ) (tally : Tally) :
    Leads Disturbed (Standing speed schedule tally) (runStep driven.tallied)
      (fun _ => Standing speed schedule (stepping.count 1 tally)) := by
  refine Leads.bind (leads_call Tally.step driven.step) fun ran => ?_
  split
  · exact leads_updateClock (fun _ => rfl) fun _ => rfl
  · exact Leads.pure fun _ standing => standing

theorem leads_tick (driven : Driven ε σ ℚ) (schedule : Schedule ℚ) (tally : Tally) :
    Leads Disturbed (Standing speed schedule tally) (onSystem driven.tallied.tick)
      (fun _ => Standing speed schedule (ticking.count 1 tally)) :=
  leads_call Tally.tick driven.tick

/-- **What a poll does**, unless the system is disturbed: it does not have the user quit,
moves the schedule on and counts the runs. -/
theorem leads_poll (driven : Driven ε σ ℚ) (positive : 0 < speed) (now : ℚ) :
    Leads Disturbed (Standing speed schedule tally) (poll driven.tallied now)
      (fun goesOn after => goesOn = true ∧
        Standing speed (moved speed now schedule) (polled speed now schedule tally) after) := by
  refine Leads.bind (leads_ensureStarted now) fun _ => ?_
  refine Leads.bind (leads_reportIfDue driven now) fun _ => ?_
  refine Leads.bind (leads_displayIfDue driven now) fun quits => ?_
  cases quits with
  | true => exact Leads.of_never (Keeps.pure false) fun _ given => nomatch given.1
  | false =>
    rw [if_neg Bool.false_ne_true, runTicks_eq]
    refine Leads.mono (leads_catchUp driven frameRate_pos (leads_tick driven) ?_)
      (fun _ given => given.2) fun _ _ shown => shown
    refine Leads.get_bind ?_ fun clocked standing => ?_
    · have confines := confines_disturbed driven
      refine Keeps.bind Keeps.get fun clocked => ?_
      split
      · exact Keeps.bind (keeps_disturbed fun _ => within_runStep confines) fun _ =>
          Keeps.pure true
      · refine Keeps.bind (keeps_disturbed fun _ =>
          within_resync confines.toConfinesIdle _ _ now) fun _ => ?_
        exact Keeps.bind (keeps_disturbed fun _ => within_runSteps confines now _ _) fun _ =>
          Keeps.pure true
    rw [standing.speed]
    dsimp only
    rw [runSteps_eq]
    refine leads_catchUp driven positive (leads_runStep driven) ?_
    exact Leads.pure fun _ standing => ⟨rfl, standing⟩

end Clocked
end Chip8
