import Chip8.Proofs.Time.Poll
/-!
# The pace of the clock

A clock with a speed, polled at times that do not go back, neither races nor lags
(`pace_of_polls`): no poll makes more than a quarter of a second's worth of ticks or of
steps at once, and one more; all of them together are no more than there was time for since
the start; and after a poll nothing is left due, and everything falls due within a period.
Polled at least four times a second it does not lag at all (`counts_of_polls`): the ticks
and the steps are then those of the whole periods since the start, however the polls lay.

Each result is an invariant of the schedule and the tally that a poll keeps (`InTime`,
`OnTime`), carried through all polls but the last by `Standing.exists_last`.
-/

namespace Chip8
namespace Clocked

open Operation Exact

variable {ε σ : Type} {speed : ℕ} {driven : Driven ε σ ℚ} {t₀ p now t : ℚ}
variable {schedule : Schedule ℚ} {tally : Tally} {times earlier : List ℚ}

/-! ## Undisturbed polls -/

/-- A clock that is started over a system that has not been called yet. -/
def opened (clock : Clock ℚ) (system : σ) (t₀ : ℚ) : Clocked ℚ (Tallied σ) :=
  ⟨clock.start t₀, .fresh system⟩

theorem standing_opened {clock : Clock ℚ} (capped : clock.speed = some speed) (system : σ)
    (t₀ : ℚ) : Standing speed (Clock.scheduleFrom t₀) ⟨0, 0, 0⟩ (opened clock system t₀) :=
  ⟨capped, rfl, rfl⟩

/-- **Nothing disturbs the polls**: none of the operations that they call for fails, and the
user does not quit. -/
def Calm (driven : Driven ε σ ℚ) (times : List ℚ) (start : Clocked ℚ (Tallied σ)) : Prop :=
  ¬ Disturbed (left (pollAll driven.tallied times start))

/-- A driven system that never fails, and whose user does not quit. -/
structure Untroubled (driven : Driven ε σ ℚ) : Prop where
  step : ∀ system, ∃ result after, driven.step system = .ok result after
  tick : ∀ system, ∃ result after, driven.tick system = .ok result after
  pollInputs : ∀ system, ∃ after, driven.pollInputs system = .ok false after
  refresh : ∀ system, ∃ result after, driven.refresh system = .ok result after
  report : ∀ fps ops system, ∃ result after, driven.report fps ops system = .ok result after
  note : ∀ entry system, ∃ result after, driven.note entry system = .ok result after

theorem keeps_observe_calm {α : Type} (count : Tally → Tally) {quits : α → Bool}
    {operation : EStateM ε σ α}
    (fine : ∀ system, ∃ result after, operation system = .ok result after ∧
      quits result = false) :
    Keeps (fun tallied => tallied.disturbed = false) (Tallied.observe count quits operation) := by
  rintro ⟨system, tally, _⟩ rfl
  obtain ⟨result, after, run, goesOn⟩ := fine system
  dsimp only [Tallied.observe]
  rw [run]
  exact goesOn

/-- No polls disturb such a system. -/
theorem Untroubled.calm (untroubled : Untroubled driven) (times : List ℚ) (clock : Clock ℚ)
    (system : σ) (t₀ : ℚ) : Calm driven times (opened clock system t₀) := by
  have fine {α : Type} {operation : EStateM ε σ α}
      (succeeds : ∀ system, ∃ result after, operation system = .ok result after) :
      ∀ system, ∃ result after, operation system = .ok result after ∧ false = false := by
    intro system
    obtain ⟨result, after, run⟩ := succeeds system
    exact ⟨result, after, run, rfl⟩
  have answered : ∀ system, ∃ result after, driven.pollInputs system = .ok result after ∧
      result = false := by
    intro system
    obtain ⟨after, run⟩ := untroubled.pollInputs system
    exact ⟨false, after, run, rfl⟩
  have confines : Confines (fun tallied => tallied.disturbed = false) (fun _ => True)
      driven.tallied := {
    step := (keeps_observe_calm _ (fine untroubled.step)).confined
    tick := (keeps_observe_calm _ (fine untroubled.tick)).confined
    pollInputs := (keeps_observe_calm _ answered).confined
    refresh := (keeps_observe_calm _ (fine untroubled.refresh)).confined
    report := fun fps ops => (keeps_observe_calm _ (fine (untroubled.report fps ops))).confined
    note := fun entry => (keeps_observe_calm _ (fine (untroubled.note entry))).confined }
  have still := (confined_pollAll confines times).keeps (opened clock system t₀) rfl
  exact ne_true_of_eq_false still

/-- A system that does nothing. -/
def idle : Driven Empty Unit ℚ where
  step := pure true
  tick := pure ()
  pollInputs := pure false
  refresh := pure ()
  report _ _ := pure ()
  note _ := pure ()
  now := pure 0
  rest := pure ()

theorem untroubled_idle : Untroubled idle where
  step _ := ⟨true, (), rfl⟩
  tick _ := ⟨(), (), rfl⟩
  pollInputs _ := ⟨(), rfl⟩
  refresh _ := ⟨(), (), rfl⟩
  report _ _ _ := ⟨(), (), rfl⟩
  note _ _ := ⟨(), (), rfl⟩

/-! ## Polls one after another -/

theorem pollAll_cons_of_ok {driven : Driven ε σ ℚ} {before after : Clocked ℚ σ}
    (run : poll driven now before = .ok true after) (later : List ℚ) :
    pollAll driven (now :: later) before = pollAll driven later after := by
  rw [pollAll, bind_of_ok run, if_pos rfl]

/-- **The first of calm polls** goes on, and leaves the others calm. -/
theorem Standing.poll_of_calm {before : Clocked ℚ (Tallied σ)}
    (standing : Standing speed schedule tally before) (positive : 0 < speed)
    (calm : Calm driven (now :: times) before) :
    ∃ after, poll driven.tallied now before = .ok true after ∧
      Standing speed (moved speed now schedule) (polled speed now schedule tally) after ∧
      Calm driven times after := by
  rcases (leads_poll driven positive now).leads before standing with
    escaped | ⟨goesOn, after, run, rfl, stands⟩
  · -- there is no way back to calm
    refine absurd ?_ calm
    unfold pollAll
    cases run : poll driven.tallied now before with
    | ok goesOn after =>
      rw [run] at escaped
      rw [bind_of_ok run]
      cases goesOn with
      | true => exact (confined_pollAll (confines_disturbed driven) times).keeps after escaped
      | false => exact escaped
    | error fault after =>
      rw [run] at escaped
      rw [bind_of_error run]
      exact escaped
  · refine ⟨after, run, stands, ?_⟩
    unfold Calm at calm
    rwa [pollAll_cons_of_ok run] at calm

/-- **The last of calm polls**: where it finds the clock, and where it leaves it. What each
poll at a time that may come next keeps holds when it begins. -/
theorem Standing.exists_last {next : ℚ → ℚ → Prop} {holds : ℚ → Schedule ℚ → Tally → Prop}
    (positive : 0 < speed)
    (kept : ∀ p now schedule tally, next p now → holds p schedule tally →
      holds now (moved speed now schedule) (polled speed now schedule tally))
    {start : Clocked ℚ (Tallied σ)} (standing : Standing speed schedule tally start)
    (first : holds p schedule tally) (follow : (p :: (earlier ++ [t])).IsChain next)
    (calm : Calm driven (earlier ++ [t]) start) :
    ∃ before after was already last,
      pollAll driven.tallied earlier start = .ok true before ∧
      poll driven.tallied t before = .ok true after ∧
      pollAll driven.tallied (earlier ++ [t]) start = .ok true after ∧
      next last t ∧ holds last was already ∧ Standing speed was already before ∧
      Standing speed (moved speed t was) (polled speed t was already) after := by
  induction earlier generalizing p schedule tally start with
  | nil =>
    obtain ⟨comes, -⟩ := List.isChain_cons_cons.1 follow
    obtain ⟨after, run, stands, -⟩ := standing.poll_of_calm positive calm
    have all : pollAll driven.tallied [t] start = .ok true after := pollAll_cons_of_ok run []
    exact ⟨start, after, schedule, tally, p, rfl, run, all, comes, first, standing, stands⟩
  | cons now earlier ih =>
    obtain ⟨comes, follow⟩ := List.isChain_cons_cons.1 follow
    obtain ⟨middle, run, stands, calm⟩ := standing.poll_of_calm positive calm
    have later := kept p now schedule tally comes first
    rw [List.cons_append, pollAll_cons_of_ok run, pollAll_cons_of_ok run]
    exact ih stands later follow calm

/-! ## Neither racing nor lagging -/

theorem polled_ticks (speed : ℕ) (now : ℚ) (schedule : Schedule ℚ) (tally : Tally) :
    (polled speed now schedule tally).ticks =
      tally.ticks + caughtUp Clock.frameRate now schedule.tick := by
  unfold polled noted
  split <;> split <;> rfl

theorem polled_steps (speed : ℕ) (now : ℚ) (schedule : Schedule ℚ) (tally : Tally) :
    (polled speed now schedule tally).steps = tally.steps + caughtUp speed now schedule.step := by
  unfold polled noted
  split <;> split <;> rfl

/-- A poll notes a lag, and nothing else. -/
theorem polled_notes (tick : now - schedule.tick ≤ 1 / 4) (step : now - schedule.step ≤ 1 / 4) :
    (polled speed now schedule tally).notes = tally.notes := by
  unfold polled noted
  rw [if_neg (not_lt.2 tick), if_neg (not_lt.2 step)]
  rfl

theorem le_add_period (t : ℚ) (rate : ℕ) : t ≤ t + 1 / rate :=
  le_add_of_nonneg_right (by positivity)

/-- **The clock has not raced**: neither ticks nor steps have, nor is the display due later
than a period from now. -/
structure InTime (speed : ℕ) (t₀ now : ℚ) (schedule : Schedule ℚ) (tally : Tally) : Prop where
  ticks : Timely Clock.frameRate (t₀ + 1 / Clock.frameRate) now schedule.tick tally.ticks
  steps : Timely speed t₀ now schedule.step tally.steps
  display : schedule.display ≤ now + 1 / Clock.frameRate

theorem InTime.start (speed : ℕ) (t₀ : ℚ) :
    InTime speed t₀ t₀ (Clock.scheduleFrom t₀) ⟨0, 0, 0⟩ where
  ticks := (Punctual.start (le_add_period t₀ _) (le_refl _)).timely
  steps := (Punctual.start (le_refl t₀) (le_add_period t₀ speed)).timely
  display := le_add_period t₀ Clock.frameRate

theorem InTime.poll (positive : 0 < speed) (forth : p ≤ now)
    (inTime : InTime speed t₀ p schedule tally) :
    InTime speed t₀ now (moved speed now schedule) (polled speed now schedule tally) := by
  constructor
  · rw [polled_ticks]
    exact inTime.ticks.onward frameRate_pos forth
  · rw [polled_steps]
    exact inTime.steps.onward positive forth
  · change (if schedule.display ≤ now then now + 1 / Clock.frameRate else schedule.display) ≤ _
    split
    · exact le_refl _
    · have display := inTime.display
      linarith

/-- **The pace of a poll** at a time, given what is due and the tally before and after: its
bursts are short, what is missed by more than a quarter of a second is dropped but for one
run, there was time for all runs since the start, and each schedule is due next after the
present, but not later than one period. -/
structure InPace (speed : ℕ) (t₀ t : ℚ) (was : Schedule ℚ) (already : Tally)
    (becomes : Schedule ℚ) (total : Tally) : Prop where
  ticks_le : total.ticks ≤ already.ticks + 16
  steps_le : total.steps ≤ already.steps + (speed / 4 + 1)
  ticks_of_lag : 1 / 4 < t - was.tick → total.ticks = already.ticks + 1
  steps_of_lag : 1 / 4 < t - was.step → total.steps = already.steps + 1
  ticks_in_all : (total.ticks : ℚ) ≤ 60 * (t - t₀)
  steps_in_all : (total.steps : ℚ) ≤ speed * (t - t₀) + 1
  tick : t < becomes.tick ∧ becomes.tick ≤ t + 1 / 60
  step : t < becomes.step ∧ becomes.step ≤ t + 1 / speed
  display : t < becomes.display ∧ becomes.display ≤ t + 1 / 60

theorem cast_frameRate : ((Clock.frameRate : ℕ) : ℚ) = 60 := by norm_num [Clock.frameRate]

theorem lt_moved_display (now : ℚ) (schedule : Schedule ℚ) :
    now < (moved speed now schedule).display := by
  change now < if schedule.display ≤ now then now + 1 / Clock.frameRate else schedule.display
  rw [cast_frameRate]
  split <;> linarith

theorem InTime.inPace (positive : 0 < speed) (forth : p ≤ t)
    (inTime : InTime speed t₀ p schedule tally) :
    InPace speed t₀ t schedule tally (moved speed t schedule) (polled speed t schedule tally) := by
  have after := inTime.poll positive forth
  have ticks := after.ticks
  have ticks_in_all := ticks.count_le frameRate_pos
  have tick_soon := ticks.soon
  have display_soon := after.display
  rw [cast_frameRate] at ticks_in_all tick_soon display_soon
  constructor
  · rw [polled_ticks]
    exact Nat.add_le_add_left (caughtUp_le Clock.frameRate t schedule.tick) _
  · rw [polled_steps]
    exact Nat.add_le_add_left (caughtUp_le speed t schedule.step) _
  · intro lag
    rw [polled_ticks, caughtUp_of_lag lag]
  · intro lag
    rw [polled_steps, caughtUp_of_lag lag]
  · linarith
  · exact after.steps.count_le positive
  · exact ⟨lt_onward frameRate_pos t schedule.tick, tick_soon⟩
  · exact ⟨lt_onward positive t schedule.step, after.steps.soon⟩
  · exact ⟨lt_moved_display t schedule, display_soon⟩

/-- **The clock neither races nor lags.** Of polls at times that do not go back, however far
apart, each goes on and is in pace, as long as none of the operations fails and the user does
not quit. The polls come to the same without the tally. -/
theorem pace_of_polls {clock : Clock ℚ} (capped : clock.speed = some speed)
    (positive : 0 < speed) (forth : (t₀ :: (earlier ++ [t])).IsChain (· ≤ ·)) {system : σ}
    (calm : Calm driven (earlier ++ [t]) (opened clock system t₀)) :
    ∃ before after was becomes,
      pollAll driven.tallied earlier (opened clock system t₀) = .ok true before ∧
      poll driven.tallied t before = .ok true after ∧
      pollAll driven (earlier ++ [t]) ⟨clock.start t₀, system⟩ =
        .ok true ⟨after.clock, after.system.system⟩ ∧
      before.clock.schedule = some was ∧ after.clock.schedule = some becomes ∧
      InPace speed t₀ t was before.system.tally becomes after.system.tally := by
  obtain ⟨before, after, was, already, last, front, run, all, comes, inTime, stood, stands⟩ :=
    (standing_opened capped system t₀).exists_last positive (fun _ _ _ _ => InTime.poll positive)
      (InTime.start speed t₀) forth calm
  refine ⟨before, after, was, _, front, run, ?_, stood.schedule, stands.schedule, ?_⟩
  · exact pollAll_of_tallied all
  · rw [stood.tally, stands.tally]
    exact inTime.inPace positive comes

/-- A stall of a hundred seconds is not replayed: one tick is made, and one step. -/
theorem pace_of_stall :
    ∃ before after,
      pollAll idle.tallied [0] (opened ⟨some 500, none, 0, 0⟩ () 0) = .ok true before ∧
      poll idle.tallied 100 before = .ok true after ∧
      after.system.tally.ticks = 1 ∧ after.system.tally.steps ≤ 2 := by
  have calm (times : List ℚ) : Calm idle times (opened ⟨some 500, none, 0, 0⟩ () 0) :=
    untroubled_idle.calm times _ _ _
  obtain ⟨_, first, _, opening, ⟨⟩, run, -, -, opens, begun⟩ :=
    @pace_of_polls Empty Unit 500 idle 0 0 [] ⟨some 500, none, 0, 0⟩ rfl (by decide)
      (by norm_num) () (calm [0])
  obtain ⟨before, after, was, _, front, stalled, -, scheduled, -, pace⟩ :=
    @pace_of_polls Empty Unit 500 idle 0 100 [0] ⟨some 500, none, 0, 0⟩ rfl (by decide)
      (by norm_num) () (calm [0, 100])
  -- the second poll begins where the first one ends
  obtain rfl : first = before := by
    rw [pollAll_cons_of_ok run] at front
    injection front
  obtain rfl : opening = was := Option.some.inj (opens.symm.trans scheduled)
  refine ⟨first, after, front, stalled, ?_, ?_⟩
  · have ticks := begun.ticks_in_all
    have soon := begun.tick.2
    have zero : first.system.tally.ticks = 0 := by
      have : ((first.system.tally.ticks : ℕ) : ℚ) ≤ (0 : ℕ) := by linarith
      exact Nat.le_zero.1 (Nat.cast_le.1 this)
    rw [pace.ticks_of_lag (by linarith), zero]
  · have steps := begun.steps_in_all
    have soon := begun.step.2
    have one : first.system.tally.steps ≤ 1 := by
      have : ((first.system.tally.steps : ℕ) : ℚ) ≤ (1 : ℕ) := by
        push_cast at *
        linarith
      exact Nat.cast_le.1 this
    rw [pace.steps_of_lag (by push_cast at soon; linarith)]
    omega

/-! ## As many runs as there was time for -/

/-- **The clock keeps time**: ticks and steps do, and no lag has been noted. -/
structure OnTime (speed : ℕ) (t₀ now : ℚ) (schedule : Schedule ℚ) (tally : Tally) : Prop where
  ticks : Punctual Clock.frameRate (t₀ + 1 / Clock.frameRate) now schedule.tick tally.ticks
  steps : Punctual speed t₀ now schedule.step tally.steps
  notes : tally.notes = 0

theorem OnTime.start (speed : ℕ) (t₀ : ℚ) :
    OnTime speed t₀ t₀ (Clock.scheduleFrom t₀) ⟨0, 0, 0⟩ where
  ticks := Punctual.start (le_add_period t₀ _) (le_refl _)
  steps := Punctual.start (le_refl t₀) (le_add_period t₀ speed)
  notes := rfl

/-- The next poll comes no earlier, and within a quarter of a second. -/
def Soon (p now : ℚ) : Prop := p ≤ now ∧ now - p ≤ 1 / 4

theorem OnTime.poll (positive : 0 < speed) (soon : Soon p now)
    (onTime : OnTime speed t₀ p schedule tally) :
    OnTime speed t₀ now (moved speed now schedule) (polled speed now schedule tally) := by
  obtain ⟨forth, near⟩ := soon
  constructor
  · rw [polled_ticks]
    exact onTime.ticks.onward frameRate_pos forth near
  · rw [polled_steps]
    exact onTime.steps.onward positive forth near
  · rw [polled_notes (onTime.ticks.lag_le near) (onTime.steps.lag_le near)]
    exact onTime.notes

/-- **The counts after a poll** at a time: no lag has been noted, the ticks and the steps are
those of the whole periods since the start, and the next ones are due just where they would
be if each had been run at its time. -/
structure Counted (speed : ℕ) (t₀ t : ℚ) (schedule : Schedule ℚ) (tally : Tally) : Prop where
  notes : tally.notes = 0
  ticks : (tally.ticks : ℤ) = ⌊60 * (t - t₀)⌋
  steps : (tally.steps : ℤ) = ⌊speed * (t - t₀)⌋ + 1
  tick : schedule.tick = t₀ + (tally.ticks + 1) / 60
  step : schedule.step = t₀ + tally.steps / speed

theorem OnTime.counted (positive : 0 < speed) (soon : Soon p t)
    (onTime : OnTime speed t₀ p schedule tally) :
    Counted speed t₀ t (moved speed t schedule) (polled speed t schedule tally) := by
  have after := onTime.poll positive soon
  obtain ⟨ticks, steps, notes⟩ := after
  have tick_due : t < (moved speed t schedule).tick := lt_onward frameRate_pos t schedule.tick
  have step_due : t < (moved speed t schedule).step := lt_onward positive t schedule.step
  have tick_count := count_eq_floor frameRate_pos ticks.count tick_due ticks.soon
  have tick_exact := ticks.count
  rw [cast_frameRate] at tick_count tick_exact
  have shifted : 60 * (t - (t₀ + 1 / 60)) = 60 * (t - t₀) - 1 := by ring
  have speed_pos : (0 : ℚ) < speed := Nat.cast_pos.2 positive
  refine ⟨notes, ?_, count_eq_floor positive steps.count step_due steps.soon, ?_, ?_⟩
  · rw [tick_count, shifted, Int.floor_sub_one, sub_add_cancel]
  · linarith
  · rw [steps.count]
    field_simp
    ring

/-- The counts are settled by the time. -/
theorem Counted.tally_eq {schedule' : Schedule ℚ} {tally' : Tally}
    (counted : Counted speed t₀ t schedule tally) (counted' : Counted speed t₀ t schedule' tally') :
    tally' = tally := by
  obtain ⟨notes, ticks, steps, -, -⟩ := counted
  obtain ⟨notes', ticks', steps', -, -⟩ := counted'
  cases tally
  cases tally'
  simp only [Tally.mk.injEq]
  dsimp only at *
  omega

theorem exists_counted {clock : Clock ℚ} (capped : clock.speed = some speed)
    (positive : 0 < speed) (often : (t₀ :: (earlier ++ [t])).IsChain Soon) {system : σ}
    (calm : Calm driven (earlier ++ [t]) (opened clock system t₀)) :
    ∃ after schedule,
      pollAll driven.tallied (earlier ++ [t]) (opened clock system t₀) = .ok true after ∧
      after.clock.schedule = some schedule ∧ Counted speed t₀ t schedule after.system.tally := by
  obtain ⟨-, after, was, already, last, -, -, all, soon, onTime, -, stands⟩ :=
    (standing_opened capped system t₀).exists_last positive (fun _ _ _ _ => OnTime.poll positive)
      (OnTime.start speed t₀) often calm
  refine ⟨after, moved speed t was, all, stands.schedule, ?_⟩
  rw [stands.tally]
  exact onTime.counted positive soon

/-- **The counts do not depend on how often the clock is polled.** After polls that are never
more than a quarter of a second apart the ticks and the steps are those of the whole periods
since the start, as long as none of the operations fails and the user does not quit; so any
other such polls until the same time come to the same counts. -/
theorem counts_of_polls {clock : Clock ℚ} (capped : clock.speed = some speed)
    (positive : 0 < speed) (often : (t₀ :: (earlier ++ [t])).IsChain Soon) {system : σ}
    (calm : Calm driven (earlier ++ [t]) (opened clock system t₀)) :
    ∃ after schedule,
      pollAll driven.tallied (earlier ++ [t]) (opened clock system t₀) = .ok true after ∧
      pollAll driven (earlier ++ [t]) ⟨clock.start t₀, system⟩ =
        .ok true ⟨after.clock, after.system.system⟩ ∧
      after.clock.schedule = some schedule ∧ Counted speed t₀ t schedule after.system.tally ∧
      ∀ others, (t₀ :: (others ++ [t])).IsChain Soon →
        Calm driven (others ++ [t]) (opened clock system t₀) →
        ∃ after', pollAll driven.tallied (others ++ [t]) (opened clock system t₀) =
            .ok true after' ∧ after'.system.tally = after.system.tally := by
  obtain ⟨after, schedule, all, scheduled, counted⟩ := exists_counted capped positive often calm
  refine ⟨after, schedule, all, pollAll_of_tallied all, scheduled, counted, ?_⟩
  intro others often calm
  obtain ⟨after', schedule', all', -, counted'⟩ := exists_counted capped positive often calm
  exact ⟨after', all', counted.tally_eq counted'⟩

/-- Half a second at 500 steps a second, in two polls a quarter of a second apart. -/
theorem counts_of_two :
    ∃ after, pollAll idle.tallied [1 / 4, 1 / 2] (opened ⟨some 500, none, 0, 0⟩ () 0) =
        .ok true after ∧ after.system.tally = ⟨30, 251, 0⟩ := by
  obtain ⟨after, schedule, run, -, -, counted, -⟩ :=
    @counts_of_polls Empty Unit 500 idle 0 (1 / 2) [1 / 4] ⟨some 500, none, 0, 0⟩ rfl (by decide)
      (by norm_num [Soon]) () (untroubled_idle.calm _ _ _ _)
  refine ⟨after, run, ?_⟩
  obtain ⟨notes, ticks, steps, -, -⟩ := counted
  norm_num at ticks steps
  cases counts : after.system.tally with
  | mk ticked stepped noted =>
    rw [counts] at notes ticks steps
    dsimp only at notes ticks steps
    subst notes
    norm_cast at ticks steps
    rw [ticks, steps]

end Clocked
end Chip8
