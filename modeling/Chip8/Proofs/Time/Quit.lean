import Chip8.Proofs.Time.Upkeep
/-!
# A poll in which the user quits

The key events are asked for after the report and before anything is run or shown. So a
poll in which they hold a wish to quit leaves off there (`poll_of_quits`), and of the clock
only the report has been seen to (`schedule_afterReport`).
-/

namespace Chip8

/-- The clock after its report, if one is due. -/
def Clock.afterReport {τ : Type} [TimeScale τ] (now : τ) (clock : Clock τ) : Clock τ :=
  if clock.isDue Schedule.report now then
    { clock.reschedule ({ · with report := now + TimeScale.period 1 }) with frames := 0, ops := 0 }
  else clock

namespace Clocked

open Operation

variable {ε σ τ : Type} [TimeScale τ] {driven : Driven ε σ τ} {now : τ}
variable {clock : Clock τ} {schedule : Schedule τ}

theorem isDue_iff (started : clock.schedule = some schedule) (time : Schedule τ → τ) (now : τ) :
    clock.isDue time now = true ↔ time schedule ≤ now := by
  rw [Clock.isDue, started]
  exact decide_eq_true_iff

/-- A report puts off the next one, and nothing else. -/
theorem schedule_afterReport (started : clock.schedule = some schedule) (now : τ) :
    (clock.afterReport now).schedule = some { schedule with
      report := if schedule.report ≤ now then now + TimeScale.period 1 else schedule.report } := by
  have due := isDue_iff started Schedule.report now
  rw [Clock.afterReport]
  by_cases late : schedule.report ≤ now
  · rw [if_pos (due.2 late), if_pos late]
    exact congrArg (Option.map _) started
  · rw [if_neg (mt due.1 late), if_neg late]
    exact started

theorem reportIfDue_of_ok {before after : σ} (now : τ)
    (report : driven.report clock.frames clock.ops before = .ok () after) :
    reportIfDue driven now ⟨clock, before⟩ =
      .ok ()
        ⟨clock.afterReport now, if clock.isDue Schedule.report now then after else before⟩ := by
  rw [reportIfDue, get_bind_apply, Clock.afterReport]
  split
  · have told : onSystem (driven.report clock.frames clock.ops)
        ⟨clock.reschedule ({ · with report := now + TimeScale.period 1 }), before⟩ =
          .ok () ⟨clock.reschedule ({ · with report := now + TimeScale.period 1 }), after⟩ := by
      simp only [onSystem, report]
    exact bind_of_ok told
  · rfl

/-- **A poll leaves off once the key events hold a wish to quit.** What is left of the clock
is what the report has left, and of the system what the key events have. -/
theorem poll_of_quits {clocked told : Clocked τ σ} {after : σ}
    (started : clocked.clock.schedule = some schedule)
    (reported : reportIfDue driven now clocked = .ok () told)
    (due : told.clock.isDue Schedule.display now = true)
    (quits : driven.pollInputs told.system = .ok true after) :
    poll driven now clocked = .ok false ⟨told.clock, after⟩ := by
  have ready : ensureStarted (ε := ε) now clocked = .ok () clocked := by
    rw [ensureStarted, get_bind_apply, started]
    rfl
  have asked : onSystem driven.pollInputs told = .ok true ⟨told.clock, after⟩ := by
    simp only [onSystem, quits]
  have shown : displayIfDue driven now told = .ok true ⟨told.clock, after⟩ := by
    rw [displayIfDue, get_bind_apply, if_pos due, bind_of_ok asked]
    rfl
  rw [poll, bind_of_ok ready, bind_of_ok reported, bind_of_ok shown]
  rfl

end Clocked

end Chip8
