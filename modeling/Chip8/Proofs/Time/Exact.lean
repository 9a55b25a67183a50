import Mathlib.Data.Rat.Floor
import Mathlib.Tactic.FieldSimp
import Mathlib.Tactic.Linarith
import Mathlib.Tactic.Ring
import Chip8.Time.Clock
/-!
# Exact times

Rational numbers are a time scale on which nothing is rounded. This module is about one
schedule on that scale, which runs so many times a second: `runs` is how often it is due
until a given time, `resynced` what is left of a lag, and `onward` the time at which it is
due next when all that is due has been run. A poll runs it at most a quarter of a second's
worth of times, and once more (`caughtUp_le`), and leaves it due after the time of the poll,
and not later than one period after it (`lt_onward`, `onward_le`). Over many polls a schedule
stays `Timely`, and `Punctual` if none of them comes late.
-/

namespace Chip8
namespace TimeScale

/-- Rational times: every rate has a period, and it is exact. -/
instance : TimeScale ℚ where
  le_decidable := inferInstance
  lt_decidable := inferInstance
  period rate := 1 / rate
  admits _ := true
  toThousandths time :=
    (if time < 0 then "-" else "") ++
      Double.thousandths (Double.roundDiv (time.num.natAbs * 1000) time.den)

end TimeScale

namespace Exact

variable {rate n : ℕ} {now due base : ℚ}

/-! ## One schedule at one poll -/

/-- How many runs fall due until now, if the next one is due at the given time. -/
def runs (rate : ℕ) (now due : ℚ) : ℕ := (⌊rate * (now - due)⌋ + 1).toNat

/-- The time of the next run, after a lag of more than a quarter of a second is dropped. -/
def resynced (now due : ℚ) : ℚ := if 1 / 4 < now - due then now else due

/-- How many runs a poll makes. -/
def caughtUp (rate : ℕ) (now due : ℚ) : ℕ := runs rate now (resynced now due)

/-- The time of the next run after the poll. -/
def onward (rate : ℕ) (now due : ℚ) : ℚ := resynced now due + caughtUp rate now due / rate

/-- Nothing is due before its time. -/
theorem runs_eq_zero_iff (positive : 0 < rate) : runs rate now due = 0 ↔ now < due := by
  have rate_pos : (0 : ℚ) < rate := Nat.cast_pos.2 positive
  have early : ⌊rate * (now - due)⌋ < 0 ↔ now < due := by
    rw [Int.floor_lt, Int.cast_zero]
    constructor
    · intro negative
      by_contra late
      have := mul_nonneg rate_pos.le (sub_nonneg.2 (not_lt.1 late))
      linarith
    · intro less
      exact mul_neg_of_pos_of_neg rate_pos (sub_neg.2 less)
  unfold runs
  rw [← early]
  omega

/-- Each run leaves one less to be made. -/
theorem runs_of_succ (positive : 0 < rate) (more : runs rate now due = n + 1) :
    runs rate now (due + 1 / rate) = n := by
  have rate_pos : (0 : ℚ) < rate := Nat.cast_pos.2 positive
  have shifted : rate * (now - (due + 1 / rate)) = rate * (now - due) - 1 := by
    field_simp
    ring
  unfold runs at more ⊢
  rw [shifted, Int.floor_sub_one]
  omega

/-- The first run that is not made is due later than now. -/
theorem lt_add_runs (positive : 0 < rate) (now due : ℚ) : now < due + runs rate now due / rate := by
  have rate_pos : (0 : ℚ) < rate := Nat.cast_pos.2 positive
  have above : rate * (now - due) < runs rate now due := by
    have floor := Int.lt_floor_add_one ((rate : ℚ) * (now - due))
    have count : ⌊rate * (now - due)⌋ + 1 ≤ (runs rate now due : ℤ) := Int.self_le_toNat _
    have cast : ((⌊rate * (now - due)⌋ + 1 : ℤ) : ℚ) ≤ ((runs rate now due : ℤ) : ℚ) :=
      Int.cast_le.2 count
    push_cast at cast
    linarith
  have scaled : now - due < runs rate now due / rate := by
    rw [lt_div_iff₀ rate_pos]
    linarith
  linarith

/-- If anything is due, the last run made was due by now. -/
theorem add_runs_le (positive : 0 < rate) (some : due ≤ now) :
    due + runs rate now due / rate ≤ now + 1 / rate := by
  have rate_pos : (0 : ℚ) < rate := Nat.cast_pos.2 positive
  have nonneg : (0 : ℚ) ≤ rate * (now - due) := mul_nonneg rate_pos.le (by linarith)
  have below : (runs rate now due : ℚ) ≤ rate * (now - due) + 1 := by
    have floor := Int.floor_le ((rate : ℚ) * (now - due))
    have count : (runs rate now due : ℤ) = ⌊rate * (now - due)⌋ + 1 :=
      Int.toNat_of_nonneg (by have := Int.floor_nonneg.2 nonneg; omega)
    have cast : ((runs rate now due : ℤ) : ℚ) = ((⌊rate * (now - due)⌋ + 1 : ℤ) : ℚ) :=
      congrArg _ count
    push_cast at cast
    linarith
  have scaled : runs rate now due / rate ≤ now - due + 1 / rate := by
    rw [div_le_iff₀ rate_pos]
    field_simp
    linarith
  linarith

/-! ## After the lag is dropped -/

theorem resynced_of_lag (lag : 1 / 4 < now - due) : resynced now due = now := if_pos lag

theorem resynced_of_le (near : now - due ≤ 1 / 4) : resynced now due = due :=
  if_neg (not_lt.2 near)

theorem le_resynced (now due : ℚ) : due ≤ resynced now due := by
  unfold resynced
  split <;> linarith

theorem sub_resynced_le (now due : ℚ) : now - resynced now due ≤ 1 / 4 := by
  unfold resynced
  split <;> linarith

/-- **A lag is dropped but for one run.** -/
theorem caughtUp_of_lag (lag : 1 / 4 < now - due) : caughtUp rate now due = 1 := by
  rw [caughtUp, resynced_of_lag lag, runs, sub_self, mul_zero, Int.floor_zero]
  rfl

/-- **A burst is at most a quarter of a second's worth of runs**, and one more. -/
theorem caughtUp_le (rate : ℕ) (now due : ℚ) : caughtUp rate now due ≤ rate / 4 + 1 := by
  have near := sub_resynced_le now due
  have floor : ⌊rate * (now - resynced now due)⌋ ≤ (rate / 4 : ℕ) := by
    have quarter : rate * (now - resynced now due) ≤ (rate : ℚ) / (4 : ℕ) := by
      have := mul_le_mul_of_nonneg_left near (Nat.cast_nonneg rate : (0 : ℚ) ≤ rate)
      push_cast
      linarith
    calc ⌊rate * (now - resynced now due)⌋
        ≤ ⌊(rate : ℚ) / (4 : ℕ)⌋ := Int.floor_le_floor quarter
      _ = (rate / 4 : ℕ) := Rat.floor_natCast_div_natCast rate 4
  unfold caughtUp runs
  omega

theorem lt_onward (positive : 0 < rate) (now due : ℚ) : now < onward rate now due :=
  lt_add_runs positive now (resynced now due)

/-- A schedule that was not due later than one period from now is not so afterwards. -/
theorem onward_le (positive : 0 < rate) (soon : due ≤ now + 1 / rate) :
    onward rate now due ≤ now + 1 / rate := by
  unfold onward caughtUp
  rcases le_or_gt (resynced now due) now with some | none
  · exact add_runs_le positive some
  · -- nothing is due, and nothing was dropped
    have near : now - due ≤ 1 / 4 := by
      have := le_resynced now due
      by_contra lag
      rw [resynced_of_lag (not_le.1 lag)] at none
      exact absurd none (lt_irrefl now)
    rw [(runs_eq_zero_iff positive).2 none, resynced_of_le near, Nat.cast_zero, zero_div, add_zero]
    exact soon

/-! ## Counting the runs -/

/-- Where there was time for all runs so far there is time for those of the poll. -/
theorem count_le_onward {count : ℕ} (positive : 0 < rate) (now : ℚ)
    (timely : (count : ℚ) ≤ rate * (due - base)) :
    ((count + caughtUp rate now due : ℕ) : ℚ) ≤ rate * (onward rate now due - base) := by
  have rate_pos : (0 : ℚ) < rate := Nat.cast_pos.2 positive
  have later := mul_le_mul_of_nonneg_left (le_resynced now due) rate_pos.le
  have moved : rate * (onward rate now due - base) =
      rate * (resynced now due - base) + caughtUp rate now due := by
    unfold onward
    field_simp
    ring
  rw [moved]
  push_cast
  linarith

/-- Without a lag the runs of the poll take up just the time by which it moves on. -/
theorem count_eq_onward {count : ℕ} (positive : 0 < rate) (near : now - due ≤ 1 / 4)
    (exact : (count : ℚ) = rate * (due - base)) :
    ((count + caughtUp rate now due : ℕ) : ℚ) = rate * (onward rate now due - base) := by
  have rate_pos : (0 : ℚ) < rate := Nat.cast_pos.2 positive
  have moved : rate * (onward rate now due - base) =
      rate * (due - base) + caughtUp rate now due := by
    unfold onward
    rw [resynced_of_le near]
    field_simp
    ring
  rw [moved]
  push_cast
  linarith

/-- **The count in closed form.** Runs that have taken up just the time until the next one
is due are as many as there are whole periods until now, and one more. -/
theorem count_eq_floor {count : ℕ} (positive : 0 < rate)
    (exact : (count : ℚ) = rate * (due - base)) (after : now < due) (soon : due ≤ now + 1 / rate) :
    (count : ℤ) = ⌊rate * (now - base)⌋ + 1 := by
  have rate_pos : (0 : ℚ) < rate := Nat.cast_pos.2 positive
  have upper : rate * (now - base) < count := by
    have := mul_lt_mul_of_pos_left after rate_pos
    linarith
  have lower : (count : ℚ) - 1 ≤ rate * (now - base) := by
    have scaled := mul_le_mul_of_nonneg_left soon rate_pos.le
    have period : (rate : ℚ) * (now + 1 / rate) = rate * now + 1 := by field_simp
    linarith
  have floor : ⌊rate * (now - base)⌋ = (count : ℤ) - 1 := by
    rw [Int.floor_eq_iff]
    push_cast
    constructor <;> linarith
  omega

/-! ## One schedule over many polls -/

/-- **The schedule does not race**: there was time for all runs so far, and the next one is
due within a period. -/
structure Timely (rate : ℕ) (base now due : ℚ) (count : ℕ) : Prop where
  count : (count : ℚ) ≤ rate * (due - base)
  soon : due ≤ now + 1 / rate

/-- **The schedule keeps time**: the runs so far have taken up just the time until the next
one, which is not over yet. -/
structure Punctual (rate : ℕ) (base now due : ℚ) (count : ℕ) : Prop where
  count : (count : ℚ) = rate * (due - base)
  ahead : now ≤ due
  soon : due ≤ now + 1 / rate

variable {later : ℚ} {count : ℕ}

/-- Before its first run a schedule keeps time, if that run is due when the periods begin. -/
theorem Punctual.start (ahead : now ≤ base) (soon : base ≤ now + 1 / rate) :
    Punctual rate base now base 0 where
  count := by rw [sub_self, mul_zero, Nat.cast_zero]
  ahead := ahead
  soon := soon

theorem Punctual.timely (punctual : Punctual rate base now due count) :
    Timely rate base now due count where
  count := punctual.count.le
  soon := punctual.soon

theorem Timely.onward (timely : Timely rate base now due count) (positive : 0 < rate)
    (forth : now ≤ later) :
    Timely rate base later (onward rate later due) (count + caughtUp rate later due) where
  count := count_le_onward positive later timely.count
  soon := onward_le positive (by linarith [timely.soon])

/-- There are no more runs than there are periods since the first was due, that one apart. -/
theorem Timely.count_le (timely : Timely rate base now due count) (positive : 0 < rate) :
    (count : ℚ) ≤ rate * (now - base) + 1 := by
  have rate_pos : (0 : ℚ) < rate := Nat.cast_pos.2 positive
  calc (count : ℚ)
      ≤ rate * (due - base) := timely.count
    _ ≤ rate * (now + 1 / rate - base) :=
        mul_le_mul_of_nonneg_left (sub_le_sub_right timely.soon base) rate_pos.le
    _ = rate * (now - base) + 1 := by
        field_simp
        ring

theorem Punctual.lag_le (punctual : Punctual rate base now due count)
    (near : later - now ≤ 1 / 4) : later - due ≤ 1 / 4 := by
  have ahead := punctual.ahead
  linarith

theorem Punctual.onward (punctual : Punctual rate base now due count) (positive : 0 < rate)
    (forth : now ≤ later) (near : later - now ≤ 1 / 4) :
    Punctual rate base later (onward rate later due) (count + caughtUp rate later due) where
  count := count_eq_onward positive (punctual.lag_le near) punctual.count
  ahead := (lt_onward positive later due).le
  soon := onward_le positive (by linarith [punctual.soon])

end Exact
end Chip8
