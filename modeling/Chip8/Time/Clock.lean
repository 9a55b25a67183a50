import Chip8.Journal
import Chip8.Time.Scale
/-!
# The clock

Three schedules drive a system from outside: steps at the clock speed, ticks
at 60 a second, and the display, with the key events, at 60 a second. A poll
runs whatever is due at a given time. Steps and ticks that the host missed
are caught up with in a burst; a lag of more than a quarter of a second is
dropped and the schedule starts afresh at the present time.

A speed of zero or less is uncapped: one step is run at each poll. Once a
second the counts of frames and of instructions since the last report are
reported.

The clock knows the system only through `Driven`, and times only through
`TimeScale`. A failing operation of the system ends the poll at once, and
what the poll did to the schedules until then stays.
-/

namespace Chip8

/-- The times at which things fall due next. -/
structure Schedule (τ : Type) where
  step : τ
  tick : τ
  display : τ
  report : τ
  deriving DecidableEq, Repr

/-- The clock. It has no schedule before it is started. -/
structure Clock (τ : Type) where
  /-- Instructions a second; none if uncapped. -/
  speed : Option Nat
  schedule : Option (Schedule τ)
  /-- Frames since the last report. -/
  frames : Nat
  /-- Instructions since the last report. -/
  ops : Nat
  deriving DecidableEq, Repr

/-- What the clock asks of the system that it drives. -/
structure Driven (ε σ τ : Type) where
  /-- Runs one instruction; tells whether one was run. -/
  step : EStateM ε σ Bool
  /-- Counts the timers down. -/
  tick : EStateM ε σ Unit
  /-- Delivers the key events; tells whether the user quits. -/
  pollInputs : EStateM ε σ Bool
  /-- Repaints. -/
  refresh : EStateM ε σ Unit
  /-- Reports frames and instructions per second. -/
  report (fps ops : Int) : EStateM ε σ Unit
  /-- Notes an entry in the journal. -/
  note (entry : Entry) : EStateM ε σ Unit
  /-- The time now. -/
  now : EStateM ε σ τ
  /-- Gives a thousandth of a second back to the host. -/
  rest : EStateM ε σ Unit

/-- A clock and the system that it drives. -/
structure Clocked (τ σ : Type) where
  clock : Clock τ
  system : σ

namespace Clock

/-- The usual clock speed. -/
def usualSpeed : Nat := 500

/-- The rate of the timers, and of the display. -/
def frameRate : Nat := 60

/-- A lag of more than one part in this many of a second is dropped. -/
def patience : Nat := 4

/-- The clock rests for one part in this many of a second. -/
def restRate : Nat := 1000

/-- The speed was too large for the time scale. -/
inductive SpeedError where
  | overflow
  deriving DecidableEq, Repr

/-- How many runs of a schedule one poll may catch up with. A schedule that
lags by a quarter of a second at most stays well below it. -/
def catchUpLimit (rate : Nat) : Nat := rate / 2 + 2

variable {ε σ τ α : Type} [TimeScale τ]

/-- A clock that has not been started, at a speed or at the usual one. -/
def create (speed : Option Int) : Except SpeedError (Clock τ) :=
  let speed := speed.getD usualSpeed
  if speed ≤ 0 then .ok ⟨none, none, 0, 0⟩
  else if TimeScale.admits τ speed.toNat then .ok ⟨some speed.toNat, none, 0, 0⟩
  else .error .overflow

/-- The time between two steps. -/
def interval (clock : Clock τ) : Option τ :=
  clock.speed.map TimeScale.period

/-- The schedule of a clock that is started. -/
def scheduleFrom (now : τ) : Schedule τ :=
  ⟨now, now + TimeScale.period frameRate, now, now + TimeScale.period 1⟩

/-- Starts the clock. -/
def start (now : τ) (clock : Clock τ) : Clock τ :=
  { clock with schedule := some (scheduleFrom now) }

/-- Changes the schedule of a started clock. -/
def reschedule (change : Schedule τ → Schedule τ) (clock : Clock τ) : Clock τ :=
  { clock with schedule := clock.schedule.map change }

/-- A time of the schedule has come. -/
def isDue (time : Schedule τ → τ) (now : τ) (clock : Clock τ) : Bool :=
  match clock.schedule with
  | some schedule => time schedule ≤ now
  | none => false

end Clock

namespace Clocked

open Clock

variable {ε σ τ α : Type}

/-- An operation of the system. -/
def onSystem (operation : EStateM ε σ α) : EStateM ε (Clocked τ σ) α :=
  fun ⟨clock, system⟩ =>
    match operation system with
    | .ok result system => .ok result ⟨clock, system⟩
    | .error error system => .error error ⟨clock, system⟩

/-- A change of the clock. -/
def updateClock (change : Clock τ → Clock τ) : EStateM ε (Clocked τ σ) Unit :=
  modify fun clocked => { clocked with clock := change clocked.clock }

variable [TimeScale τ] (driven : Driven ε σ τ)

/-- Reports how fast the system ran, once a second. -/
def reportIfDue (now : τ) : EStateM ε (Clocked τ σ) Unit := do
  if (← get).clock.isDue Schedule.report now then
    updateClock (reschedule ({ · with report := now + TimeScale.period 1 }))
    let clock := (← get).clock
    onSystem (driven.report clock.frames clock.ops)
    updateClock ({ · with frames := 0, ops := 0 })

/-- Delivers the key events and repaints, if that is due. The result tells
whether the user quits. -/
def displayIfDue (now : τ) : EStateM ε (Clocked τ σ) Bool := do
  if (← get).clock.isDue Schedule.display now then
    if ← onSystem driven.pollInputs then return true
    updateClock (reschedule ({ · with display := now + TimeScale.period frameRate }))
    onSystem driven.refresh
    updateClock fun clock => { clock with frames := clock.frames + 1 }
  return false

/-- Drops a lag of more than a quarter of a second. -/
def resync (time : Schedule τ → τ) (change : τ → Schedule τ → Schedule τ) (now : τ) :
    EStateM ε (Clocked τ σ) Unit := do
  match (← get).clock.schedule with
  | none => pure ()
  | some schedule =>
    let lag := now - time schedule
    if lag > TimeScale.period patience then
      onSystem (driven.note ⟨.debug,
        "Clock fell " ++ TimeScale.toThousandths lag ++ "s behind, resynchronising"⟩)
      updateClock (reschedule (change now))

/-- Runs the ticks that are due, at most so many. -/
def runTicks (now : τ) : Nat → EStateM ε (Clocked τ σ) Unit
  | 0 => pure ()
  | limit + 1 => do
    if (← get).clock.isDue Schedule.tick now then
      onSystem driven.tick
      updateClock (reschedule fun schedule =>
        { schedule with tick := schedule.tick + TimeScale.period frameRate })
      runTicks now limit

/-- Runs one step and counts the instruction, if one was run. -/
def runStep : EStateM ε (Clocked τ σ) Unit := do
  if ← onSystem driven.step then
    updateClock fun clock => { clock with ops := clock.ops + 1 }

/-- Runs the steps that are due at a speed, at most so many. -/
def runSteps (now : τ) (speed : Nat) : Nat → EStateM ε (Clocked τ σ) Unit
  | 0 => pure ()
  | limit + 1 => do
    if (← get).clock.isDue Schedule.step now then
      runStep driven
      updateClock (reschedule fun schedule =>
        { schedule with step := schedule.step + TimeScale.period speed })
      runSteps now speed limit

/-- Starts the clock if it has not been started. -/
def ensureStarted (now : τ) : EStateM ε (Clocked τ σ) Unit := do
  if (← get).clock.schedule.isNone then updateClock (Clock.start now)

/-- Runs whatever is due. The result is false if the user quits, and then
neither ticks nor steps are run. -/
def poll (now : τ) : EStateM ε (Clocked τ σ) Bool := do
  ensureStarted now
  reportIfDue driven now
  if ← displayIfDue driven now then return false
  resync driven Schedule.tick (fun time schedule => { schedule with tick := time }) now
  runTicks driven now (catchUpLimit frameRate)
  match (← get).clock.speed with
  | none => runStep driven
  | some speed =>
    resync driven Schedule.step (fun time schedule => { schedule with step := time }) now
    runSteps driven now speed (catchUpLimit speed)
  return true

/-- The time at which something falls due next, reports apart. -/
def nextDue (schedule : Schedule τ) : τ :=
  TimeScale.earlier (TimeScale.earlier schedule.step schedule.tick) schedule.display

/-- Rests, if nothing is due soon. An uncapped clock never rests. -/
def restIfIdle : EStateM ε (Clocked τ σ) Unit := do
  let clock := (← get).clock
  if clock.speed.isSome then
    match clock.schedule with
    | none => pure ()
    | some schedule =>
      let now ← onSystem driven.now
      if nextDue schedule - now > TimeScale.period restRate then
        onSystem driven.rest

/-- One turn of the loop: a poll, and a rest if nothing is due soon. The result
is false if the user quits. -/
def turn : EStateM ε (Clocked τ σ) Bool := do
  if ← poll driven (← onSystem driven.now) then
    restIfIdle driven
    return true
  else return false

/-- Turns until the user quits, at most so many times. -/
def turnUntilQuit : Nat → EStateM ε (Clocked τ σ) Unit
  | 0 => pure ()
  | limit + 1 => do
    if ← turn driven then turnUntilQuit limit

/-- Notes that the user has quit. -/
def noteQuit : EStateM ε (Clocked τ σ) Unit :=
  onSystem (driven.note ⟨.info, "Quit requested"⟩)

/-- Starts the clock and runs the system until the user quits; `limit` bounds
the number of turns. -/
def run (limit : Nat) : EStateM ε (Clocked τ σ) Unit := do
  let now ← onSystem driven.now
  updateClock (Clock.start now)
  turnUntilQuit driven limit
  noteQuit driven

end Clocked
end Chip8
