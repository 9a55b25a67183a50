import Chip8.Host.Event
import Chip8.Host.Timepiece
import Chip8.Machine.Step
import Chip8.Time.Clock
/-!
# The console

A machine with the key events that are still to come, batch by batch, and
the host's timepiece: the system that a clock drives. Being asked for key
events when there are none left gives an empty batch.
-/

namespace Chip8

/-- A machine, its key events and its time. -/
structure Console (δ : Type) where
  machine : Machine δ
  batches : List (List InputEvent)
  timepiece : Timepiece

/-- Why a run of a console ends other than by a wish to quit. -/
inductive Interruption where
  | crashed (crash : Crash)
  /-- The timepiece gives no time. -/
  | untimed (cause : TimeError)
  deriving DecidableEq, Repr

namespace Console

variable {δ α : Type}

/-- An operation of the machine. -/
def onMachine (operation : Machine.Running δ α) : EStateM Interruption (Console δ) α :=
  fun ⟨machine, batches, timepiece⟩ =>
    match operation machine with
    | .ok result machine => .ok result ⟨machine, batches, timepiece⟩
    | .error crash machine => .error (.crashed crash) ⟨machine, batches, timepiece⟩

/-- An operation of a part of the machine, outside an instruction. -/
def direct (operation : Operation (Machine δ) α) : EStateM Interruption (Console δ) α :=
  onMachine (Machine.direct operation)

/-- The batch of key events that comes next. -/
def nextBatch : EStateM Interruption (Console δ) (List InputEvent) := fun console =>
  .ok (console.batches.headD []) { console with batches := console.batches.tail }

/-- Reads the time. -/
def readTime : EStateM Interruption (Console δ) Float := fun console =>
  match console.timepiece.read with
  | .ok now timepiece => .ok now { console with timepiece := timepiece }
  | .error cause timepiece => .error (.untimed cause) { console with timepiece := timepiece }

/-- Asks for key events and delivers them. -/
def pollInputs : EStateM Interruption (Console δ) Bool := do
  direct (Machine.emit .polled)
  direct (InputEvent.deliverAll (← nextBatch))

variable [Display δ]

/-- A console as a clock drives it that reads the time in a given way, on any scale. -/
def timed {τ : Type} (reading : EStateM Interruption (Console δ) τ) :
    Driven Interruption (Console δ) τ where
  step := onMachine Machine.step
  tick := direct Machine.tick
  pollInputs := pollInputs
  refresh := direct Machine.refreshDisplay
  report := fun fps ops => direct (Machine.reportPerformance fps ops)
  note := fun entry => direct (Machine.emit (.noted entry))
  now := reading
  rest := modify fun console => { console with timepiece := console.timepiece.rest }

/-- A console as a clock drives it, by its own timepiece. -/
def driven : Driven Interruption (Console δ) Float := timed readTime

/-- A time in microseconds, as the clock takes it. -/
def timeOf (us : Int) : EStateM Interruption (Clocked Float (Console δ)) Float :=
  match Timepiece.ofMicroseconds us with
  | .ok time => pure time
  | .error cause => throw (.untimed cause)

/-- Starts a clock at a time in microseconds. -/
def startAt (us : Int) : EStateM Interruption (Clocked Float (Console δ)) Unit := do
  let time ← timeOf us
  Clocked.updateClock (Clock.start time)

/-- Polls a clock at a time in microseconds. -/
def pollAt (us : Int) : EStateM Interruption (Clocked Float (Console δ)) Bool := do
  Clocked.poll driven (← timeOf us)

/-- Runs a clock over a console until the user quits or the time is up. Each
poll reads the time, which bounds their number. -/
def run : EStateM Interruption (Clocked Float (Console δ)) Unit := do
  Clocked.run driven ((← get).system.timepiece.limit + 1)

/-- Runs a clock over a console, and tells whether it ended because the user
quit rather than because the time was up. -/
def runUntilTimeUp : EStateM Interruption (Clocked Float (Console δ)) Bool := fun clocked =>
  match run clocked with
  | .ok _ clocked => .ok true clocked
  | .error (.untimed .exhausted) clocked => .ok false clocked
  | .error interruption clocked => .error interruption clocked

end Console
end Chip8
