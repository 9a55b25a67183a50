import Chip8.Time.Double
/-!
# Timepieces

The time that the host tells a clock. A timepiece follows a script, which
says for every count of readings made and rests taken what the next reading
tells, or why it tells nothing: it may stand still, jump, or run backwards.
Only so many readings can be made. A reading without a time counts as one.
-/

namespace Chip8

/-- Why a timepiece gives no time. -/
inductive TimeError where
  /-- All its readings have been made. -/
  | exhausted
  /-- The time is too large for a double. -/
  | tooLarge
  deriving DecidableEq, Repr

/-- The wording of a time error. -/
def TimeError.message : TimeError → String
  | exhausted => "The time is up"
  | tooLarge => "The time is too large"

/-- A timepiece. -/
structure Timepiece where
  /-- What a reading tells in seconds, after so many readings and so many rests. -/
  script : Nat → Nat → Except TimeError Float
  /-- How many readings can be made. -/
  limit : Nat
  readings : Nat
  rests : Nat

namespace Timepiece

/-- A time in microseconds, in seconds. -/
def ofMicroseconds (us : Int) : Except TimeError Float :=
  match Double.ofMicroseconds? us with
  | some time => .ok time
  | none => .error .tooLarge

/-- What a rest takes in microseconds. -/
def restLength : Int := 1000

/-- The script by which every reading takes the same time, in microseconds. -/
def steady (now pace : Int) (readings rests : Nat) : Except TimeError Float :=
  ofMicroseconds (now + pace * readings + restLength * rests)

/-- A timepiece that follows a script from its beginning. -/
def following (script : Nat → Nat → Except TimeError Float) (limit : Nat) : Timepiece :=
  ⟨script, limit, 0, 0⟩

/-- A steady timepiece that has not been read. -/
def start (now pace : Int) (limit : Nat) : Timepiece := following (steady now pace) limit

/-- The timepiece when a reading has been made. -/
def moveOn (timepiece : Timepiece) : Timepiece :=
  { timepiece with readings := timepiece.readings + 1 }

/-- Reads the time in seconds. -/
def read : EStateM TimeError Timepiece Float := fun timepiece =>
  if timepiece.readings < timepiece.limit then
    match timepiece.script timepiece.readings timepiece.rests with
    | .ok time => .ok time timepiece.moveOn
    | .error cause => .error cause timepiece.moveOn
  else .error .exhausted timepiece

/-- Rests. -/
def rest (timepiece : Timepiece) : Timepiece := { timepiece with rests := timepiece.rests + 1 }

end Timepiece
end Chip8
