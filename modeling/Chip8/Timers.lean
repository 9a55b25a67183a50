/-!
# Timers and the tone

Two timers count down once a tick while they are above zero. The tone sounds
while the sound timer is above zero: it is asked to start when the timer is
loaded, and to stop on the tick that empties the timer or on a load of zero.
A tone that sounds with an empty timer is stopped by the next tick.

Each operation gives the requests it makes of the sound output, in order.
Whether the tone sounds is part of the state, since a reset and a tick ask
for it.
-/

namespace Chip8

/-- A request to the sound output. -/
inductive ToneRequest where
  | start
  | stop
  deriving DecidableEq, Repr

/-- The two timers, and whether the tone sounds. -/
structure Timers where
  delay : UInt8
  sound : UInt8
  tone : Bool
  deriving DecidableEq, Repr

namespace Timers

/-- Both timers empty and the tone off. -/
def initial : Timers := ⟨0, 0, false⟩

/-- Starts the tone, whatever the timers hold. -/
def startTone (timers : Timers) : Timers × List ToneRequest :=
  ({ timers with tone := true }, [.start])

/-- Stops the tone, whatever the timers hold. -/
def stopTone (timers : Timers) : Timers × List ToneRequest :=
  ({ timers with tone := false }, [.stop])

/-- Takes the tone to be off, without a request. -/
def silence (timers : Timers) : Timers := { timers with tone := false }

/-- Empties both timers and stops a tone that sounds. -/
def reset (timers : Timers) : Timers × List ToneRequest :=
  let emptied := { timers with delay := 0, sound := 0 }
  if timers.tone then emptied.stopTone else (emptied, [])

/-- One step of the countdown. -/
def tick (timers : Timers) : Timers × List ToneRequest :=
  let counted := { timers with
    delay := if timers.delay > 0 then timers.delay - 1 else 0
    sound := if timers.sound > 0 then timers.sound - 1 else 0 }
  if timers.sound > 0 then
    if counted.sound = 0 then counted.stopTone else (counted, [])
  else if timers.tone then counted.stopTone
  else (counted, [])

/-- Loads the delay timer with the low byte of a value. -/
def setDelay (value : Int) (timers : Timers) : Timers :=
  { timers with delay := UInt8.ofInt value }

/-- Loads the sound timer with the low byte of a value, and starts or stops
the tone accordingly. -/
def setSound (value : Int) (timers : Timers) : Timers × List ToneRequest :=
  let loaded := { timers with sound := UInt8.ofInt value }
  if UInt8.ofInt value > 0 then loaded.startTone else loaded.stopTone

end Timers
end Chip8
