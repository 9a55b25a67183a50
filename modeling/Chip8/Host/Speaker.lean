import Chip8.Fault
import Chip8.Timers
import Chip8.Time.Double
import Chip8.Host.Call
/-!
# Speakers

A speaker follows the requests of the sound timer and remembers whether the
tone sounds. A mute one does no more. An audible one has the host repeat one
period of a square wave for as long as the tone sounds; a tone that sounds
already is not started again, and one that does not is not stopped.
-/

namespace Chip8

/-- A sound output. -/
structure Speaker where
  audible : Bool
  playing : Bool
  deriving DecidableEq, Repr

namespace Speaker

/-- Samples a second. -/
def sampleRate : Nat := 44100

/-- The usual frequency of the tone. -/
def usualFrequency : Float := 440.0

/-- The volume of the tone, in tenths. -/
def volume : Nat := 1

/-- The samples in one period of the tone, two at least. -/
def period (frequency : Float) : Nat :=
  max 2 (sampleRate.toFloat / frequency).toUInt64.toNat

/-- A speaker that makes no sound. -/
def mute : Speaker := ⟨false, false⟩

/-- The calls that bring up the sound with a period of so many samples. -/
def openingCalls (period : Nat) : List HostCall :=
  [.chooseSound sampleRate 8 1 512 0, .openSound,
    .makeWave (period / 2) (period - period / 2), .setVolume volume]

/-- A speaker that sounds a tone of the given frequency, and the calls that
bring it up. -/
def withTone (frequency : Float) : Except Fault (Speaker × List HostCall) :=
  if frequency == 0 then .error .zeroDivisor
  else .ok (⟨true, false⟩, openingCalls (period frequency))

/-- A speaker that sounds a tone of so many thousandths of a hertz, as a double,
and the calls that bring it up. -/
def ofMillihertz (millihertz : Int) : Except Fault (Speaker × List HostCall) :=
  match Double.ofRatio? millihertz 1000 with
  | some frequency => withTone frequency
  | none => .error .tooLarge

/-- A speaker with the usual tone, and the calls that bring it up. -/
def usual : Speaker × List HostCall :=
  (⟨true, false⟩, openingCalls (period usualFrequency))

/-- Follows a request of the sound timer. -/
def receive (request : ToneRequest) (speaker : Speaker) : Speaker × List HostCall :=
  match request with
  | .start =>
    ({ speaker with playing := true },
      if speaker.audible && !speaker.playing then [.play (-1)] else [])
  | .stop =>
    ({ speaker with playing := false },
      if speaker.audible && speaker.playing then [.stop] else [])

/-- Shuts the speaker down. The wave is stopped whether it plays or not. -/
def shutdown (speaker : Speaker) : Speaker × List HostCall :=
  ({ speaker with playing := false }, if speaker.audible then [.stop, .closeSound] else [])

end Speaker
end Chip8
