import Chip8.Display
import Chip8.Journal
import Chip8.Timers
/-!
# Signals

Everything that a machine and its session send outwards, in one order: the
entries of the journal, and the calls made to the three plug-ins, which are
the renderer, the sound output and the source of key events. A machine never
depends on what becomes of its signals.
-/

namespace Chip8

/-- The parts of a session that can be exchanged. -/
inductive Plugin where
  | renderer
  | inputs
  | audio
  deriving DecidableEq, Repr

/-- Something sent outwards. -/
inductive Signal where
  /-- An entry for the journal. -/
  | noted (entry : Entry)
  /-- A request to the sound output. -/
  | tone (request : ToneRequest)
  /-- A call to the renderer. -/
  | paint (call : RendererCall)
  /-- A plug-in is brought up. -/
  | opened (plugin : Plugin)
  /-- The source of key events is asked for what has happened. -/
  | polled
  /-- A plug-in is shut down. -/
  | closed (plugin : Plugin)
  deriving DecidableEq, Repr

namespace Signal

/-- The journal entry that a signal carries. -/
def entry? : Signal → Option Entry
  | noted entry => some entry
  | _ => none

/-- The request to the sound output that a signal carries. -/
def tone? : Signal → Option ToneRequest
  | tone request => some request
  | _ => none

/-- The renderer call that a signal carries. -/
def paint? : Signal → Option RendererCall
  | paint call => some call
  | _ => none

end Signal
end Chip8
