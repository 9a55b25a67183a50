import Chip8.Machine.Basic
/-!
# Key events

A source of key events hands over what has happened since it was last asked,
as one batch. All of a batch is delivered to the machine, in order and also
behind a wish to quit. A window hands over its own events, in which letting
go of the escape key is a wish to quit, and which may be of kinds that mean
nothing here.
-/

namespace Chip8

/-- Something that happened at the keys. -/
inductive InputEvent where
  | down (code : Option KeyCode)
  | up (code : Option KeyCode)
  /-- The user wishes to quit. -/
  | quit
  /-- Something without a meaning. -/
  | ignored
  deriving DecidableEq, Repr

namespace InputEvent

/-- The event is a wish to quit. -/
def isQuit : InputEvent → Bool
  | quit => true
  | _ => false

variable {δ : Type}

/-- Delivers an event to a machine. -/
def deliver : InputEvent → Operation (Machine δ) Unit
  | down code => do
    let _ ← Machine.keyDown code
  | up code => do
    let _ ← Machine.keyUp code
  | quit | ignored => pure ()

/-- Delivers a batch to a machine, and tells whether the user wishes to
quit. -/
def deliverAll : List InputEvent → Operation (Machine δ) Bool
  | [] => pure false
  | event :: rest => do
    event.deliver
    let quits ← deliverAll rest
    return event.isQuit || quits

end InputEvent

/-- An event of a window. -/
inductive WindowEvent where
  /-- The window is closed. -/
  | closed
  | keyDown (name : String)
  | keyUp (name : String)
  | other
  deriving DecidableEq, Repr

namespace WindowEvent

/-- The key that is let go of to quit. -/
def quitKey : String := "escape"

/-- What an event of a window means. -/
def toInput : WindowEvent → InputEvent
  | closed => .quit
  | keyDown name => .down (some (.text name))
  | keyUp name => if name = quitKey then .quit else .up (some (.text name))
  | other => .ignored

end WindowEvent
end Chip8
