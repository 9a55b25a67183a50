import Chip8.Journal
import Chip8.Setting
/-!
# Starting up

Two choices are made before anything is brought up: at what threshold the
journal is read, and which plug-ins are used. A window is used when it is
asked for, and also when nothing is asked for and the host has windows; its
sound can be muted.
-/

namespace Chip8

/-- Why a session cannot start. -/
inductive StartupError where
  | unknownLevel (name : String)
  /-- The level has no name. -/
  | emptyLevel
  /-- A window is asked for, and the host has none. -/
  | noWindows
  | unknownRenderer (name : String)
  deriving DecidableEq, Repr

/-- The wording of a startup error. -/
def StartupError.message : StartupError → String
  | unknownLevel name => "Unknown log level '" ++ name ++ "'"
  | emptyLevel => "No log level is named"
  | noWindows => "PyGame does not appear to be installed."
  | unknownRenderer name => "Unknown renderer '" ++ name ++ "'"

namespace Threshold

/-- The threshold of a session: that of its level, which is `INFO` unless it is
named, or that of debugging. -/
def choose (level : Setting String) (debug : Bool) : Except StartupError Nat :=
  if debug then .ok Level.debug.rank
  else
    match level with
    | .unset => .ok Level.info.rank
    | .empty => .error .emptyLevel
    | .value name =>
      match ofName? name with
      | some threshold => .ok threshold
      | none => .error (.unknownLevel name)

end Threshold

/-- The plug-ins of a session. With a window, the renderer and the source of
key events are the window's; the sound is the host's if it is audible. -/
structure Suite where
  windowed : Bool
  audible : Bool
  deriving DecidableEq, Repr

namespace Suite

/-- The plug-ins that do nothing. -/
def headless : Suite := ⟨false, false⟩

/-- The plug-ins of a window. -/
def window (muted : Bool) : Suite := ⟨true, !muted⟩

/-- The name of the renderer with a window. -/
def windowName : String := "pygame"

/-- The name of the renderer without one. -/
def headlessName : String := "null"

/-- What is noted when the host has no windows and none was asked for. -/
def fallbackNote : Entry :=
  ⟨.warning, "PyGame does not appear to be installed, running without a display"⟩

/-- How a renderer without a name is shown. -/
def emptyName : String := "[]"

/-- The plug-ins for the renderer that is asked for, if any, and what is noted
about the choice. -/
def choose (renderer : Setting String) (muted hasWindows : Bool) :
    Except StartupError (Suite × List Entry) :=
  match renderer with
  | .unset => if hasWindows then .ok (window muted, []) else .ok (headless, [fallbackNote])
  | .empty => .error (.unknownRenderer emptyName)
  | .value name =>
    if name = windowName then
      if hasWindows then .ok (window muted, []) else .error .noWindows
    else if name = headlessName then .ok (headless, [])
    else .error (.unknownRenderer name)

end Suite
end Chip8
