import Chip8.Machine.Basic
/-!
# Putting a machine together

A machine is plugged into a display and a sound output, each of which has to
provide the operations that the machine relies on. What is plugged in is
looked at first, the display before the sound output; then the keymap is
read; then the machine is reset, which clears the display.
-/

namespace Chip8

/-- What a machine is plugged into. -/
inductive Socket where
  | display
  | audio
  deriving DecidableEq, Repr

namespace Socket

/-- The name of a socket. -/
def name : Socket → String
  | display => "display"
  | audio => "audio"

/-- The operations that have to be provided, in the order in which they are
looked for. -/
def duties : Socket → List String
  | display => ["toggle_pixel", "clear", "render"]
  | audio => ["start_tone", "stop_tone", "is_playing"]

end Socket

/-- What is wrong with the parts plugged into a machine. -/
inductive WiringError where
  /-- Nothing is plugged in. -/
  | unplugged (socket : Socket)
  /-- What is plugged in does not provide an operation. -/
  | lacking (socket : Socket) (duty : String)
  deriving DecidableEq, Repr

/-- The wording of a wiring error. -/
def WiringError.message : WiringError → String
  | unplugged socket => "No " ++ socket.name ++ " adapter configured"
  | lacking socket duty =>
    "The " ++ socket.name ++ " adapter does not provide '" ++ duty ++ "'"

/-- What is plugged into a socket: nothing, or something that provides the
operations listed. -/
abbrev Plug : Type := Option (List String)

/-- Looks at what is plugged into a socket. The first operation missing is
the one that is reported. -/
def Socket.check (socket : Socket) : Plug → Except WiringError Unit
  | none => .error (.unplugged socket)
  | some provided =>
    match socket.duties.find? fun duty => !provided.contains duty with
    | some duty => .error (.lacking socket duty)
    | none => .ok ()

/-- Why a machine could not be put together. -/
inductive AssemblyError where
  | wiring (error : WiringError)
  | keymap (error : KeymapError)
  | fault (fault : Fault)
  deriving DecidableEq, Repr

namespace Machine

variable {δ : Type}

/-- The parts of a machine as they are before the first reset. -/
def parts (keymap : Keymap) (display : δ) (traced : Bool) (noise : Nat → UInt8) : Machine δ where
  memory := Memory.initial
  registers := .initial (.empty Registers.stackSize)
  timers := .initial
  keypad := .initial keymap
  display := display
  opcode := 0
  fetchedFrom := 0
  traced := traced
  noise := noise
  drawn := 0
  outbox := #[]

variable [Display δ]

/-- A machine over a display, switched on. -/
def switchOn (keymap : Keymap) (display : δ) (traced : Bool) (noise : Nat → UInt8) :
    Except Fault (Machine δ) :=
  match reset (parts keymap display traced noise) with
  | .ok _ machine => .ok machine
  | .error fault _ => .error fault

/-- A machine over a display, with the text of its keymap and what is plugged
into its sockets. -/
def assemble (plugged : Socket → Plug) (keymap : String) (display : δ) (traced : Bool)
    (noise : Nat → UInt8) : Except AssemblyError (Machine δ) := do
  (Socket.display.check (plugged .display)).mapError .wiring
  (Socket.audio.check (plugged .audio)).mapError .wiring
  let keymap ← (Keymap.parse keymap).mapError .keymap
  (switchOn keymap display traced noise).mapError .fault

end Machine
end Chip8
