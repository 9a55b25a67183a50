import Chip8.CommandLine
import Chip8.Console
import Chip8.Framebuffer
import Chip8.Host.Files
import Chip8.Machine.Assembly
import Chip8.Session.Devices
/-!
# Sessions

A session of the emulator from its settings to its end. The journal is set
up, the plug-ins are chosen and the program is read before anything is
brought up; then come the renderer with the framebuffer, the key events and
the sound; then the machine is put together, the program loaded and the
clock run. Once the plug-ins are up they are shut down whatever happens
afterwards: sound, key events, renderer.

Settings are looked up one by one at the point where they are needed, and a
missing one fails there. A session leaves its signals behind, from which
journal and host calls can be read, and the console if it came to have a
clock.
-/

namespace Chip8

/-- The settings of a session; any of them may be missing. The choice of the
file cannot be left to the emulator. -/
structure Settings where
  filename : Option (Setting String)
  clockSpeed : Option (Setting Int)
  renderer : Option (Setting String)
  scale : Option (Setting Int)
  muted : Option Bool
  keymap : Option (Setting String)
  logLevel : Option (Setting String)
  debug : Option Bool
  deriving DecidableEq, Repr

/-- The settings that a command line gives, none of them missing. -/
def Options.toSettings (options : Options) : Settings where
  filename := some (.value options.filename)
  clockSpeed := some options.clockSpeed
  renderer := some options.renderer
  scale := some options.scale
  muted := some (options.mute.toOption.any (· ≠ 0))
  keymap := some options.keymap
  logLevel := some options.logLevel
  debug := some options.debug

/-- Why a session fails. -/
inductive Failure where
  /-- A setting is missing. -/
  | missingSetting
  /-- No file is named. -/
  | noFilename
  /-- A setting that has to be a text has no value. -/
  | emptyText
  /-- A setting that has to be a number has no value. -/
  | emptyNumber
  | startup (error : StartupError)
  | unreadable (error : ReadError)
  | assembly (error : AssemblyError)
  | speed (error : Clock.SpeedError)
  | interrupted (interruption : Interruption)
  deriving DecidableEq, Repr

/-- The wording of a failure. -/
def Failure.message : Failure → String
  | missingSetting => "A setting is missing"
  | noFilename => "No file is named"
  | emptyText | emptyNumber => "A setting has no value"
  | startup error => error.message
  | unreadable .notFound => "No such file or directory"
  | unreadable .isFolder => "Is a directory"
  | unreadable .notFolder => "Not a directory"
  | unreadable .badName => "No file can have this name"
  | unreadable .nameTooLong => "File name too long"
  | assembly (.wiring error) => error.message
  | assembly (.keymap error) => error.message
  | assembly (.fault fault) => fault.message
  | speed .overflow => "The clock speed is too large"
  | interrupted (.crashed (.halted _ report)) => report
  | interrupted (.crashed (.refused fault)) => fault.message
  | interrupted (.untimed cause) => cause.message

/-- What surrounds a session. -/
structure Surroundings where
  /-- Reads the file with a given name. -/
  read : String → Except ReadError (List UInt8)
  hasWindows : Bool
  /-- The events of the window, if there is one. -/
  events : List (List WindowEvent)
  noise : Nat → UInt8
  timepiece : Timepiece

/-- How far a session has come. -/
structure Session where
  threshold : Nat
  suite : Suite
  scale : Setting Int
  /-- The signals of the session, without those that its console holds. -/
  signals : Array Signal
  timepiece : Timepiece
  /-- The machine as the session left it, if a clock was made for it. -/
  machine : Option (Machine Framebuffer)

namespace Session

/-- The copyright and licence of the emulator. -/
def legalNote : String :=
  "Copyright (C) 2022 Gregory Maynard-Hoare, licensed under GNU Affero General Public License v3.0"

/-- What a session notes first. -/
def introduction : Entry := ⟨.info, applicationIntro ++ legalNote⟩

/-- A session that has not begun. -/
def initial (timepiece : Timepiece) : Session :=
  ⟨Threshold.unset, .headless, .unset, #[], timepiece, none⟩

/-- A stage of a session. -/
abbrev Stage (α : Type) : Type := EStateM Failure Session α

/-- Fails with a failure of its own kind, or goes on. -/
def expect {ε α : Type} (failure : ε → Failure) : Except ε α → Stage α
  | .ok value => pure value
  | .error error => throw (failure error)

/-- The value that is there, or a failure. -/
def need {α : Type} (failure : Failure) : Option α → Stage α
  | some value => pure value
  | none => throw failure

/-- Looks up a setting. -/
def require {α : Type} (setting : Option α) : Stage α := need .missingSetting setting

/-- Sends a signal. -/
def emit (signal : Signal) : Stage Unit :=
  modify fun session => { session with signals := session.signals.push signal }

/-- Runs a stage, and then changes the session whatever became of the stage. The
result of the stage, or its failure, is kept. -/
def eventually {α : Type} (body : Stage α) (after : Session → Session) : Stage α := fun session =>
  match body session with
  | .ok result session => .ok result (after session)
  | .error failure session => .error failure (after session)

/-- Runs a stage, and changes the session if the stage fails. -/
def onFailure {α : Type} (body : Stage α) (after : Session → Session) : Stage α := fun session =>
  match body session with
  | .ok result session => .ok result session
  | .error failure session => .error failure (after session)

/-- What is done eventually is done when the first of two stages fails, or else after the
second. -/
theorem eventually_bind {α β : Type} (first : Stage α) (next : α → Stage β)
    (after : Session → Session) :
    eventually (first >>= next) after =
      onFailure first after >>= fun result => eventually (next result) after := by
  funext session
  change eventually (EStateM.bind first next) after session =
    EStateM.bind (onFailure first after) _ session
  rw [eventually, EStateM.bind, EStateM.bind, onFailure]
  cases first session <;> rfl

/-- Shuts the plug-ins down. -/
def shutdown (session : Session) : Session :=
  { session with
    signals := session.signals ++ #[.closed .audio, .closed .inputs, .closed .renderer] }

/-- Chooses the threshold and the plug-ins, and reads the program. -/
def prepare (surroundings : Surroundings) (settings : Settings) : Stage (List UInt8) := do
  let level ← require settings.logLevel
  let debug ← require settings.debug
  let threshold ← expect .startup (Threshold.choose level debug)
  modify fun session => { session with threshold := threshold }
  emit (.noted introduction)
  let renderer ← require settings.renderer
  let muted ← require settings.muted
  let (suite, notes) ← expect .startup (Suite.choose renderer muted surroundings.hasWindows)
  modify fun session => { session with suite := suite }
  notes.forM fun entry => emit (.noted entry)
  let filename ← need .noFilename (← require settings.filename).toOption
  let rom ← expect .unreadable (surroundings.read filename)
  emit (.noted (readingNote filename rom))
  return rom

/-- Brings up the plug-ins, and gives the framebuffer. A window that gets no
width ends the session. -/
def bringUp (settings : Settings) : Stage Framebuffer := do
  let scale ← require settings.scale
  modify fun session => { session with scale := scale }
  emit (.opened .renderer)
  if (← get).suite.windowed then
    let _ ← need .emptyNumber (Renderer.windowed scale).1
  let (framebuffer, calls) := Framebuffer.usual
  calls.forM fun call => emit (.paint call)
  emit (.opened .inputs)
  emit (.opened .audio)
  return framebuffer

/-- Loads the program into a new machine, whose signals join those of the
session. -/
def load (rom : List UInt8) (machine : Machine Framebuffer) : Stage (Machine Framebuffer) := do
  match Machine.loadRom rom machine with
  | .error fault _ => throw (.interrupted (.crashed (.refused fault)))
  | .ok _ machine =>
    let (signals, machine) := machine.takeSignals
    modify fun session => { session with signals := session.signals ++ signals }
    return machine

/-- Puts the machine together, loads the program and makes the clock. -/
def setUp (surroundings : Surroundings) (settings : Settings) (keymap : Setting String)
    (debug : Bool) (rom : List UInt8) (framebuffer : Framebuffer) :
    Stage (Clock Float × Machine Framebuffer) := do
  let keymap ← need .emptyText (keymap.resolve Keymap.usual)
  let machine ← expect .assembly (Machine.assemble (fun socket => some socket.duties)
    keymap framebuffer debug surroundings.noise)
  let machine ← load rom machine
  let speed ← need .emptyNumber
    ((← require settings.clockSpeed).resolve (Clock.usualSpeed : Int))
  let clock ← expect .speed (Clock.create (some speed))
  return (clock, machine)

/-- The key events of a session. Without a window there are none. -/
def batches (session : Session) (surroundings : Surroundings) : List (List InputEvent) :=
  if session.suite.windowed then surroundings.events.map (·.map WindowEvent.toInput) else []

/-- The session with what its console leaves. -/
def collect (session : Session) (console : Console Framebuffer) : Session :=
  let (signals, machine) := console.machine.takeSignals
  { session with
    signals := session.signals ++ signals
    timepiece := console.timepiece
    machine := some machine }

/-- Runs the clock over the machine to the end. -/
def runClock (surroundings : Surroundings) (clock : Clock Float)
    (machine : Machine Framebuffer) : Stage Unit := fun session =>
  match Console.run ⟨clock, ⟨machine, session.batches surroundings, session.timepiece⟩⟩ with
  | .ok _ clocked => .ok () (session.collect clocked.system)
  | .error interruption clocked =>
    .error (.interrupted interruption) (session.collect clocked.system)

/-- Everything between bringing the plug-ins up and shutting them down. -/
def emulate (surroundings : Surroundings) (settings : Settings) (keymap : Setting String)
    (debug : Bool) (rom : List UInt8) (framebuffer : Framebuffer) : Stage Unit := do
  let (clock, machine) ← setUp surroundings settings keymap debug rom framebuffer
  runClock surroundings clock machine

/-- A session from its settings to its end. -/
def run (surroundings : Surroundings) (settings : Settings) : Stage Unit := do
  let rom ← prepare surroundings settings
  let framebuffer ← bringUp settings
  let debug ← require settings.debug
  let keymap ← require settings.keymap
  eventually (emulate surroundings settings keymap debug rom framebuffer) shutdown

/-- What a session comes to in its surroundings, by whose timepiece it goes. -/
def result (surroundings : Surroundings) (settings : Settings) :
    EStateM.Result Failure Session Unit :=
  run surroundings settings (.initial surroundings.timepiece)

/-- A session up to the running of its clock. If the machine or the clock cannot be had, the
plug-ins are shut down at once. -/
def embark (surroundings : Surroundings) (settings : Settings) :
    Stage (Clock Float × Machine Framebuffer) := do
  let rom ← prepare surroundings settings
  let framebuffer ← bringUp settings
  let debug ← require settings.debug
  let keymap ← require settings.keymap
  onFailure (setUp surroundings settings keymap debug rom framebuffer) shutdown

/-- **A session in two parts**: up to the running of its clock, and from there on. -/
theorem run_eq_embark (surroundings : Surroundings) (settings : Settings) :
    run surroundings settings = embark surroundings settings >>= fun (clock, machine) =>
      eventually (runClock surroundings clock machine) shutdown := by
  simp only [run, embark, emulate, eventually_bind, bind_assoc]

/-- The journal of a session, as far as its threshold lets it through. -/
def journal (session : Session) : List String :=
  Entry.printed session.threshold (session.signals.toList.filterMap Signal.entry?)

/-- The devices as a session leaves them, and what the host was asked to do. -/
def devices [HostMemory] (session : Session) : Devices × Array HostCall :=
  Devices.followAll session.suite session.scale (Devices.initial session.scale)
    session.signals.toList

end Session

/-- Sessions run on the usual host, unless another is given. -/
instance (priority := low) : HostMemory := .usual

end Chip8
