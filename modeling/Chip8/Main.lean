import Chip8.Session.Run
/-!
# The program

The emulator on the command line. It runs without a window: the journal goes
to the standard output as it is written, and the program runs until it is
interrupted or halts. The time and the random bytes are the host's. The
session is that of `Session.run`, whose two parts are `Session.embark` and,
with the clock turned here, the rest (`Session.run_eq_embark`).
-/

open Chip8

/-- Reads a file of the host. -/
def readHostFile (filename : String) : IO (Except ReadError (List UInt8)) := do
  try
    return .ok (← IO.FS.readBinFile filename).toList
  catch error =>
    match error with
    | .inappropriateType .. => return .error .isFolder
    | _ => return .error .notFound

/-- Prints the entries among some signals. -/
def printEntries (threshold : Nat) (signals : Array Signal) : IO Unit :=
  (Entry.admitted threshold (signals.toList.filterMap Signal.entry?)).forM fun entry =>
    IO.println entry.form

/-- The time of the host in microseconds. -/
def hostMicroseconds : IO Int :=
  return (← IO.monoNanosNow) / 1000

/-- One turn of the clock, which is not the last one unless the user quits. -/
def turnOnce : EStateM Interruption (Clocked Float (Console Framebuffer)) Bool := do
  if ← Clocked.turn Console.driven then return true
  Clocked.noteQuit Console.driven
  return false

/-- Turns the clock until the user quits or the machine halts; the first turn starts it. Each
turn has a timepiece that shows the host's time, and rests as long as that one did. The
entries of the journal are printed turn by turn, and the other signals dropped. -/
partial def turnToEnd (threshold : Nat) (clocked : Clocked Float (Console Framebuffer)) :
    IO (Option Interruption × Console Framebuffer) := do
  let timepiece := Timepiece.start (← hostMicroseconds) 0 2
  let clocked := { clocked with system := { clocked.system with timepiece := timepiece } }
  match turnOnce clocked with
  | .error interruption clocked => return (some interruption, clocked.system)
  | .ok false clocked => return (none, clocked.system)
  | .ok true clocked =>
    let (signals, machine) := clocked.system.machine.takeSignals
    printEntries threshold signals
    if clocked.system.timepiece.rests > 0 then IO.sleep 1
    turnToEnd threshold { clocked with system := { clocked.system with machine := machine } }

/-- Runs a session, and tells what it failed with. Whatever that is, once its plug-ins are up
they are shut down. -/
def runSession (options : Options) : IO (Option Failure) := do
  let seed ← IO.rand 0 0x100000000
  let contents ← readHostFile options.filename
  let surroundings : Surroundings := {
    read := fun _ => contents
    hasWindows := false
    events := []
    noise := fun index => (mixHash (hash seed) (hash index)).toUInt8
    timepiece := .start 0 0 0 }
  match Session.embark surroundings options.toSettings (.initial surroundings.timepiece) with
  | .error failure session =>
    printEntries session.threshold session.signals
    return some failure
  | .ok (clock, machine) session =>
    printEntries session.threshold session.signals
    let console : Console Framebuffer :=
      ⟨machine, session.batches surroundings, session.timepiece⟩
    let (interruption, console) ← turnToEnd session.threshold ⟨clock, console⟩
    let ended := ({ session with signals := #[] }.collect console).shutdown
    printEntries ended.threshold ended.signals
    return interruption.map .interrupted

def main (arguments : List String) : IO UInt32 := do
  match CommandLine.parse arguments with
  | .error .help =>
    CommandLine.helpLines.forM IO.println
    return 0
  | .error (.usage error) =>
    CommandLine.usageLines.forM IO.eprintln
    IO.eprintln (CommandLine.programName ++ ": error: " ++ error.message)
    return 2
  | .ok options =>
    match ← runSession options with
    | none => return 0
    | some failure =>
      IO.eprintln failure.message
      return 1
