/-!
# Calls to the host

What a windowed session asks of the host's window and sound system, one
value a call. The calls are data: whoever carries them out decides nothing
about the emulation.
-/

namespace Chip8

/-- A call to the host. -/
inductive HostCall where
  /-- Bring up the display system. -/
  | openDisplay
  /-- Open a window of this size. -/
  | setMode (width height : Int)
  /-- Give the window a title. -/
  | setCaption (title : String)
  /-- Make an image of this size from a buffer of so many bytes, three bytes a
  pixel. -/
  | imageFromBuffer (length : Nat) (width height : Int)
  /-- Stretch the image to this size. -/
  | scaleImage (width height : Int)
  /-- Put the image into the window. -/
  | blit (x y : Int)
  /-- Show the window's new contents. -/
  | flip
  /-- Shut the display system down. -/
  | closeDisplay
  /-- Choose the format of the sound. -/
  | chooseSound (frequency size channels buffer allowedChanges : Nat)
  /-- Bring up the sound system. -/
  | openSound
  /-- Make a wave of so many high samples, followed by so many low ones. -/
  | makeWave (high low : Nat)
  /-- Set the volume, in tenths. -/
  | setVolume (tenths : Nat)
  /-- Play the wave; `-1` repeats it without end. -/
  | play (loops : Int)
  /-- Stop the wave. -/
  | stop
  /-- Shut the sound system down. -/
  | closeSound
  deriving DecidableEq, Repr

end Chip8
