import Chip8.Host.Screen
import Chip8.Main
import Chip8.Proofs.Bank.Access
import Chip8.Proofs.Bank.Writes
import Chip8.Proofs.Bank.Ranges
import Chip8.Proofs.Framebuffer.Inversion
import Chip8.Proofs.Framebuffer.Sizes
import Chip8.Proofs.Framebuffer.Toggles
import Chip8.Proofs.Registers.Calls
import Chip8.Proofs.Registers.Entries
import Chip8.Proofs.Timers.Countdown
import Chip8.Proofs.Machine.Parts
import Chip8.Proofs.Machine.Sprite
import Chip8.Proofs.Machine.Transfer
import Chip8.Proofs.Machine.Effect
import Chip8.Proofs.Keymap.Names
import Chip8.Proofs.Machine.Keys
import Chip8.Proofs.Machine.KeyHistory
import Chip8.Proofs.Machine.Reset
import Chip8.Proofs.Machine.Step
import Chip8.Proofs.Machine.Request
import Chip8.Proofs.Machine.Soundness
import Chip8.Proofs.Instruction.Opcodes
import Chip8.Proofs.Machine.Halting
import Chip8.Proofs.Machine.Interruption
import Chip8.Proofs.Machine.CallStack
import Chip8.Proofs.Machine.Likeness
import Chip8.Proofs.Machine.Loading
import Chip8.Proofs.Machine.Diagnosis
import Chip8.Proofs.Machine.KeyWait
import Chip8.Proofs.Machine.Signals
import Chip8.Proofs.Machine.Footprint
import Chip8.Proofs.Host.Speaker
import Chip8.Proofs.Machine.Buzzer
import Chip8.Proofs.Host.Picture
import Chip8.Proofs.Machine.Repaint
import Chip8.Proofs.Host.Mirror
import Chip8.Proofs.Text.Hex
import Chip8.Proofs.Machine.Dump
import Chip8.Proofs.Instruction.Mnemonics
import Chip8.Proofs.Machine.Kinship
import Chip8.Proofs.Machine.Trace
import Chip8.Proofs.Machine.Twins
import Chip8.Proofs.Host.Rig
import Chip8.Proofs.Time.Exact
import Chip8.Proofs.Time.Tally
import Chip8.Proofs.Time.Poll
import Chip8.Proofs.Time.Pace
import Chip8.Proofs.Machine.Destination
import Chip8.Proofs.Machine.Overlay
import Chip8.Proofs.Time.Upkeep
import Chip8.Proofs.Session.Emulation
import Chip8.Proofs.Session.Cleanup
import Chip8.Proofs.Machine.Arithmetic
import Chip8.Proofs.Machine.RoundTrip
import Chip8.Proofs.Time.Logged
import Chip8.Proofs.Time.Account
import Chip8.Proofs.Time.Quit
import Chip8.Proofs.Session.Batch
