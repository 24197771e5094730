import Chip8.Main
import Chip8.Proofs.CallStack.Entries
import Chip8.Proofs.Instruction.Patterns
import Chip8.Proofs.Machine.Course
import Chip8.Proofs.Machine.Faults
import Chip8.Proofs.Machine.Footprint
import Chip8.Proofs.Outcome.Iteration
import Chip8.Proofs.Emulator.Run
import Chip8.Proofs.Machine.Atomicity
import Chip8.Proofs.Machine.Operations
import Chip8.Proofs.Machine.Counts
import Chip8.Proofs.Machine.Targets
import Chip8.Proofs.Machine.Reset
import Chip8.Proofs.Emulator.Operations
import Chip8.Proofs.Emulator.Start
import Chip8.Proofs.Emulator.Counts
import Chip8.Proofs.Raw.Sessions
import Chip8.Proofs.Emulator.Reset
import Chip8.Proofs.Runs.Footprints
import Chip8.Proofs.Runs.Stops
import Chip8.Proofs.Runs.Subroutines
import Chip8.Proofs.Runs.Addresses
import Chip8.Proofs.Machine.HiddenInputs
import Chip8.Proofs.Runs.HiddenInputs
import Chip8.Proofs.Machine.Countdown
import Chip8.Proofs.Runs.TimersByCycle
import Chip8.Proofs.Runs.TimersByClock
import Chip8.Proofs.Machine.CarriedOut
import Chip8.Proofs.Runs.RandomBytes
import Chip8.Proofs.Runs.Redraw
import Chip8.Proofs.Framebuffer.Grid
import Chip8.Proofs.Framebuffer.Toggling
import Chip8.Proofs.Framebuffer.Sprites
import Chip8.Proofs.Framebuffer.Drawings
import Chip8.Proofs.Framebuffer.Fitting
import Chip8.Proofs.Machine.Sprites
import Chip8.Proofs.Text.Plain
import Chip8.Proofs.Machine.Unattended
import Chip8.Proofs.Headless.Keys
import Chip8.Proofs.Emulator.Loading
import Chip8.Proofs.Headless.Lines
import Chip8.Proofs.Headless.Systems
import Chip8.Proofs.Headless.Reports
import Chip8.Proofs.Headless.Runs
import Chip8.Proofs.Headless.Playing
import Chip8.Proofs.Headless.Endings
import Chip8.Proofs.Machine.Arithmetic
import Chip8.Proofs.Memory.ByteMap
import Chip8.Proofs.Memory.Refusals
import Chip8.Proofs.Runs.KeyWait
import Chip8.Proofs.Machine.Transfers
import Chip8.Proofs.KeyNumeral.Language
import Chip8.Proofs.Text.Fields
import Chip8.Proofs.Framebuffer.Text
import Chip8.Proofs.Machine.Summary
import Chip8.Proofs.Headless.Pictures
import Chip8.Proofs.Keypad.Latch
import Chip8.Proofs.Headless.HeldKeys
import Chip8.Proofs.Framebuffer.Views
import Chip8.Proofs.CallStack.BoundedList
import Chip8.Proofs.Instruction.OpcodeTable
import Chip8.Proofs.Keypad.LastChange
import Chip8.Proofs.Fault.Places
