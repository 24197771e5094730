import Chip8.CallStack
import Chip8.Framebuffer
import Chip8.Keypad
import Chip8.Memory
import Chip8.Outcome
import Chip8.Random.Source
import Chip8.Registers
import Chip8.Timers

namespace Chip8

structure Machine where
  memory : Memory
  registers : Registers
  stack : CallStack 16
  timers : Timers
  screen : Screen
  keypad : Keypad
  random : RandomSource
  /-- Whom to ask for a key when none is down. -/
  keySource : Option KeySource
  listening : Bool
  /-- Whether every cycle ends with a tick of the timers. -/
  tickPerCycle : Bool
  cycles : Nat

namespace Machine

def initial (random : RandomSource) : Machine where
  memory := .blank
  registers := .initial
  stack := .empty
  timers := .stopped
  screen := default
  keypad := .released
  random := random
  keySource := none
  listening := false
  tickPerCycle := true
  cycles := 0

def loadRom (m : Machine) (rom : List UInt8) : Outcome Machine Unit :=
  match m.memory.loadRom rom with
  | (.ok (), memory) => .done { m with memory } () #[.romCopied rom.length]
  | (.error e, memory) => .stopped { m with memory } e #[]

def setKeys (m : Machine) (states : List Bool) : Outcome Machine Unit :=
  let (answer, keypad) := m.keypad.setAll states
  ⟨answer, { m with keypad }, #[]⟩

def press (m : Machine) (key : Key) : Machine := { m with keypad := m.keypad.press key }

def release (m : Machine) (key : Key) : Machine := { m with keypad := m.keypad.release key }

def acknowledge (m : Machine) : Machine := { m with screen := m.screen.acknowledge }

def reset (m : Machine) (clearMemory : Bool) : Machine :=
  { m with
    memory := if clearMemory then .blank else m.memory
    registers := .initial
    stack := .empty
    timers := .stopped
    screen := m.screen.clear.acknowledge
    keypad := .released
    random := m.random.rewind
    cycles := 0 }

def tick (m : Machine) : Machine × Array Event :=
  let (expired, timers) := m.timers.tick
  ({ m with timers },
    if expired then
      if m.listening then #[.soundExpired, .beep m.cycles] else #[.soundExpired]
    else #[])

def ticks (m : Machine) : Nat → Machine × Array Event
  | 0 => (m, #[])
  | count + 1 =>
    let (m, before) := m.tick
    let (m, after) := m.ticks count
    (m, before ++ after)

end Machine
end Chip8
