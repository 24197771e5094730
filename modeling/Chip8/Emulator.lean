import Chip8.Files.Reading
import Chip8.Machine.Cycle
import Chip8.Pace

namespace Chip8

structure Config where
  seed : Int := RandomSource.usualSeed
  timerMode : TimerMode := .perCycle
  timerHz : Int := 60
  romPath : Option String := none

structure Emulator where
  config : Config
  machine : Machine
  clock : Clock
  pace : Pace

namespace Emulator

def create (config : Config) (random : Option RandomSource) (keySource : Option KeySource)
    (clock : Clock) : Except Error Emulator := do
  let pace ← Pace.ofRate config.timerHz
  let machine := Machine.initial (random.getD (.ofSeed config.seed))
  return {
    config, clock, pace
    machine := { machine with keySource, tickPerCycle := config.timerMode == .perCycle } }

def onMachine {α : Type} (emulator : Emulator) (o : Outcome Machine α) : Outcome Emulator α :=
  o.within fun machine => { emulator with machine }

def loadRom (emulator : Emulator) (rom : List UInt8) : Outcome Emulator Unit :=
  emulator.onMachine (emulator.machine.loadRom rom)

def loadRomFrom (emulator : Emulator) (path : Path) (rom : List UInt8) : Outcome Emulator Unit :=
  (emulator.loadRom rom).andThen fun _ e => .done e () #[.romLoaded path.text]

def loadRomRead (emulator : Emulator) (path : Path) (read : Except Error (List UInt8)) :
    Outcome Emulator Unit :=
  match read with
  | .error e => .stopped emulator e #[]
  | .ok rom => emulator.loadRomFrom path rom

def loadRomFile (emulator : Emulator) (files : Files Id) (path : Path) : Outcome Emulator Unit :=
  emulator.loadRomRead path (files.readRom path).run

def start (config : Config) (random : Option RandomSource) (keySource : Option KeySource)
    (clock : Clock) (files : Files Id) : Except Error Emulator × Array Event :=
  match create config random keySource clock with
  | .error e => (.error e, #[])
  | .ok emulator =>
    match config.romPath with
    | none => (.ok emulator, #[])
    | some path =>
      let o := emulator.loadRomFile files (.ofText path)
      (o.answer.map fun _ => o.state, o.events)

def reset (emulator : Emulator) (clearMemory : Bool) : Emulator :=
  { emulator with
    machine := emulator.machine.reset clearMemory
    pace := { emulator.pace with credited := none } }

/-- More ticks than this at once do what this many do: both timers have run out. -/
def maxTicks : Nat := 255

def catchUp (emulator : Emulator) (now : Float) : Outcome Emulator Unit :=
  let (answer, pace) := emulator.pace.credit now
  match answer with
  | .error e => .stopped { emulator with pace } e #[]
  | .ok periods =>
    let (machine, events) := emulator.machine.ticks (min periods maxTicks)
    .done { emulator with pace, machine } () events

section Timed

variable {m : Type → Type} [Monad m] (now : m Float)

def keepPaceWith (emulator : Emulator) : m (Outcome Emulator Unit) :=
  return emulator.catchUp (← now)

def cycleWith (emulator : Emulator) : m (Outcome Emulator Unit) := do
  let o := emulator.onMachine emulator.machine.cycle
  match o.answer, emulator.config.timerMode with
  | .ok (), .fixedRate => return (← o.state.keepPaceWith now).after o.events
  | _, _ => return o

def runWith (emulator : Emulator) (count : Int) : m (Outcome Emulator Unit) :=
  if count < 0 then pure (.stopped emulator (.invalid (.cycles count)) #[])
  else Outcome.iterateM (cycleWith now) count.toNat (.done emulator () #[])

end Timed

def byClock (emulator : Emulator) (act : Emulator → StateM Clock (Outcome Emulator Unit)) :
    Outcome Emulator Unit :=
  let (o, clock) := act emulator emulator.clock
  o.within fun e => { e with clock }

def keepPace (emulator : Emulator) : Outcome Emulator Unit :=
  emulator.byClock (keepPaceWith Clock.read)

def cycle (emulator : Emulator) : Outcome Emulator Unit := emulator.byClock (cycleWith Clock.read)

def run (emulator : Emulator) (count : Int) : Outcome Emulator Unit :=
  emulator.byClock fun e => e.runWith Clock.read count

end Emulator
end Chip8
