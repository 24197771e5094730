import Chip8.Proofs.Raw.Components

namespace Chip8

def Outcome.located {σ α : Type} (o : Outcome σ α) (pc : Int) (opcode : Option Int) :
    Outcome σ α :=
  { o with answer := o.answer.mapError fun e => e.locate (some pc) opcode }

namespace Raw

open Chip8.Action

structure Machine where
  memory : Memory
  registers : Registers
  stack : CallStack
  timers : Timers
  screen : Screen
  keypad : Keypad
  random : RandomSource
  keySource : Option KeySource
  listening : Bool
  tickPerCycle : Bool
  cycles : Int

namespace Machine

variable {α : Type}

def initial (random : RandomSource) : Machine where
  memory := .blank
  registers := .initial
  stack := .empty
  timers := .stopped
  screen := .blank
  keypad := .released
  random := random
  keySource := none
  listening := false
  tickPerCycle := true
  cycles := 0

def onMemory : Action Memory α → Action Machine α := on memory fun memory m => { m with memory }

def onRegisters : Action Registers α → Action Machine α :=
  on registers fun registers m => { m with registers }

def onStack : Action CallStack α → Action Machine α := on stack fun stack m => { m with stack }

def onTimers : Action Timers α → Action Machine α := on timers fun timers m => { m with timers }

def onScreen : Action Screen α → Action Machine α := on screen fun screen m => { m with screen }

def onKeypad : Action Keypad α → Action Machine α := on keypad fun keypad m => { m with keypad }

def onRandom (op : RandomSource.Operation) : Action Machine Reply :=
  on random (fun random m => { m with random }) ⟨fun source => .quiet (op.perform source)⟩

/-! ## Instructions -/

def getV (x : Register) : Action Machine Int := onRegisters (Registers.getV x.val)

def setV (x : Register) (value : Int) : Action Machine Unit :=
  onRegisters (Registers.setV x.val value)

def setFlag (up : Bool) : Action Machine Unit :=
  setV Chip8.Registers.flag (if up then 1 else 0)

def getI : Action Machine Int := return (← state).registers.i

def setI (value : Int) : Action Machine Unit := onRegisters (Registers.setI value)

def drawByte : Action Machine Int := do
  let m ← state
  put { m with random := m.random.next.2 }
  return m.random.next.1.toNat

def waitForKey : Action Machine (Option Nat) := do
  let m ← state
  match m.keypad.first?, m.keySource with
  | some key, _ => return some key
  | none, none => do log .awaitingKey; return none
  | none, some source => do
    put { m with keySource := some source.next.2 }
    onKeypad (Keypad.setAll source.next.1)
    match (← state).keypad.first? with
    | some key => return some key
    | none => do log .noKeyGiven; return none

def skipIf (condition : Bool) (pc : Int) : Int := if condition then pc + 4 else pc + 2

/-- The integer of the next address, before it is cut to a word. -/
def carryOut (instruction : Instruction) (pc : Int) : Action Machine Int :=
  match instruction with
  | .clear => do onScreen Screen.clear; return pc + 2
  | .ret => onStack CallStack.pop
  | .jump nnn => return nnn.val
  | .call nnn => do onStack (CallStack.push (pc + 2)); return nnn.val
  | .jumpOffset nnn => return (← onRegisters (Registers.getV 0)) + nnn.val
  | .skipEqByte x nn => return skipIf ((← getV x) = nn.toNat) pc
  | .skipNeByte x nn => return skipIf ((← getV x) ≠ nn.toNat) pc
  | .skipEq x y => return skipIf ((← getV x) = (← getV y)) pc
  | .skipNe x y => return skipIf ((← getV x) ≠ (← getV y)) pc
  | .skipPressed x => return skipIf (← onKeypad (Keypad.isDown (← getV x))) pc
  | .skipReleased x => return skipIf (!(← onKeypad (Keypad.isDown (← getV x)))) pc
  | .loadByte x nn => do setV x nn.toNat; return pc + 2
  | .addByte x nn => do setV x ((← getV x) + nn.toNat); return pc + 2
  | .random x nn => do setV x (Int.land (← drawByte) nn.toNat); return pc + 2
  | .copy x y => do setV x (← getV y); return pc + 2
  | .or x y => do setV x (Int.lor (← getV x) (← getV y)); return pc + 2
  | .and x y => do setV x (Int.land (← getV x) (← getV y)); return pc + 2
  | .xor x y => do setV x (Int.xor (← getV x) (← getV y)); return pc + 2
  | .add x y => do
    let total := (← getV x) + (← getV y)
    setV x total
    setFlag (255 < total)
    return pc + 2
  | .sub x y => do
    let vx ← getV x
    let vy ← getV y
    setV x (vx - vy)
    setFlag (vy ≤ vx)
    return pc + 2
  | .subFrom x y => do
    let vx ← getV x
    let vy ← getV y
    setV x (vy - vx)
    setFlag (vx ≤ vy)
    return pc + 2
  | .shiftRight x y => do
    let vy ← getV y
    setV y (vy / 2)
    setV x (← getV y)
    setFlag (vy % 2 = 1)
    return pc + 2
  | .shiftLeft x y => do
    let vy ← getV y
    setV y (vy * 2)
    setV x (← getV y)
    setFlag (vy / 128 % 2 = 1)
    return pc + 2
  | .loadIndex nnn => do setI nnn.val; return pc + 2
  | .addIndex x => do setI ((← getI) + (← getV x)); return pc + 2
  | .loadGlyph x => do setI (glyphAddress (← getV x)); return pc + 2
  | .draw x y n => do
    let rows ← onMemory (Memory.readBlock (← getI) n.val)
    setFlag (← onScreen (Screen.draw (← getV x) (← getV y) rows))
    return pc + 2
  | .readDelay x => do setV x (← state).timers.delay; return pc + 2
  | .setDelay x => do onTimers (Timers.setDelay (← getV x)); return pc + 2
  | .setSound x => do onTimers (Timers.setSound (← getV x)); return pc + 2
  | .awaitKey x => do
    match ← waitForKey with
    | none => return pc
    | some key => do setV x key; return pc + 2
  | .storeDecimal x => do
    let value ← getV x
    let digits ← ofExcept (bytes [value / 100, value / 10 % 10, value % 10])
    onMemory (Memory.writeBlock (← getI) digits)
    return pc + 2
  | .storeRegisters _ => do
    let block ← ofExcept (bytes (← state).registers.v)
    onMemory (Memory.writeBlock (← getI) block)
    setI ((← getI) + 16)
    return pc + 2
  | .loadRegisters _ => do
    let block ← onMemory (Memory.readBlock (← getI) 16)
    onRegisters (Registers.fill 0 block)
    setI ((← getI) + 16)
    return pc + 2
  | .unknown word => do log (.unknownWord word pc); return pc + 2

def execute (instruction : Instruction) (pc : Int) : Action Machine Int :=
  return (← carryOut instruction pc) % 65536

/-! ## Cycles -/

def tick : Action Machine Unit := do
  if ← onTimers Timers.tick then
    log .soundExpired
    let m ← state
    if m.listening then log (.beep m.cycles.toNat)

def locating (pc : Int) (opcode : Option Int) (act : Action Machine α) : Action Machine α :=
  ⟨fun m => (act.run m).located pc opcode⟩

def count : Action Machine Unit := do
  let m ← state
  put { m with cycles := m.cycles + 1 }

def complete (next : Int) : Action Machine Unit := do
  onRegisters (Registers.setPc next)
  count
  if (← state).tickPerCycle then tick

def cycle : Action Machine Unit := do
  let pc := (← state).registers.pc
  let word ← locating pc none (onMemory (Memory.readWord pc))
  onRegisters (Registers.setOpcode word)
  let next ← locating pc (some word) do
    log (.executing (UInt16.ofInt pc) (UInt16.ofInt word))
    execute (Instruction.ofWord (UInt16.ofInt word)) pc
  complete next

def loadRom (rom : List UInt8) : Action Machine Unit :=
  onMemory (Memory.loadRom (rom.map fun byte => (byte.toNat : Int)))

def reset (clearMemory : Bool) : Action Machine Unit := do
  onRegisters (put .initial)
  onStack CallStack.clear
  onTimers (put .stopped)
  onScreen Screen.clear
  onScreen Screen.acknowledge
  onKeypad (put .released)
  put { ← state with cycles := 0 }
  if clearMemory then onMemory (put .blank)
  let m ← state
  put { m with random := m.random.rewind }

def perform : Chip8.Machine.Operation → Action Machine Reply
  | .cycle => do cycle; return .nothing
  | .execute instruction pc => return .number (← execute instruction pc)
  | .tick => do tick; return .nothing
  | .loadRom rom => do loadRom rom; return .nothing
  | .reset clearMemory => do reset clearMemory; return .nothing
  | .memory op => onMemory (Memory.perform op)
  | .registers op => onRegisters (Registers.perform op)
  | .stack op => onStack (CallStack.perform op)
  | .timers op => onTimers (Timers.perform op)
  | .screen op => onScreen (Screen.perform op)
  | .keypad op => onKeypad (Keypad.perform op)
  | .random op => onRandom op
  | .setKeySource source => do put { ← state with keySource := source }; return .nothing
  | .listen on => do put { ← state with listening := on }; return .nothing
  | .setTickPerCycle on => do put { ← state with tickPerCycle := on }; return .nothing

end Machine
end Raw
end Chip8
