import Chip8.Machine.Cycle
import Chip8.Proofs.Outcome.Sessions

/-! All that a host can do with a machine and its components. Arguments are as a host gives them. -/

namespace Chip8

inductive Reply where
  | nothing
  | number (value : Int)
  | truth (value : Bool)
  | bytes (values : List UInt8)
deriving DecidableEq, Repr

def told {α : Type} (answer : Except Fault α) (say : α → Reply) : Except Error Reply :=
  (answer.mapError .fault).map say

inductive Memory.Operation where
  | read (address : Int)
  | readWord (address : Int)
  | readBlock (address length : Int)
  | write (address value : Int)
  | writeWord (address value : Int)
  | writeBlock (address : Int) (data : List UInt8)
  | clear

def Memory.Operation.perform (m : Memory) : Memory.Operation → Except Error Reply × Memory
  | read address => (told (m.read address) fun byte => .number byte.toNat, m)
  | readWord address => (told (m.readWord address) fun word => .number word.toNat, m)
  | readBlock address length => (told (m.readBlock address length) .bytes, m)
  | write address value =>
    let (answer, m) := m.write address value
    (told answer fun _ => .nothing, m)
  | writeWord address value =>
    let (answer, m) := m.writeWord address value
    (told answer fun _ => .nothing, m)
  | writeBlock address data =>
    let (answer, m) := m.writeBlock address data
    (told answer fun _ => .nothing, m)
  | clear => (.ok .nothing, .blank)

inductive Registers.Operation where
  | get (index : Int)
  | set (index value : Int)
  | setFlag (value : Int)
  | setI (value : Int)
  | setPc (value : Int)
  | setOpcode (value : Int)
  | reset

def Registers.Operation.perform (r : Registers) :
    Registers.Operation → Except Error Reply × Registers
  | get index => ((r.get index).map fun byte => .number byte.toNat, r)
  | set index value =>
    let (answer, r) := r.set index value
    (answer.map fun _ => .nothing, r)
  | setFlag value => (.ok .nothing, r.setFlag value)
  | setI value => (.ok .nothing, r.setI value)
  | setPc value => (.ok .nothing, r.setPc value)
  | setOpcode value => (.ok .nothing, r.setOpcode value)
  | reset => (.ok .nothing, .initial)

inductive CallStack.Operation where
  | push (address : Int)
  | pop
  | peek
  | clear

def CallStack.Operation.perform {capacity : Nat} (s : CallStack capacity) :
    CallStack.Operation → Except Error Reply × CallStack capacity
  | push address =>
    let (answer, s) := s.push address
    (told answer fun _ => .nothing, s)
  | pop =>
    let (answer, s) := s.pop
    (told answer fun address => .number address.toNat, s)
  | peek => (told s.peek fun address => .number address.toNat, s)
  | clear => (.ok .nothing, .empty)

inductive Timers.Operation where
  | setDelay (value : Int)
  | setSound (value : Int)
  | tick
  | reset

def Timers.Operation.perform (t : Timers) : Timers.Operation → Except Error Reply × Timers
  | setDelay value => (.ok .nothing, t.setDelay value)
  | setSound value => (.ok .nothing, t.setSound value)
  | tick => (.ok (.truth t.tick.1), t.tick.2)
  | reset => (.ok .nothing, .stopped)

inductive Framebuffer.Operation where
  | draw (x y : Int) (rows : List UInt8)
  | pixel (x y : Int)
  | clear
  | acknowledge

def Framebuffer.Operation.perform {width height : Nat} (fb : Framebuffer width height) :
    Framebuffer.Operation → Except Error Reply × Framebuffer width height
  | draw x y rows => (.ok (.truth (fb.draw x y rows).1), (fb.draw x y rows).2)
  | pixel x y => ((fb.pixel x y).map .truth, fb)
  | clear => (.ok .nothing, fb.clear)
  | acknowledge => (.ok .nothing, fb.acknowledge)

inductive Keypad.Operation where
  | setAll (states : List Bool)
  | press (code : Int)
  | release (code : Int)
  | releaseAll
  | isDown (code : Int)
  | anyDown
  | first

def Keypad.Operation.perform (pad : Keypad) : Keypad.Operation → Except Error Reply × Keypad
  | setAll states =>
    let (answer, pad) := pad.setAll states
    (answer.map fun _ => .nothing, pad)
  | press code => (.ok .nothing, pad.press (.ofInt code))
  | release code => (.ok .nothing, pad.release (.ofInt code))
  | releaseAll => (.ok .nothing, .released)
  | isDown code => (.ok (.truth (pad.isDown (.ofInt code))), pad)
  | anyDown => (.ok (.truth pad.anyDown), pad)
  | first => (.ok (pad.first?.elim .nothing fun key => .number key.val), pad)

namespace RandomSource

def reseed (seed : Int) : RandomSource → RandomSource
  | seeded _ _ => ofSeed seed
  | stream bytes taken => .stream bytes taken

inductive Operation where
  | next
  | reseed (seed : Int)

def Operation.perform (source : RandomSource) : Operation → Except Error Reply × RandomSource
  | next => (.ok (.number source.next.1.toNat), source.next.2)
  | reseed seed => (.ok .nothing, source.reseed seed)

end RandomSource

def Outcome.saying {σ α β : Type} (o : Outcome σ α) (say : α → β) : Outcome σ β :=
  ⟨o.answer.map say, o.state, o.events⟩

namespace Machine

inductive Operation where
  | cycle
  | execute (ins : Instruction) (pc : Int)
  | tick
  | loadRom (rom : List UInt8)
  | reset (clearMemory : Bool)
  | memory (op : Memory.Operation)
  | registers (op : Registers.Operation)
  | stack (op : CallStack.Operation)
  | timers (op : Timers.Operation)
  | screen (op : Framebuffer.Operation)
  | keypad (op : Keypad.Operation)
  | random (op : RandomSource.Operation)
  | setKeySource (source : Option KeySource)
  | listen (on : Bool)
  | setTickPerCycle (on : Bool)

def onPart {τ : Type} (outcome : Except Error Reply × τ) (put : τ → Machine) :
    Outcome Machine Reply := ⟨outcome.1, put outcome.2, #[]⟩

def Operation.perform (op : Operation) (m : Machine) : Outcome Machine Reply :=
  match op with
  | cycle => m.cycle.saying fun _ => .nothing
  | execute ins pc => (m.execute ins pc).saying fun next => .number next.toNat
  | tick => .done m.tick.1 .nothing m.tick.2
  | loadRom rom => (m.loadRom rom).saying fun _ => .nothing
  | reset clearMemory => .done (m.reset clearMemory) .nothing #[]
  | memory op => onPart (op.perform m.memory) fun memory => { m with memory }
  | registers op => onPart (op.perform m.registers) fun registers => { m with registers }
  | stack op => onPart (op.perform m.stack) fun stack => { m with stack }
  | timers op => onPart (op.perform m.timers) fun timers => { m with timers }
  | screen op => onPart (op.perform m.screen) fun screen => { m with screen }
  | keypad op => onPart (op.perform m.keypad) fun keypad => { m with keypad }
  | random op => onPart (op.perform m.random) fun random => { m with random }
  | setKeySource source => .done { m with keySource := source } .nothing #[]
  | listen on => .done { m with listening := on } .nothing #[]
  | setTickPerCycle on => .done { m with tickPerCycle := on } .nothing #[]

end Machine
end Chip8
