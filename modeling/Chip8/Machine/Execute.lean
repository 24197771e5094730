import Chip8.Instruction.Decode
import Chip8.Machine.Basic

/-! The program counter is read and moved by the cycle only. All that can fail in an instruction is
checked before anything is changed. -/

namespace Chip8.Machine

def following (pc : Int) (skip : Bool) : UInt16 := UInt16.ofInt (if skip then pc + 4 else pc + 2)

def continueWith (m : Machine) (registers : Registers) (pc : Int) : Outcome Machine UInt16 :=
  .done { m with registers } (following pc false) #[]

def skipIf (m : Machine) (condition : Bool) (pc : Int) : Outcome Machine UInt16 :=
  .done m (following pc condition) #[]

def storeKey (m : Machine) (x : Register) (pc : Int) (key : Key) : Outcome Machine UInt16 :=
  m.continueWith (m.registers.assign x (UInt8.ofNat key)) pc

/-- Without a key, the instruction runs again. -/
def awaitKey (m : Machine) (x : Register) (pc : Int) : Outcome Machine UInt16 :=
  match m.keypad.first?, m.keySource with
  | some key, _ => m.storeKey x pc key
  | none, none => .done m (UInt16.ofInt pc) #[.awaitingKey]
  | none, some source =>
    let (states, source) := source.next
    let (answer, keypad) := m.keypad.setAll states
    let m := { m with keySource := some source, keypad }
    match answer, keypad.first? with
    | .error e, _ => .stopped m e #[]
    | .ok (), some key => m.storeKey x pc key
    | .ok (), none => .done m (UInt16.ofInt pc) #[.noKeyGiven]

/-- Shifts `Vy`, leaves the result in `Vy` and in `Vx`, and the bit that fell out as the flag. -/
def shift (r : Registers) (x y : Register) (result : UInt8) (out : Bool) : Registers :=
  ((r.assign y result).assign x result).raise out

def decimalDigits (value : UInt8) : List UInt8 := [value / 100, value / 10 % 10, value % 10]

def execute (m : Machine) (instruction : Instruction) (pc : Int) : Outcome Machine UInt16 :=
  let r := m.registers
  match instruction with
  | .clear => .done { m with screen := m.screen.clear } (following pc false) #[]
  | .ret =>
    match m.stack.pop with
    | (.ok address, stack) => .done { m with stack } address #[]
    | (.error fault, stack) => .stopped { m with stack } (.fault fault) #[]
  | .jump nnn => .done m (UInt16.ofNat nnn) #[]
  | .call nnn =>
    match m.stack.push (pc + 2) with
    | (.ok (), stack) => .done { m with stack } (UInt16.ofNat nnn) #[]
    | (.error fault, stack) => .stopped { m with stack } (.fault fault) #[]
  | .jumpOffset nnn => .done m (UInt16.ofNat ((r.value ⟨0, by decide⟩).toNat + nnn)) #[]
  | .skipEqByte x nn => m.skipIf (r.value x == nn) pc
  | .skipNeByte x nn => m.skipIf (r.value x != nn) pc
  | .skipEq x y => m.skipIf (r.value x == r.value y) pc
  | .skipNe x y => m.skipIf (r.value x != r.value y) pc
  | .skipPressed x => m.skipIf (m.keypad.isDown (Key.ofInt (r.value x).toNat)) pc
  | .skipReleased x => m.skipIf (!m.keypad.isDown (Key.ofInt (r.value x).toNat)) pc
  | .loadByte x nn => m.continueWith (r.assign x nn) pc
  | .addByte x nn => m.continueWith (r.assign x (r.value x + nn)) pc
  | .random x nn =>
    let (byte, random) := m.random.next
    { m with random }.continueWith (r.assign x (byte &&& nn)) pc
  | .copy x y => m.continueWith (r.assign x (r.value y)) pc
  | .or x y => m.continueWith (r.assign x (r.value x ||| r.value y)) pc
  | .and x y => m.continueWith (r.assign x (r.value x &&& r.value y)) pc
  | .xor x y => m.continueWith (r.assign x (r.value x ^^^ r.value y)) pc
  | .add x y =>
    let carry := 255 < (r.value x).toNat + (r.value y).toNat
    m.continueWith ((r.assign x (r.value x + r.value y)).raise carry) pc
  | .sub x y =>
    m.continueWith ((r.assign x (r.value x - r.value y)).raise (r.value y ≤ r.value x)) pc
  | .subFrom x y =>
    m.continueWith ((r.assign x (r.value y - r.value x)).raise (r.value x ≤ r.value y)) pc
  | .shiftRight x y =>
    m.continueWith (shift r x y (r.value y >>> 1) (r.value y % 2 == 1)) pc
  | .shiftLeft x y =>
    m.continueWith (shift r x y (r.value y <<< 1) (128 ≤ r.value y)) pc
  | .loadIndex nnn => m.continueWith { r with i := UInt16.ofNat nnn } pc
  | .addIndex x => m.continueWith { r with i := r.i + (r.value x).toUInt16 } pc
  | .loadGlyph x => m.continueWith (r.setI (glyphAddress (r.value x).toNat)) pc
  | .draw x y n =>
    match m.memory.readBlock r.i.toNat n with
    | .ok rows =>
      let (hit, screen) := m.screen.draw (r.value x).toNat (r.value y).toNat rows
      { m with screen }.continueWith (r.raise hit) pc
    | .error fault => .stopped m (.fault fault) #[]
  | .readDelay x => m.continueWith (r.assign x m.timers.delay) pc
  | .setDelay x =>
    .done { m with timers := { m.timers with delay := r.value x } } (following pc false) #[]
  | .setSound x =>
    .done { m with timers := { m.timers with sound := r.value x } } (following pc false) #[]
  | .awaitKey x => m.awaitKey x pc
  | .storeDecimal x =>
    match m.memory.writeBlock r.i.toNat (decimalDigits (r.value x)) with
    | (.ok (), memory) => .done { m with memory } (following pc false) #[]
    | (.error fault, memory) => .stopped { m with memory } (.fault fault) #[]
  | .storeRegisters _ =>
    match m.memory.writeBlock r.i.toNat r.v.toList with
    | (.ok (), memory) => { m with memory }.continueWith { r with i := r.i + 16 } pc
    | (.error fault, memory) => .stopped { m with memory } (.fault fault) #[]
  | .loadRegisters _ =>
    match m.memory.readBlock r.i.toNat 16 with
    | .ok bytes =>
      m.continueWith { r with v := Vector.ofFn fun k => bytes.getD k 0, i := r.i + 16 } pc
    | .error fault => .stopped m (.fault fault) #[]
  | .unknown word => .done m (following pc false) #[.unknownWord word pc]

end Chip8.Machine
