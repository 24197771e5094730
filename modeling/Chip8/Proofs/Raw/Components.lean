import Chip8.Proofs.Machine.Operations
import Chip8.Proofs.Raw.Actions
import Mathlib.Data.Int.Bitwise

/-! Nothing bounds a number here, and lists have any length. What keeps the components in range are
the masks and checks of their methods. -/

namespace Chip8.Raw

open Chip8.Action

/-! ## Memory -/

structure Memory where
  data : List Int
  romSize : Int
deriving DecidableEq

namespace Memory

def blank : Memory where
  data := splice (List.replicate 4096 0) 0 80 (fontBytes.map fun byte => (byte.toNat : Int))
  romSize := 0

def check (address : Int) : Action Memory Unit :=
  if 0 ≤ address ∧ address < 4096 then pure () else stop (.fault (.outOfRange address))

def read (address : Int) : Action Memory Int := do
  check address
  ofExcept (item (← state).data address)

def readWord (address : Int) : Action Memory Int := do
  let high ← read address
  let low ← read (address + 1)
  return Int.lor (256 * high) low

def readBlock (address length : Int) : Action Memory (List Int) :=
  if length ≤ 0 then pure []
  else do
    check address
    check (address + length - 1)
    return slice (← state).data address (address + length)

def write (address value : Int) : Action Memory Unit := do
  check address
  let m ← state
  put { m with data := ← ofExcept (replace m.data address (value % 256)) }

def writeWord (address value : Int) : Action Memory Unit := do
  write address (value / 256 % 256)
  write (address + 1) (value % 256)

def writeBlock (address : Int) (block : List Int) : Action Memory Unit :=
  if block.isEmpty then pure ()
  else do
    check address
    check (address + block.length - 1)
    let m ← state
    put { m with data := splice m.data address (address + block.length) block }

def loadRom (rom : List Int) : Action Memory Unit :=
  if 3584 < rom.length then stop (.ofRomSize rom.length 3584 "")
  else do
    let m ← state
    put { data := splice m.data 512 (512 + rom.length) rom, romSize := rom.length }
    log (.romCopied rom.length)

def perform : Chip8.Memory.Operation → Action Memory Reply
  | .read address => return .number (← read address)
  | .readWord address => return .number (← readWord address)
  | .readBlock address length =>
    return .bytes ((← readBlock address length).map fun byte => UInt8.ofInt byte)
  | .write address value => do write address value; return .nothing
  | .writeWord address value => do writeWord address value; return .nothing
  | .writeBlock address data => do
    writeBlock address (data.map fun byte => (byte.toNat : Int))
    return .nothing
  | .clear => do put blank; return .nothing

end Memory

/-! ## Registers -/

structure Registers where
  v : List Int
  i : Int
  pc : Int
  opcode : Int
deriving DecidableEq

namespace Registers

def initial : Registers := ⟨List.replicate 16 0, 0, 512, 0⟩

def getV (index : Int) : Action Registers Int := do ofExcept (item (← state).v index)

def setV (index value : Int) : Action Registers Unit := do
  let r ← state
  put { r with v := ← ofExcept (replace r.v index (value % 256)) }

def fill (index : Int) : List Int → Action Registers Unit
  | [] => pure ()
  | value :: rest => do
    setV index value
    fill (index + 1) rest

def setI (value : Int) : Action Registers Unit := do put { ← state with i := value % 65536 }

def setPc (value : Int) : Action Registers Unit := do put { ← state with pc := value % 65536 }

def setOpcode (value : Int) : Action Registers Unit := do
  put { ← state with opcode := value % 65536 }

def perform : Chip8.Registers.Operation → Action Registers Reply
  | .get index => return .number (← getV index)
  | .set index value => do setV index value; return .nothing
  | .setFlag value => do setV 15 value; return .nothing
  | .setI value => do setI value; return .nothing
  | .setPc value => do setPc value; return .nothing
  | .setOpcode value => do setOpcode value; return .nothing
  | .reset => do put initial; return .nothing

end Registers

/-! ## Call stack -/

structure CallStack where
  slots : List Int
  sp : Int
deriving DecidableEq

namespace CallStack

def empty : CallStack := ⟨List.replicate 16 0, 0⟩

def push (address : Int) : Action CallStack Unit := do
  let s ← state
  if s.slots.length ≤ s.sp then stop (.fault (.stackFull s.sp.toNat))
  else put ⟨← ofExcept (replace s.slots s.sp (address % 65536)), s.sp + 1⟩

def pop : Action CallStack Int := do
  let s ← state
  if s.sp = 0 then stop (.fault .returnFromEmpty)
  else
    put { s with sp := s.sp - 1 }
    ofExcept (item s.slots (s.sp - 1))

def peek : Action CallStack Int := do
  let s ← state
  if s.sp = 0 then stop (.fault .stackEmpty) else ofExcept (item s.slots (s.sp - 1))

def clear : Action CallStack Unit := do
  let s ← state
  put ⟨List.replicate s.slots.length 0, 0⟩

def perform : Chip8.CallStack.Operation → Action CallStack Reply
  | .push address => do push address; return .nothing
  | .pop => return .number (← pop)
  | .peek => return .number (← peek)
  | .clear => do clear; return .nothing

end CallStack

/-! ## Timers -/

structure Timers where
  delay : Int
  sound : Int
deriving DecidableEq

namespace Timers

def stopped : Timers := ⟨0, 0⟩

def setDelay (value : Int) : Action Timers Unit := do put { ← state with delay := value % 256 }

def setSound (value : Int) : Action Timers Unit := do put { ← state with sound := value % 256 }

def countDown (counter : Int) : Int := if 0 < counter then counter - 1 else counter

def tick : Action Timers Bool := do
  let t ← state
  put ⟨countDown t.delay, countDown t.sound⟩
  return 0 < t.sound ∧ countDown t.sound = 0

def perform : Chip8.Timers.Operation → Action Timers Reply
  | .setDelay value => do setDelay value; return .nothing
  | .setSound value => do setSound value; return .nothing
  | .tick => return .truth (← tick)
  | .reset => do put stopped; return .nothing

end Timers

/-! ## Screen -/

structure Screen where
  width : Int
  height : Int
  pixels : List Bool
  dirty : Bool
deriving DecidableEq

namespace Screen

def blank : Screen := ⟨64, 32, List.replicate 2048 false, false⟩

def pixel (x y : Int) : Action Screen Bool := do
  let fb ← state
  ofExcept (item fb.pixels (y * fb.width + x))

def clear : Action Screen Unit := do
  let fb ← state
  put { fb with pixels := List.replicate (fb.width * fb.height).toNat false, dirty := true }

def acknowledge : Action Screen Unit := do put { ← state with dirty := false }

def toggle (index : Int) : Action Screen Bool := do
  let fb ← state
  let lit ← ofExcept (item fb.pixels index)
  put { fb with pixels := ← ofExcept (replace fb.pixels index (!lit)) }
  return lit

def toggleAll (hit : Bool) : List Int → Action Screen Bool
  | [] => pure hit
  | first :: rest => do
    let lit ← toggle first
    toggleAll (hit || lit) rest

def litColumns (row : Int) : List Nat :=
  (List.range 8).filter fun column => Int.testBit row (7 - column)

def targets (fb : Screen) (x y : Int) (rows : List Int) : List Int :=
  rows.zipIdx.flatMap fun (row, dy) => (litColumns row).map fun (dx : Nat) =>
    (y + dy) % fb.height * fb.width + (x + dx) % fb.width

def draw (x y : Int) (rows : List Int) : Action Screen Bool := do
  let hit ← toggleAll false ((← state).targets x y rows)
  put { ← state with dirty := true }
  return hit

def perform : Framebuffer.Operation → Action Screen Reply
  | .draw x y rows => return .truth (← draw x y (rows.map fun row => (row.toNat : Int)))
  | .pixel x y => return .truth (← pixel x y)
  | .clear => do clear; return .nothing
  | .acknowledge => do acknowledge; return .nothing

end Screen

/-! ## Keypad -/

structure Keypad where
  keys : List Bool
deriving DecidableEq

namespace Keypad

def released : Keypad := ⟨List.replicate 16 false⟩

def setAll (states : List Bool) : Action Keypad Unit :=
  if states.length ≠ 16 then stop (.invalid (.keyCount states.length)) else put ⟨states⟩

def put (key : Int) (down : Bool) : Action Keypad Unit := do
  Action.put ⟨← ofExcept (replace (← state).keys (key % 16) down)⟩

def isDown (key : Int) : Action Keypad Bool := do ofExcept (item (← state).keys (key % 16))

def first? (pad : Keypad) : Option Nat := pad.keys.findIdx? id

def perform : Chip8.Keypad.Operation → Action Keypad Reply
  | .setAll states => do setAll states; return .nothing
  | .press code => do put code true; return .nothing
  | .release code => do put code false; return .nothing
  | .releaseAll => do Action.put released; return .nothing
  | .isDown code => return .truth (← isDown code)
  | .anyDown => return .truth ((← state).keys.any id)
  | .first => return (← state).first?.elim .nothing fun key => .number key

end Keypad
end Chip8.Raw
