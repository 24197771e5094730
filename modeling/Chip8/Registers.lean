import Chip8.Error
import Chip8.Instruction.Basic
import Chip8.Memory
import Chip8.SignedIndex

namespace Chip8

structure Registers where
  v : Vector UInt8 16
  i : UInt16
  pc : UInt16
  opcode : UInt16
deriving DecidableEq

namespace Registers

def initial : Registers := ⟨Vector.replicate 16 0, 0, UInt16.ofNat Memory.programStart, 0⟩

def flag : Register := ⟨15, by decide⟩

def value (r : Registers) (x : Register) : UInt8 := r.v.get x

def assign (r : Registers) (x : Register) (value : UInt8) : Registers :=
  { r with v := r.v.set x value x.isLt }

def raise (r : Registers) (up : Bool) : Registers := r.assign flag (if up then 1 else 0)

def get (r : Registers) (index : Int) : Except Error UInt8 :=
  match signedIndex? 16 index with
  | some x => .ok (r.value x)
  | none => .error (.ofIndex index .readIndex)

/-- Stores the low byte of `value` at a signed index. -/
def set (r : Registers) (index value : Int) : Except Error Unit × Registers :=
  match signedIndex? 16 index with
  | some x => (.ok (), r.assign x (UInt8.ofInt value))
  | none => (.error (.ofIndex index .writeIndex), r)

def setFlag (r : Registers) (value : Int) : Registers := r.assign flag (UInt8.ofInt value)

def setI (r : Registers) (value : Int) : Registers := { r with i := UInt16.ofInt value }

def setPc (r : Registers) (value : Int) : Registers := { r with pc := UInt16.ofInt value }

def setOpcode (r : Registers) (value : Int) : Registers := { r with opcode := UInt16.ofInt value }

end Registers
end Chip8
