import Chip8.SignedIndex

namespace Chip8

structure CallStack (capacity : Nat) where
  slots : Vector UInt16 capacity
  depth : Nat
  depth_le : depth ≤ capacity
deriving DecidableEq

namespace CallStack

variable {capacity : Nat}

def empty : CallStack capacity := ⟨Vector.replicate capacity 0, 0, Nat.zero_le _⟩

instance : Inhabited (CallStack capacity) := ⟨empty⟩

def create (room : Nat → Bool) (size : Int) : Except Error ((n : Nat) × CallStack n) :=
  (checkSize room size).map fun _ => ⟨size.toNat, empty⟩

def entries (s : CallStack capacity) : List UInt16 := s.slots.toList.take s.depth

def push (s : CallStack capacity) (address : Int) : Except Fault Unit × CallStack capacity :=
  if h : s.depth < capacity then
    (.ok (), ⟨s.slots.set s.depth (UInt16.ofInt address) h, s.depth + 1, h⟩)
  else (.error (.stackFull s.depth), s)

/-- The address on top, if there is one, and the stack below it. -/
def pop? (s : CallStack capacity) : Option (UInt16 × CallStack capacity) :=
  match s with
  | ⟨_, 0, _⟩ => none
  | ⟨slots, depth + 1, h⟩ => some (slots.get ⟨depth, h⟩, ⟨slots, depth, Nat.le_of_succ_le h⟩)

def pop (s : CallStack capacity) : Except Fault UInt16 × CallStack capacity :=
  match s.pop? with
  | some (address, rest) => (.ok address, rest)
  | none => (.error .returnFromEmpty, s)

def peek (s : CallStack capacity) : Except Fault UInt16 :=
  match s.pop? with
  | some (address, _) => .ok address
  | none => .error .stackEmpty

end CallStack
end Chip8
