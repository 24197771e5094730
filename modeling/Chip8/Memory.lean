import Chip8.Error

/-! Addresses are never wrapped: an access outside memory is a fault that names the address. Updates
answer beside the memory they leave, so that what a refused update leaves can be stated. -/

namespace Chip8

/-- Five rows for each hexadecimal digit, four pixels wide in the high half of a byte. -/
def fontBytes : List UInt8 := [
    0xF0, 0x90, 0x90, 0x90, 0xF0,
    0x20, 0x60, 0x20, 0x20, 0x70,
    0xF0, 0x10, 0xF0, 0x80, 0xF0,
    0xF0, 0x10, 0xF0, 0x10, 0xF0,
    0x90, 0x90, 0xF0, 0x10, 0x10,
    0xF0, 0x80, 0xF0, 0x10, 0xF0,
    0xF0, 0x80, 0xF0, 0x90, 0xF0,
    0xF0, 0x10, 0x20, 0x40, 0x40,
    0xF0, 0x90, 0xF0, 0x90, 0xF0,
    0xF0, 0x90, 0xF0, 0x10, 0xF0,
    0xF0, 0x90, 0xF0, 0x90, 0x90,
    0xE0, 0x90, 0xE0, 0x90, 0xE0,
    0xF0, 0x80, 0x80, 0x80, 0xF0,
    0xE0, 0x90, 0x90, 0x90, 0xE0,
    0xF0, 0x80, 0xF0, 0x80, 0xF0,
    0xF0, 0x80, 0xF0, 0x80, 0x80]

theorem length_fontBytes : fontBytes.length = 80 := rfl

def glyphAddress (digit : Int) : Int := 5 * digit

structure Memory where
  bytes : Vector UInt8 4096
  romSize : Nat
deriving DecidableEq

namespace Memory

abbrev size : Nat := 4096

abbrev programStart : Nat := 0x200

abbrev romCapacity : Nat := size - programStart

def blank : Memory where
  bytes := ⟨⟨fontBytes ++ List.replicate (size - 80) 0⟩, by
    rw [List.size_toArray, List.length_append, List.length_replicate, length_fontBytes]
    rfl⟩
  romSize := 0

def InRange (address : Int) : Prop := 0 ≤ address ∧ address < size

theorem inRange_iff {address : Int} : 0 ≤ address ∧ address.toNat < size ↔ InRange address := by
  unfold InRange
  omega

-- Decided by natural numbers: a difference of integers would be counted down from `size`.
instance (address : Int) : Decidable (InRange address) :=
  decidable_of_decidable_of_iff inRange_iff

theorem InRange.toNat_lt {address : Int} (h : InRange address) : address.toNat < size :=
  (inRange_iff.2 h).2

def read (m : Memory) (address : Int) : Except Fault UInt8 :=
  if h : InRange address then .ok (m.bytes.get ⟨address.toNat, h.toNat_lt⟩)
  else .error (.outOfRange address)

def readWord (m : Memory) (address : Int) : Except Fault UInt16 := do
  let high ← m.read address
  let low ← m.read (address + 1)
  return UInt16.ofNat (256 * high.toNat + low.toNat)

/-- The end of a block that lies outside memory, the lower one if both do. -/
def strayEnd? (address : Int) (length : Nat) : Option Int :=
  if InRange address then
    if InRange (address + length - 1) then none else some (address + length - 1)
  else some address

def readBlock (m : Memory) (address length : Int) : Except Fault (List UInt8) :=
  if length ≤ 0 then .ok []
  else
    match strayEnd? address length.toNat with
    | some stray => .error (.outOfRange stray)
    | none => .ok ((m.bytes.toList.drop address.toNat).take length.toNat)

/-- The bytes of `data` laid over those from position `start` on, as far as memory goes. -/
def overlay (bytes : Vector UInt8 size) (start : Nat) : List UInt8 → Vector UInt8 size
  | [] => bytes
  | value :: rest =>
    if h : start < size then overlay (bytes.set start value h) (start + 1) rest else bytes

def write (m : Memory) (address value : Int) : Except Fault Unit × Memory :=
  if h : InRange address then
    (.ok (), { m with bytes := m.bytes.set address.toNat (UInt8.ofInt value) h.toNat_lt })
  else (.error (.outOfRange address), m)

def writeWord (m : Memory) (address value : Int) : Except Fault Unit × Memory :=
  match m.write address (value / 256) with
  | (.ok (), m) => m.write (address + 1) value
  | refused => refused

def writeBlock (m : Memory) (address : Int) (data : List UInt8) : Except Fault Unit × Memory :=
  if data.isEmpty then (.ok (), m)
  else
    match strayEnd? address data.length with
    | some stray => (.error (.outOfRange stray), m)
    | none => (.ok (), { m with bytes := overlay m.bytes address.toNat data })

def loadRom (m : Memory) (rom : List UInt8) : Except Error Unit × Memory :=
  if rom.length ≤ romCapacity then
    (.ok (), ⟨overlay m.bytes programStart rom, rom.length⟩)
  else (.error (.ofRomSize rom.length romCapacity ""), m)

end Memory
end Chip8
