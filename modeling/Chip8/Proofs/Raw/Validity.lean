import Chip8.Proofs.Emulator.Counts
import Chip8.Proofs.Raw.Emulator

namespace Chip8

namespace Raw

def Within (bound value : Int) : Prop := 0 ≤ value ∧ value ≤ bound

def AllWithin (bound : Int) (values : List Int) : Prop := ∀ value ∈ values, Within bound value

structure Memory.Valid (m : Memory) : Prop where
  length : m.data.length = 4096
  bytes : AllWithin 255 m.data
  romSize : Within 3584 m.romSize

structure Registers.Valid (r : Registers) : Prop where
  length : r.v.length = 16
  bytes : AllWithin 255 r.v
  i : Within 65535 r.i
  pc : Within 65535 r.pc
  opcode : Within 65535 r.opcode

structure CallStack.Valid (s : CallStack) : Prop where
  length : s.slots.length = 16
  words : AllWithin 65535 s.slots
  sp : Within 16 s.sp

structure Timers.Valid (t : Timers) : Prop where
  delay : Within 255 t.delay
  sound : Within 255 t.sound

structure Screen.Valid (fb : Screen) : Prop where
  width : fb.width = 64
  height : fb.height = 32
  length : fb.pixels.length = 64 * 32

structure Machine.Valid (m : Machine) (completed : Nat) : Prop where
  memory : m.memory.Valid
  registers : m.registers.Valid
  stack : m.stack.Valid
  timers : m.timers.Valid
  screen : m.screen.Valid
  keys : m.keypad.keys.length = 16
  cycles : m.cycles = completed

theorem within_natCast {bound value : Nat} (h : value ≤ bound) : Within bound value :=
  ⟨Int.natCast_nonneg _, Int.ofNat_le.2 h⟩

theorem within_byte (value : UInt8) : Within 255 value.toNat :=
  within_natCast (Nat.le_of_lt_succ value.toNat_lt)

theorem within_word (value : UInt16) : Within 65535 value.toNat :=
  within_natCast (Nat.le_of_lt_succ value.toNat_lt)

theorem allWithin_numbers {α : Type} {n : Nat} {bound : Int} {toNat : α → Nat}
    (within : ∀ a, Within bound (toNat a)) (values : Vector α n) :
    AllWithin bound (numbers toNat values) := by
  intro value member
  obtain ⟨a, -, rfl⟩ := List.mem_map.1 member
  exact within a

theorem exists_byte {value : Int} (within : Within 255 value) :
    ((UInt8.ofInt value).toNat : Int) = value := by
  obtain ⟨above, below⟩ := within
  rw [toNat_byteOfInt]
  omega

theorem exists_word {value : Int} (within : Within 65535 value) :
    ((UInt16.ofInt value).toNat : Int) = value := by
  obtain ⟨above, below⟩ := within
  rw [toNat_ofInt]
  omega

theorem exists_vector {α : Type} {n : Nat} {l : List α} (length : l.length = n) :
    ∃ values : Vector α n, values.toList = l :=
  ⟨⟨l.toArray, length⟩, rfl⟩

theorem exists_numbers {α : Type} {n : Nat} {bound : Int} {toNat : α → Nat} {ofInt : Int → α}
    (inverse : ∀ {value}, Within bound value → (toNat (ofInt value) : Int) = value) {l : List Int}
    (length : l.length = n) (within : AllWithin bound l) :
    ∃ values : Vector α n, numbers toNat values = l := by
  obtain ⟨values, stored⟩ := exists_vector ((List.length_map ofInt).trans length)
  refine ⟨values, ?_⟩
  -- Numbers in range are read back as they are.
  rw [numbers, stored, List.map_map]
  have same : ∀ value ∈ l, (toNat (ofInt value) : Int) = id value :=
    fun value member => inverse (within value member)
  exact (List.map_congr_left same).trans (List.map_id l)

end Raw

open Raw

theorem Memory.valid_raw {m : Memory} (size : m.romSize ≤ romCapacity) : m.raw.Valid where
  length := Raw.length_numbers _ _
  bytes := allWithin_numbers within_byte _
  romSize := within_natCast size

theorem Registers.valid_raw (r : Registers) : r.raw.Valid where
  length := Raw.length_numbers _ _
  bytes := allWithin_numbers within_byte _
  i := within_word _
  pc := within_word _
  opcode := within_word _

theorem CallStack.valid_raw (s : CallStack 16) : s.raw.Valid where
  length := Raw.length_numbers _ _
  words := allWithin_numbers within_word _
  sp := within_natCast s.depth_le

theorem Machine.valid_raw {m : Machine} (size : m.memory.romSize ≤ Memory.romCapacity) :
    m.raw.Valid m.cycles where
  memory := Memory.valid_raw size
  registers := m.registers.valid_raw
  stack := m.stack.valid_raw
  timers := ⟨within_byte _, within_byte _⟩
  screen := ⟨rfl, rfl, Vector.length_toList⟩
  keys := Vector.length_toList
  cycles := rfl

theorem Memory.exists_raw {s : Raw.Memory} (valid : s.Valid) :
    ∃ m : Memory, m.romSize ≤ romCapacity ∧ m.raw = s := by
  obtain ⟨bytes, stored⟩ := exists_numbers exists_byte valid.length valid.bytes
  obtain ⟨size, eq⟩ := Int.eq_ofNat_of_zero_le valid.romSize.1
  have below : size ≤ 3584 := Int.ofNat_le.1 (eq ▸ valid.romSize.2)
  refine ⟨⟨bytes, size⟩, below, ?_⟩
  rw [raw, stored, ← eq]

theorem Registers.exists_raw {s : Raw.Registers} (valid : s.Valid) :
    ∃ r : Registers, r.raw = s := by
  obtain ⟨v, stored⟩ := exists_numbers exists_byte valid.length valid.bytes
  refine ⟨⟨v, UInt16.ofInt s.i, UInt16.ofInt s.pc, UInt16.ofInt s.opcode⟩, ?_⟩
  rw [raw, stored, exists_word valid.i, exists_word valid.pc, exists_word valid.opcode]

theorem CallStack.exists_raw {s : Raw.CallStack} (valid : s.Valid) :
    ∃ stack : CallStack 16, stack.raw = s := by
  obtain ⟨slots, stored⟩ := exists_numbers exists_word valid.length valid.words
  obtain ⟨depth, eq⟩ := Int.eq_ofNat_of_zero_le valid.sp.1
  have bound : depth ≤ 16 := Int.ofNat_le.1 (eq ▸ valid.sp.2)
  refine ⟨⟨slots, depth, bound⟩, ?_⟩
  rw [raw, stored, ← eq]

theorem Timers.exists_raw {s : Raw.Timers} (valid : s.Valid) : ∃ t : Timers, t.raw = s := by
  refine ⟨⟨UInt8.ofInt s.delay, UInt8.ofInt s.sound⟩, ?_⟩
  rw [raw, exists_byte valid.delay, exists_byte valid.sound]

theorem Framebuffer.exists_raw {s : Raw.Screen} (valid : s.Valid) : ∃ fb : Screen, fb.raw = s := by
  obtain ⟨pixels, stored⟩ := exists_vector valid.length
  refine ⟨⟨pixels, s.dirty, by decide, by decide⟩, ?_⟩
  rw [raw, stored, ← valid.width, ← valid.height]

theorem Machine.exists_raw {s : Raw.Machine} {completed : Nat} (valid : s.Valid completed) :
    ∃ m : Machine, m.memory.romSize ≤ Memory.romCapacity ∧ m.cycles = completed ∧ m.raw = s := by
  obtain ⟨memory, size, memory_eq⟩ := Memory.exists_raw valid.memory
  obtain ⟨registers, registers_eq⟩ := Registers.exists_raw valid.registers
  obtain ⟨stack, stack_eq⟩ := CallStack.exists_raw valid.stack
  obtain ⟨timers, timers_eq⟩ := Timers.exists_raw valid.timers
  obtain ⟨screen, screen_eq⟩ := Framebuffer.exists_raw valid.screen
  obtain ⟨down, keys_eq⟩ := exists_vector valid.keys
  refine ⟨⟨memory, registers, stack, timers, screen, ⟨down⟩, s.random, s.keySource, s.listening,
    s.tickPerCycle, completed⟩, size, rfl, ?_⟩
  rw [raw, memory_eq, registers_eq, stack_eq, timers_eq, screen_eq, Keypad.raw, keys_eq,
    ← valid.cycles]

end Chip8
