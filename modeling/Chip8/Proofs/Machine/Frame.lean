import Chip8.Proofs.Machine.Execution

namespace Chip8

namespace Instruction

def writes : Instruction → Register → Bool
  | loadByte x _ | addByte x _ | random x _ | readDelay x | awaitKey x => fun k => k == x
  | copy x _ | or x _ | and x _ | xor x _ => fun k => k == x
  | add x _ | sub x _ | subFrom x _ => fun k => k == x || k == Registers.flag
  | shiftRight x y | shiftLeft x y => fun k => k == x || k == y || k == Registers.flag
  | draw _ _ _ => fun k => k == Registers.flag
  | loadRegisters _ => fun _ => true
  | _ => fun _ => false

def movesIndex : Instruction → Bool
  | loadIndex _ | addIndex _ | loadGlyph _ | storeRegisters _ | loadRegisters _ => true
  | _ => false

def stores : Instruction → Bool
  | storeDecimal _ | storeRegisters _ => true
  | _ => false

def usesStack : Instruction → Bool
  | ret | call _ => true
  | _ => false

def draws : Instruction → Bool
  | clear | draw _ _ _ => true
  | _ => false

end Instruction

namespace Registers

theorem value_assign (r : Registers) (x k : Register) (value : UInt8) :
    (r.assign x value).value k = if k = x then value else r.value k := by
  show (r.v.set x.val value x.isLt)[k.val] = if k = x then value else r.v[k.val]
  rw [Vector.getElem_set]
  simp only [Fin.ext_iff, eq_comm]

end Registers

theorem Memory.romSize_writeBlock (m : Memory) (address : Int) (data : List UInt8) :
    (m.writeBlock address data).2.romSize = m.romSize := by
  unfold writeBlock
  split
  · rfl
  · split <;> rfl

namespace Machine

theorem flag_raise (r : Registers) (up : Bool) :
    (r.raise up).value Registers.flag = if up then 1 else 0 := by
  rw [Registers.raise, Registers.value_assign, if_pos rfl]

/-- All that `ins` does not name is in `after` as it is in `m`. -/
structure Frame (ins : Instruction) (m after : Machine) : Prop where
  pc : after.registers.pc = m.registers.pc
  opcode : after.registers.opcode = m.registers.opcode
  value : ∀ k, ins.writes k = false → after.registers.value k = m.registers.value k
  index : ins.movesIndex = false → after.registers.i = m.registers.i
  memory : ins.stores = false → after.memory = m.memory
  romSize : after.memory.romSize = m.memory.romSize
  stack : ins.usesStack = false → after.stack = m.stack
  delay : (∀ x, ins ≠ .setDelay x) → after.timers.delay = m.timers.delay
  sound : (∀ x, ins ≠ .setSound x) → after.timers.sound = m.timers.sound
  screen : ins.draws = false → after.screen = m.screen
  keys : (∀ x, ins ≠ .awaitKey x) ∨ m.keypad.first? ≠ none →
    after.keypad = m.keypad ∧ after.keySource = m.keySource
  random : (∀ x nn, ins ≠ .random x nn) → after.random = m.random
  listening : after.listening = m.listening
  tickPerCycle : after.tickPerCycle = m.tickPerCycle
  cycles : after.cycles = m.cycles

variable {m : Machine} {ins : Instruction}

theorem Frame.refl (ins : Instruction) (m : Machine) : Frame ins m m := by
  constructor <;> intros <;> first | rfl | exact ⟨rfl, rfl⟩

theorem Frame.of_registers {r : Registers} (pc : r.pc = m.registers.pc)
    (opcode : r.opcode = m.registers.opcode)
    (value : ∀ k, ins.writes k = false → r.value k = m.registers.value k)
    (index : ins.movesIndex = false → r.i = m.registers.i) :
    Frame ins m { m with registers := r } :=
  { Frame.refl ins m with pc, opcode, value, index }

theorem frame_raise {screen : Screen} {up : Bool} {x y : Register} {n : Fin 16} :
    Frame (.draw x y n) m { m with screen, registers := m.registers.raise up } := by
  refine { Frame.refl _ m with screen := nofun, value := fun k h => ?_ }
  simp_all [Instruction.writes, Registers.raise, Registers.value_assign]

theorem frame_asked {x : Register} (up : m.keypad.first? = none) (source : KeySource) :
    Frame (.awaitKey x) m (m.asked source) :=
  { Frame.refl _ m with keys := fun h => absurd up (h.resolve_left fun h => h x rfl) }

theorem frame_awaitKey (m : Machine) (x : Register) (pc : Int) :
    Frame (.awaitKey x) m (m.awaitKey x pc).state := by
  have assigned (key : Key) (k : Register) (h : (Instruction.awaitKey x).writes k = false) :
      (m.registers.assign x (.ofNat key)).value k = m.registers.value k := by
    simp_all [Instruction.writes, Registers.value_assign]
  cases m.waitEnds x pc with
  | down key first ends =>
    rw [ends]
    exact .of_registers rfl rfl (assigned key) fun _ => rfl
  | alone up alone ends =>
    rw [ends]
    exact Frame.refl _ m
  | refused source up asks count ends =>
    rw [ends]
    exact frame_asked up source
  | given source key up asks count first ends =>
    rw [ends]
    exact { frame_asked up source with value := assigned key }
  | vain source up asks count first ends =>
    rw [ends]
    exact frame_asked up source

theorem execute_frame (m : Machine) (ins : Instruction) (pc : Int) :
    Frame ins m (m.execute ins pc).state := by
  have no {p : Prop} (h : true = false) : p := by cases h
  cases ins
  case clear => exact { Frame.refl _ m with screen := no }
  case ret =>
    simp only [execute]
    split <;> exact { Frame.refl _ m with stack := no }
  case call nnn =>
    simp only [execute]
    split <;> exact { Frame.refl _ m with stack := no }
  case random x nn =>
    refine { Frame.refl _ m with random := fun h => absurd rfl (h x nn), value := fun k h => ?_ }
    simp_all [execute, continueWith, Outcome.done, Instruction.writes, Registers.value_assign]
  case draw x y n =>
    simp only [execute]
    split
    · exact frame_raise
    · exact Frame.refl _ m
  case setDelay x => exact { Frame.refl _ m with delay := fun h => absurd rfl (h x) }
  case setSound x => exact { Frame.refl _ m with sound := fun h => absurd rfl (h x) }
  case awaitKey x => exact frame_awaitKey m x pc
  case storeDecimal x =>
    have romSize := Memory.romSize_writeBlock m.memory m.registers.i.toNat
      (decimalDigits (m.registers.value x))
    simp only [execute]
    split
    all_goals
      rename_i written
      rw [written] at romSize
      exact { Frame.refl _ m with memory := no, romSize }
  case storeRegisters x =>
    have romSize := Memory.romSize_writeBlock m.memory m.registers.i.toNat m.registers.v.toList
    simp only [execute]
    split
    all_goals
      rename_i written
      rw [written] at romSize
    · exact { Frame.refl _ m with memory := no, romSize, index := no }
    · exact { Frame.refl _ m with memory := no, romSize }
  case loadRegisters x =>
    simp only [execute]
    split
    · exact .of_registers rfl rfl (fun _ => no) no
    · exact Frame.refl _ m
  case loadIndex => exact .of_registers rfl rfl (fun _ _ => rfl) no
  case addIndex => exact .of_registers rfl rfl (fun _ _ => rfl) no
  case loadGlyph => exact .of_registers rfl rfl (fun _ _ => rfl) no
  -- What is left changes registers by `assign` and `raise`, or nothing.
  all_goals
    refine .of_registers rfl rfl (fun k h => ?_) (fun _ => rfl)
    simp_all [Instruction.writes, Registers.raise, shift, Registers.value_assign]

end Machine
end Chip8
