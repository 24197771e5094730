import Chip8.Proofs.Machine.Frame

namespace Chip8

def Instruction.storedBytes : Instruction → Nat
  | storeDecimal _ => 3
  | storeRegisters _ => 16
  | _ => 0

namespace Machine

structure Footprint (ins : Instruction) (m after : Machine) : Prop extends Frame ins m after where
  bytes : ∀ a : Fin Memory.size,
    ¬ (m.registers.i.toNat ≤ a.val ∧ a.val < m.registers.i.toNat + ins.storedBytes) →
      after.memory.bytes.get a = m.memory.bytes.get a
  waiting : ∀ x, ins = .awaitKey x → after.keypad.first? = none → after.registers = m.registers

variable {m : Machine}

theorem memory_execute_storeDecimal (m : Machine) (x : Register) (pc : Int) :
    (m.execute (.storeDecimal x) pc).state.memory =
      (m.memory.writeBlock m.registers.i.toNat (decimalDigits (m.registers.value x))).2 := by
  simp only [execute]
  split
  all_goals
    rename_i written
    rw [written]
    rfl

theorem memory_execute_storeRegisters (m : Machine) (x : Register) (pc : Int) :
    (m.execute (.storeRegisters x) pc).state.memory =
      (m.memory.writeBlock m.registers.i.toNat m.registers.v.toList).2 := by
  simp only [execute]
  split
  all_goals
    rename_i written
    rw [written]
    rfl

theorem bytes_execute {ins : Instruction} {a : Fin Memory.size}
    (h : ¬ (m.registers.i.toNat ≤ a.val ∧ a.val < m.registers.i.toNat + ins.storedBytes))
    (pc : Int) : (m.execute ins pc).state.memory.bytes.get a = m.memory.bytes.get a := by
  cases stored : ins with
  | storeDecimal x =>
    subst stored
    rw [memory_execute_storeDecimal]
    exact m.memory.get_writeBlock_of_outside h
  | storeRegisters x =>
    subst stored
    rw [memory_execute_storeRegisters]
    apply m.memory.get_writeBlock_of_outside
    rwa [Vector.length_toList]
  | _ =>
    subst stored
    refine congrArg (fun memory : Memory => memory.bytes.get a) ?_
    exact (execute_frame m _ pc).memory rfl

theorem registers_awaitKey {x : Register} {pc : Int}
    (h : (m.awaitKey x pc).state.keypad.first? = none) :
    (m.awaitKey x pc).state.registers = m.registers := by
  cases m.waitEnds x pc with
  | down key first ends =>
    rw [ends] at h
    exact absurd (first.symm.trans h) nofun
  | given source key up asks count first ends =>
    rw [ends] at h
    exact absurd (first.symm.trans h) nofun
  | _ =>
    rename_i ends
    rw [ends]
    rfl

theorem execute_footprint (m : Machine) (ins : Instruction) (pc : Int) :
    Footprint ins m (m.execute ins pc).state where
  toFrame := execute_frame m ins pc
  bytes _ outside := bytes_execute outside pc
  waiting x eq first := by
    subst eq
    exact registers_awaitKey first

end Machine
end Chip8
