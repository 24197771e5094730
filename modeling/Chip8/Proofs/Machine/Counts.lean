import Chip8.Proofs.Machine.Atomicity
import Chip8.Proofs.Machine.Operations
import Mathlib.Order.Basic

namespace Chip8

namespace Memory

theorem romSize_write (m : Memory) (address value : Int) :
    (m.write address value).2.romSize = m.romSize := by
  unfold write
  split <;> rfl

theorem romSize_writeWord (m : Memory) (address value : Int) :
    (m.writeWord address value).2.romSize = m.romSize := by
  have high := romSize_write m address (value / 256)
  unfold writeWord
  split
  · rename_i written eq
    rw [eq] at high
    exact (romSize_write written _ _).trans high
  · exact high

theorem romSize_loadRom_le {m : Memory} (h : m.romSize ≤ romCapacity) (rom : List UInt8) :
    (m.loadRom rom).2.romSize ≤ romCapacity := by
  unfold loadRom
  split
  · assumption
  · exact h

theorem romSize_perform_le {m : Memory} (h : m.romSize ≤ romCapacity) (op : Operation) :
    (op.perform m).2.romSize ≤ romCapacity := by
  cases op with
  | write address value => exact (romSize_write m address value).trans_le h
  | writeWord address value => exact (romSize_writeWord m address value).trans_le h
  | writeBlock address data => exact (romSize_writeBlock m address data).trans_le h
  | clear => exact Nat.zero_le _
  | _ => exact h

end Memory

namespace Machine

variable {m : Machine}

theorem romSize_cycle (m : Machine) : m.cycle.state.memory.romSize = m.memory.romSize := by
  refine cycle_induction (P := fun after => after.memory.romSize = m.memory.romSize)
    (fun _ => rfl) ?_
  intro word pc timers cycles completes
  exact (attempt_frame m word).romSize

theorem memory_loadRom (m : Machine) (rom : List UInt8) :
    (m.loadRom rom).state.memory = (m.memory.loadRom rom).2 := by
  unfold loadRom
  split <;> simp_all [Outcome.done, Outcome.stopped]

namespace Operation

theorem romSize_perform_le (h : m.memory.romSize ≤ Memory.romCapacity) (op : Operation) :
    (op.perform m).state.memory.romSize ≤ Memory.romCapacity := by
  cases op with
  | cycle => exact m.romSize_cycle.trans_le h
  | execute ins pc => exact (execute_frame m ins pc).romSize.trans_le h
  | loadRom rom =>
    show (m.loadRom rom).state.memory.romSize ≤ _
    rw [memory_loadRom]
    exact Memory.romSize_loadRom_le h rom
  | reset clearMemory =>
    cases clearMemory with
    | true => exact Nat.zero_le _
    | false => exact h
  | memory op => exact Memory.romSize_perform_le h op
  | _ => exact h

/-- The completed cycles after an operation, if there were so many before it. -/
def completed (op : Operation) (m : Machine) (before : Nat) : Nat :=
  match op with
  | cycle => if m.cycle.answer = .ok () then before + 1 else before
  | reset _ => 0
  | _ => before

theorem cycles_perform (op : Operation) (m : Machine) :
    (op.perform m).state.cycles = op.completed m m.cycles := by
  cases op with
  | cycle =>
    show m.cycle.state.cycles = ite _ _ _
    cases answer : m.cycle.answer with
    | error e =>
      rw [(cycle_state_of_error answer).1]
      rfl
    | ok => exact cycles_of_cycle_ok answer
  | execute ins pc => exact (execute_frame m ins pc).cycles
  | loadRom rom =>
    obtain ⟨memory, eq⟩ := m.state_loadRom rom
    show (m.loadRom rom).state.cycles = m.cycles
    rw [eq]
  | _ => rfl

end Operation

end Machine
end Chip8
