import Chip8.Proofs.Emulator.Start

namespace Chip8

namespace Emulator

variable {emulator : Emulator}

theorem romSize_cycle (emulator : Emulator) :
    emulator.cycle.state.machine.memory.romSize = emulator.machine.memory.romSize := by
  obtain ⟨timers, eq⟩ := emulator.machine_cycle_eq
  rw [eq]
  exact emulator.machine.romSize_cycle

namespace Operation

theorem romSize_perform_le (h : emulator.machine.memory.romSize ≤ Memory.romCapacity)
    (op : Operation) :
    (op.perform emulator).state.machine.memory.romSize ≤ Memory.romCapacity := by
  cases op with
  | machine op => exact Machine.Operation.romSize_perform_le h op
  | cycle => exact emulator.romSize_cycle.trans_le h
  | run count =>
    apply run_induction (fun e => e.machine.memory.romSize ≤ Memory.romCapacity) h
    intro e bound
    exact e.romSize_cycle.trans_le bound
  | loadRomFile files path => exact romSize_loadRomFile_le h files path
  | reset clearMemory => exact Machine.Operation.romSize_perform_le h (.reset clearMemory)
  | setClock clock => exact h

/-- A run counts the cycles that it begins and its machine completes. -/
def completed (op : Operation) (emulator : Emulator) (before : Nat) : Nat :=
  match op with
  | machine op => op.completed emulator.machine before
  | cycle => if emulator.machine.cycle.answer = .ok () then before + 1 else before
  | run count => before + Nat.count emulator.CompletesAt count.toNat
  | reset _ => 0
  | loadRomFile _ _ | setClock _ => before

theorem cycles_perform (op : Operation) (emulator : Emulator) :
    (op.perform emulator).state.machine.cycles =
      op.completed emulator emulator.machine.cycles := by
  cases op with
  | machine op => exact op.cycles_perform emulator.machine
  | cycle =>
    obtain ⟨timers, eq⟩ := emulator.machine_cycle_eq
    have counted := Machine.Operation.cycle.cycles_perform emulator.machine
    show emulator.cycle.state.machine.cycles = _
    rw [eq]
    exact counted
  | run count =>
    show (emulator.run count).state.machine.cycles =
      emulator.machine.cycles + Nat.count emulator.CompletesAt count.toNat
    by_cases negative : count < 0
    · rw [Emulator.run_eq, if_pos negative, Int.toNat_of_nonpos (Int.le_of_lt negative)]
      rfl
    · obtain ⟨n, rfl⟩ := Int.eq_ofNat_of_zero_le (Int.not_lt.1 negative)
      exact emulator.cycles_run n
  | loadRomFile files path =>
    obtain ⟨memory, eq⟩ := emulator.state_loadRomFile files path
    show (emulator.loadRomFile files path).state.machine.cycles = emulator.machine.cycles
    rw [eq]
  | _ => rfl

end Operation

end Emulator
end Chip8
