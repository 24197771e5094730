import Chip8.Proofs.Emulator.Run
import Chip8.Proofs.Machine.Atomicity
import Mathlib.Logic.Function.Iterate

namespace Chip8

namespace Emulator

variable {emulator : Emulator} {e : Error}

def StopsAfter (emulator : Emulator) (k : Nat) (count : Int) (e : Error) : Prop :=
  k < count ∧ (emulator.run k).answer = .ok () ∧
    (emulator.run k).state.machine.cycle.answer = .error e

theorem run_of_stopsAfter {k : Nat} {count : Int} (h : emulator.StopsAfter k count e) :
    (emulator.run count).answer = .error e ∧
      (emulator.run count).state = { (emulator.run k).state with
        machine := (emulator.run k).state.machine.stalled e } ∧
      (emulator.run count).beeps = (emulator.run k).beeps := by
  obtain ⟨below, through, stopped⟩ := h
  obtain ⟨n, rfl⟩ := Int.eq_ofNat_of_zero_le (show 0 ≤ count by omega)
  obtain ⟨state, quiet⟩ := Machine.cycle_state_of_error stopped
  rw [run_natCast] at through stopped state quiet
  have last := cycle_of_machine_error stopped
  have run : emulator.run n = _ := (run_natCast emulator n).trans
    (Outcome.iterate_of_step_error (by omega) through (e := e) (by rw [last]; rfl))
  rw [run, last, run_natCast, state, Outcome.beeps_after]
  refine ⟨rfl, rfl, ?_⟩
  exact (congrArg _ quiet).trans (List.append_nil _)

theorem stopsAfter_of_run_error {n : Nat} (h : (emulator.run n).answer = .error e) :
    ∃ k, emulator.StopsAfter k n e ∨
      k < n ∧ (emulator.run k).answer = .ok () ∧
        (emulator.run k).state.machine.cycle.answer = .ok () ∧
        (emulator.run k).state.cycle.answer = .error e := by
  rw [run_natCast] at h
  obtain ⟨k, below, through, stopped⟩ := Outcome.exists_step_error_of_iterate rfl h
  rw [← run_natCast] at through stopped
  refine ⟨k, ?_⟩
  cases answer : (emulator.run k).state.machine.cycle.answer with
  | error e' =>
    rw [cycle_of_machine_error answer] at stopped
    cases stopped
    exact Or.inl ⟨by omega, through, answer⟩
  | ok => exact Or.inr ⟨below, through, rfl, stopped⟩

theorem cycles_of_stopsAfter {k : Nat} {count : Int} (h : emulator.StopsAfter k count e) :
    (emulator.run count).state.machine.cycles = emulator.machine.cycles + k := by
  rw [(run_of_stopsAfter h).2.1]
  exact cycles_of_run_ok h.2.1

end Emulator

/-- A stopped cycle leaves the machine as it was, up to the word it fetched and the key source. -/
theorem stopped_cycle_changes_nothing :
    (∀ (m : Machine) (e : Error), m.cycle.answer = .error e →
      m.cycle.state = m.stalled e ∧ m.cycle.beeps = []) ∧
    (∀ (m : Machine) (f : Fault), m.cycle.answer = .error (.fault f) → ∀ n : Nat,
      let later := (fun m : Machine => m.cycle.state)^[n] m.cycle.state
      later.cycle.answer = .error (.fault f) ∧ later = m.cycle.state) ∧
    (∀ (emulator : Emulator) (k : Nat) (count : Int) (e : Error), emulator.StopsAfter k count e →
      (emulator.run count).answer = .error e ∧
      (emulator.run count).state = { (emulator.run k).state with
        machine := (emulator.run k).state.machine.stalled e } ∧
      (emulator.run count).beeps = (emulator.run k).beeps ∧
      (emulator.run count).state.machine.cycles = emulator.machine.cycles + k) ∧
    (∀ (emulator : Emulator) (count : Nat) (e : Error), (emulator.run count).answer = .error e →
      ∃ k, emulator.StopsAfter k count e ∨
        k < count ∧ (emulator.run k).answer = .ok () ∧
          (emulator.run k).state.machine.cycle.answer = .ok () ∧
          (emulator.run k).state.cycle.answer = .error e) := by
  refine ⟨fun m e => Machine.cycle_state_of_error, ?_, ?_,
    fun emulator count e => Emulator.stopsAfter_of_run_error⟩
  · intro m f stopped n
    obtain ⟨again, fixed⟩ := Machine.cycle_stalled stopped
    rw [(Machine.cycle_state_of_error stopped).1]
    intro later
    have same : later = m.stalled (.fault f) := Function.iterate_fixed fixed n
    exact ⟨same ▸ again, same⟩
  · intro emulator k count e stops
    obtain ⟨answer, state, beeps⟩ := Emulator.run_of_stopsAfter stops
    exact ⟨answer, state, beeps, Emulator.cycles_of_stopsAfter stops⟩

theorem stopped_cycle_changes_nothing_return :
    let machine := Machine.loaded [0x60, 0x05, 0x00, 0xEE]
    let emulator : Emulator := { config := {}, machine, clock := .still 0, pace := ⟨1, none⟩ }
    let fault := Fault.returnFromEmpty.locate (some 0x202) (some 0x00EE)
    let m := (emulator.run 1).state.machine
    m.cycle.answer = .error (.fault fault) ∧
      m.cycle.state = m.stalled (.fault fault) ∧ m.cycle.beeps = [] ∧
      (∀ n : Nat, ((fun m : Machine => m.cycle.state)^[n] m.cycle.state) = m.cycle.state) ∧
      emulator.StopsAfter 1 3 (.fault fault) ∧
      (emulator.run 3).answer = .error (.fault fault) ∧
      (emulator.run 3).state.machine.cycles = 0 + 1 ∧
      ∃ k, emulator.StopsAfter k 3 (.fault fault) ∨
        k < 3 ∧ (emulator.run k).answer = .ok () ∧
          (emulator.run k).state.machine.cycle.answer = .ok () ∧
          (emulator.run k).state.cycle.answer = .error (.fault fault) := by
  intro machine emulator fault m
  have stopped : m.cycle.answer = .error (.fault fault) := by decide +kernel
  have through : (emulator.run 1).answer = .ok () := by decide +kernel
  have stops : emulator.StopsAfter 1 3 (.fault fault) := ⟨by decide, through, stopped⟩
  obtain ⟨single, repeated, run, every⟩ := stopped_cycle_changes_nothing
  obtain ⟨answer, -, -, cycles⟩ := run emulator 1 3 _ stops
  obtain ⟨state, quiet⟩ := single m _ stopped
  exact ⟨stopped, state, quiet, fun n => (repeated m fault stopped n).2, stops, answer, cycles,
    every emulator 3 _ answer⟩

end Chip8
