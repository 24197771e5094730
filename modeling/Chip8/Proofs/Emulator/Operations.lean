import Chip8.Proofs.Emulator.Run
import Chip8.Proofs.Machine.Operations

namespace Chip8

theorem Pace.period_credit (pace : Pace) (now : Float) :
    (pace.credit now).2.period = pace.period := by
  unfold credit
  split
  · rfl
  · split
    · rfl
    · split <;> rfl

namespace Emulator

inductive Operation where
  | machine (op : Machine.Operation)
  | cycle
  | run (count : Int)
  | loadRomFile (files : Files Id) (path : Path)
  | reset (clearMemory : Bool)
  | setClock (clock : Clock)

def Operation.perform (op : Operation) (emulator : Emulator) : Outcome Emulator Reply :=
  match op with
  | machine op => emulator.onMachine (op.perform emulator.machine)
  | cycle => emulator.cycle.saying fun _ => .nothing
  | run count => (emulator.run count).saying fun _ => .number count
  | loadRomFile files path => (emulator.loadRomFile files path).saying fun _ => .nothing
  | reset clearMemory => .done (emulator.reset clearMemory) .nothing #[]
  | setClock clock => .done { emulator with clock } .nothing #[]

variable {emulator : Emulator}

def fixture (emulator : Emulator) : Config × Float := (emulator.config, emulator.pace.period)

theorem fixture_cycle (emulator : Emulator) : emulator.cycle.state.fixture = emulator.fixture := by
  cases answer : emulator.machine.cycle.answer with
  | error e =>
    rw [cycle_of_machine_error answer]
    rfl
  | ok =>
    cases mode : emulator.config.timerMode with
    | perCycle =>
      rw [cycle_of_perCycle answer mode]
      rfl
    | fixedRate =>
      rw [cycle_of_fixedRate answer mode]
      obtain ⟨timers, eq⟩ := keepPace_eq { emulator with machine := emulator.machine.cycle.state }
      refine (congrArg fixture eq).trans ?_
      exact congrArg (emulator.config, ·) (Pace.period_credit _ _)

theorem state_loadRomFrom (emulator : Emulator) (path : Path) (rom : List UInt8) :
    (emulator.loadRomFrom path rom).state =
      { emulator with machine := (emulator.machine.loadRom rom).state } := by
  unfold loadRomFrom Outcome.andThen
  split <;> rfl

theorem state_loadRomFile (emulator : Emulator) (files : Files Id) (path : Path) :
    ∃ memory, (emulator.loadRomFile files path).state =
      { emulator with machine := { emulator.machine with memory } } := by
  unfold loadRomFile loadRomRead
  split
  · exact ⟨emulator.machine.memory, rfl⟩
  · rename_i rom _
    obtain ⟨memory, eq⟩ := emulator.machine.state_loadRom rom
    rw [state_loadRomFrom, eq]
    exact ⟨memory, rfl⟩

theorem run_induction (Inv : Emulator → Prop) (start : Inv emulator)
    (preserved : ∀ e, Inv e → Inv e.cycle.state) (count : Int) :
    Inv (emulator.run count).state := by
  rw [run_eq]
  split
  · exact start
  · apply Outcome.iterate_induction Inv preserved
    exact start

theorem fixture_perform (op : Operation) (emulator : Emulator) :
    (op.perform emulator).state.fixture = emulator.fixture := by
  cases op with
  | cycle => exact emulator.fixture_cycle
  | run count =>
    apply run_induction (fun e => e.fixture = emulator.fixture) rfl
    intro e same
    exact e.fixture_cycle.trans same
  | loadRomFile files path =>
    obtain ⟨memory, eq⟩ := emulator.state_loadRomFile files path
    show (emulator.loadRomFile files path).state.fixture = _
    rw [eq]
    rfl
  | _ => rfl

end Emulator
end Chip8
