import Chip8.Proofs.Emulator.Operations
import Chip8.Proofs.Raw.Cycles

namespace Chip8

namespace Raw

open Chip8.Action

def Machine.ticks : Nat → Action Machine Unit
  | 0 => pure ()
  | count + 1 => do
    tick
    ticks count

structure Emulator where
  config : Config
  machine : Machine
  clock : Clock
  pace : Pace

namespace Emulator

def create (config : Config) (random : Option RandomSource) (keySource : Option KeySource)
    (clock : Clock) : Except Error Emulator := do
  let pace ← Pace.ofRate config.timerHz
  let machine := Machine.initial (random.getD (.ofSeed config.seed))
  return {
    config, clock, pace
    machine := { machine with keySource, tickPerCycle := config.timerMode == .perCycle } }

def onMachine {α : Type} : Action Machine α → Action Emulator α :=
  on machine fun machine e => { e with machine }

def loadRomFile (files : Files Id) (path : Path) : Action Emulator Unit := do
  let rom ← ofExcept (files.readRom path).run
  onMachine (Machine.loadRom rom)
  log (.romLoaded path.text)

def start (config : Config) (random : Option RandomSource) (keySource : Option KeySource)
    (clock : Clock) (files : Files Id) : Except Error Emulator × Array Event :=
  match create config random keySource clock with
  | .error e => (.error e, #[])
  | .ok emulator =>
    match config.romPath with
    | none => (.ok emulator, #[])
    | some path =>
      let o := (loadRomFile files (.ofText path)).run emulator
      (o.answer.map fun _ => o.state, o.events)

def reset (clearMemory : Bool) : Action Emulator Unit := do
  onMachine (Machine.reset clearMemory)
  let e ← state
  put { e with pace := { e.pace with credited := none } }

def keepPace : Action Emulator Unit := do
  let e ← state
  let credit := e.pace.credit e.clock.read.1
  put { e with clock := e.clock.read.2, pace := credit.2 }
  onMachine (Machine.ticks (min (← ofExcept credit.1) 255))

def cycle : Action Emulator Unit := do
  onMachine Machine.cycle
  if (← state).config.timerMode = .fixedRate then keepPace

def run (count : Int) : Action Emulator Unit :=
  if count < 0 then stop (.invalid (.cycles count))
  else ⟨fun e => Outcome.iterate cycle.run count.toNat (.done e () #[])⟩

def perform : Chip8.Emulator.Operation → Action Emulator Reply
  | .machine op => onMachine (Machine.perform op)
  | .cycle => do cycle; return .nothing
  | .run count => do run count; return .number count
  | .loadRomFile files path => do loadRomFile files path; return .nothing
  | .reset clearMemory => do reset clearMemory; return .nothing
  | .setClock clock => do put { ← state with clock }; return .nothing

end Emulator
end Raw

/-! ## Agreement -/

theorem Machine.ticks_raw (m : Machine) (count : Nat) :
    (Raw.Machine.ticks count).run m.raw = .done (m.ticks count).1.raw () (m.ticks count).2 := by
  induction count generalizing m with
  | zero => rfl
  | succ count ih =>
    rw [Raw.Machine.ticks, Action.run_bind, tick_raw, Outcome.done_andThen, ih]
    rfl

namespace Emulator

def raw (e : Emulator) : Raw.Emulator := ⟨e.config, e.machine.raw, e.clock, e.pace⟩

variable (e : Emulator) {α : Type}

theorem onMachine_raw {act : Action Raw.Machine α} {o : Outcome Machine α}
    (acted : act.run e.machine.raw = o.within Machine.raw) :
    (Raw.Emulator.onMachine act).run e.raw = (e.onMachine o).within raw := by
  show (act.run e.machine.raw).within (fun machine => { e.raw with machine }) = _
  rw [acted]
  rfl

theorem create_raw (config : Config) (random : Option RandomSource)
    (keySource : Option KeySource) (clock : Clock) :
    Raw.Emulator.create config random keySource clock =
      (create config random keySource clock).map raw := by
  unfold Raw.Emulator.create create
  rw [← Machine.initial_raw]
  cases Pace.ofRate config.timerHz <;> rfl

theorem reset_raw (clearMemory : Bool) :
    (Raw.Emulator.reset clearMemory).run e.raw = .done (e.reset clearMemory).raw () #[] := by
  have restarted := e.onMachine_raw (o := .done _ () #[]) (e.machine.reset_raw clearMemory)
  rw [Raw.Emulator.reset, Action.run_bind, restarted]
  rfl

theorem loadRomFile_raw (files : Files Id) (path : Path) :
    (Raw.Emulator.loadRomFile files path).run e.raw = (e.loadRomFile files path).within raw := by
  rw [Raw.Emulator.loadRomFile, Action.run_bind, loadRomFile]
  cases (files.readRom path).run with
  | error _ => rfl
  | ok rom =>
    have loaded := e.onMachine_raw (e.machine.loadRom_raw rom)
    simp only [Action.run_ofExcept_ok, Outcome.done_andThen, Outcome.after_empty, Action.run_bind,
      loaded, loadRomRead, loadRomFrom, loadRom]
    rcases e.machine.loadRom rom with ⟨_ | _, _, _⟩ <;> rfl

theorem start_raw (config : Config) (random : Option RandomSource) (keySource : Option KeySource)
    (clock : Clock) (files : Files Id) :
    Raw.Emulator.start config random keySource clock files =
      ((start config random keySource clock files).1.map raw,
        (start config random keySource clock files).2) := by
  rw [Raw.Emulator.start, start, create_raw]
  cases create config random keySource clock with
  | error e => rfl
  | ok emulator =>
    cases rom : config.romPath with
    | none => rfl
    | some path =>
      have loaded := emulator.loadRomFile_raw files (.ofText path)
      simp only [Except.map, loaded]
      rcases emulator.loadRomFile files (.ofText path) with ⟨_ | _, _, _⟩ <;> rfl

theorem keepPace_raw : Raw.Emulator.keepPace.run e.raw = e.keepPace.within raw := by
  have credit : e.raw.pace.credit e.raw.clock.read.1 = e.pace.credit e.clock.read.1 := rfl
  simp only [Raw.Emulator.keepPace, Action.run_bind, Action.run_state, Outcome.done_andThen,
    Outcome.after_empty, Action.run_put, credit, keepPace_eq_catchUp, catchUp]
  rcases e.pace.credit e.clock.read.1 with ⟨_ | periods, pace⟩
  · rfl
  · let paced : Emulator := { e with clock := e.clock.read.2, pace }
    rw [Action.run_ofExcept_ok, Outcome.done_andThen, Outcome.after_empty]
    exact paced.onMachine_raw (o := .done _ () _) (e.machine.ticks_raw (min periods maxTicks))

theorem cycle_raw : Raw.Emulator.cycle.run e.raw = e.cycle.within raw := by
  have cycled := e.onMachine_raw e.machine.cycle_raw
  rw [Raw.Emulator.cycle, Action.run_bind, cycled]
  simp only [Outcome.andThen, Outcome.within, onMachine]
  cases answer : e.machine.cycle.answer with
  | error stop =>
    rw [cycle_of_machine_error answer]
    rfl
  | ok =>
    have config : { e with machine := e.machine.cycle.state }.raw.config = e.config := rfl
    simp only [Action.run_bind, Action.run_state, Outcome.done_andThen, Outcome.after_empty,
      Action.run_ite, config]
    cases mode : e.config.timerMode with
    | perCycle =>
      rw [cycle_of_perCycle answer mode]
      rfl
    | fixedRate =>
      have paced := keepPace_raw { e with machine := e.machine.cycle.state }
      rw [cycle_of_fixedRate answer mode, if_pos rfl, paced]
      rfl

theorem run_raw (count : Int) : (Raw.Emulator.run count).run e.raw = (e.run count).within raw := by
  rw [run_eq, Raw.Emulator.run, Action.run_ite]
  split
  · rfl
  · exact Outcome.iterate_within (o := .done e () #[]) cycle_raw count.toNat

theorem perform_raw (op : Operation) :
    (Raw.Emulator.perform op).run e.raw = (op.perform e).within raw := by
  cases op with
  | machine op => exact e.onMachine_raw (e.machine.perform_raw op)
  | cycle =>
    rw [Raw.Emulator.perform, Action.run_bind, cycle_raw, Outcome.andThen_pure]
    rfl
  | run count =>
    rw [Raw.Emulator.perform, Action.run_bind, run_raw, Outcome.andThen_pure]
    rfl
  | loadRomFile files path =>
    rw [Raw.Emulator.perform, Action.run_bind, loadRomFile_raw, Outcome.andThen_pure]
    rfl
  | reset clearMemory =>
    rw [Raw.Emulator.perform, Action.run_bind, reset_raw]
    rfl
  | setClock clock => rfl

end Emulator
end Chip8
