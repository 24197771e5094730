import Chip8.Proofs.Emulator.Operations
import Chip8.Proofs.Machine.Counts

namespace Chip8

def Files.empty : Files Id where
  find _ := .missing
  bytes path := .error (.file (.missing path.text))

theorem Pace.credited_of_ofRate {hz : Int} {pace : Pace}
    (h : Pace.ofRate hz = .ok pace) : pace.credited = none := by
  unfold Pace.ofRate at h
  split at h
  · cases h
  · dsimp only at h
    split at h
    · cases h
    · cases h
      rfl

theorem Pace.ofRate_sixty : Pace.ofRate 60 = .ok ⟨1 / Float.ofInt 60, none⟩ := by
  have finite : (Float.ofInt 60).isInf = false := by decide +kernel
  unfold Pace.ofRate
  rw [if_neg (by decide)]
  dsimp only
  rw [finite]
  rfl

namespace Emulator

variable {emulator : Emulator}

theorem romSize_loadRomFile_le (h : emulator.machine.memory.romSize ≤ Memory.romCapacity)
    (files : Files Id) (path : Path) :
    (emulator.loadRomFile files path).state.machine.memory.romSize ≤ Memory.romCapacity := by
  unfold loadRomFile loadRomRead
  split
  · exact h
  · rename_i rom _
    rw [state_loadRomFrom, Machine.memory_loadRom]
    exact Memory.romSize_loadRom_le h rom

theorem eq_of_map_eq_ok {α σ : Type} {answer : Except Error α} {s t : σ}
    (h : (answer.map fun _ => s) = .ok t) : t = s := by
  cases answer <;> cases h
  rfl

theorem start_of_ofRate {config : Config} {pace : Pace}
    (rate : Pace.ofRate config.timerHz = .ok pace) (noRom : config.romPath = none)
    (random : Option RandomSource) (keySource : Option KeySource) (clock : Clock)
    (files : Files Id) :
    start config random keySource clock files =
      (.ok { config, clock, pace
             machine := { Machine.initial (random.getD (.ofSeed config.seed)) with
               keySource, tickPerCycle := config.timerMode == .perCycle } }, #[]) := by
  simp only [start, create, rate, noRom, bind, Except.bind, pure, Except.pure]

def usual : Emulator where
  config := {}
  machine := .initial (.ofSeed RandomSource.usualSeed)
  clock := .still 0
  pace := ⟨1 / Float.ofInt 60, none⟩

theorem start_usual : start {} none none (.still 0) .empty = (.ok usual, #[]) := by
  have rate : Pace.ofRate ({} : Config).timerHz = _ := Pace.ofRate_sixty
  exact start_of_ofRate rate rfl none none (.still 0) .empty

theorem eq_of_start {config : Config} {random : Option RandomSource}
    {keySource : Option KeySource} {clock : Clock} {files : Files Id} {events : Array Event}
    (h : start config random keySource clock files = (.ok emulator, events)) :
    ∃ memory pace, Pace.ofRate config.timerHz = .ok pace ∧
      memory.romSize ≤ Memory.romCapacity ∧
      emulator = { config, clock, pace
                   machine := { Machine.initial (random.getD (.ofSeed config.seed)) with
                     keySource, tickPerCycle := config.timerMode == .perCycle, memory } } := by
  cases rate : Pace.ofRate config.timerHz with
  | error e =>
    simp only [start, create, rate, bind, Except.bind] at h
    cases h
  | ok pace =>
    simp only [start, create, rate, bind, Except.bind, pure, Except.pure] at h
    split at h
    · cases h
      exact ⟨_, pace, rfl, Nat.zero_le _, rfl⟩
    · obtain ⟨answer, -⟩ := Prod.mk.inj h
      rename_i path _
      have same := eq_of_map_eq_ok answer
      have size : emulator.machine.memory.romSize ≤ Memory.romCapacity := by
        rw [same]
        exact romSize_loadRomFile_le (Nat.zero_le _) files (.ofText path)
      obtain ⟨memory, eq⟩ := state_loadRomFile _ files (.ofText path)
      rw [eq] at same
      subst same
      exact ⟨memory, pace, rfl, size, rfl⟩

end Emulator
end Chip8
