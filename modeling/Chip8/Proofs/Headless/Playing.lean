import Chip8.Proofs.Emulator.Loading
import Chip8.Proofs.Emulator.Start
import Chip8.Proofs.Headless.Systems
import Chip8.Proofs.Machine.Unattended

namespace Chip8.Headless.Invocation

variable {σ : Type} {inv : Invocation} {sys : System σ} {path : Path} {rom : List UInt8}
  {held : List Key}

def ready (inv : Invocation) (rom : List UInt8) (held : List Key) : Machine :=
  held.foldl Machine.press ((Machine.initial (.ofSeed inv.seed)).loadRom rom).state

def opening (inv : Invocation) (path : Path) (rom : List UInt8) : Array Event :=
  #[.romCopied rom.length, .romLoaded path.text, .running path.name inv.cycles.toNat]

theorem foldl_press_eq (held : List Key) (m : Machine) :
    held.foldl Machine.press m = { m with keypad := held.foldl Keypad.press m.keypad } := by
  induction held generalizing m with
  | nil => rfl
  | cons first rest ih => exact ih (m.press first)

theorem keySource_ready (inv : Invocation) (rom : List UInt8) (held : List Key) :
    (inv.ready rom held).keySource = none := by
  obtain ⟨memory, state⟩ := (Machine.initial (.ofSeed inv.seed)).state_loadRom rom
  rw [ready, foldl_press_eq, state]
  rfl

def emulator (inv : Invocation) (clock : Clock) : Emulator where
  config := inv.config
  machine := { Machine.initial (.ofSeed inv.seed) with
    tickPerCycle := inv.config.timerMode == .perCycle }
  clock := clock
  pace := ⟨1 / Float.ofInt 60, none⟩

theorem create_eq (inv : Invocation) (clock : Clock) :
    Emulator.create inv.config none none clock = .ok (inv.emulator clock) := by
  have rate : Pace.ofRate inv.config.timerHz = _ := Pace.ofRate_sixty
  simp only [Emulator.create, rate, bind, Except.bind]
  rfl

theorem timerMode_of_perCycle (perCycle : inv.fixedRate = false) :
    inv.config.timerMode = .perCycle := by
  rw [config, perCycle]
  rfl

theorem machine_emulator_of_perCycle (perCycle : inv.fixedRate = false) (clock : Clock) :
    (inv.emulator clock).machine = .initial (.ofSeed inv.seed) := by
  rw [emulator, timerMode_of_perCycle perCycle]
  rfl

def played (inv : Invocation) (path : Path) (held : List Key) (loaded : Outcome Emulator Unit) :
    Outcome Emulator Unit :=
  (loaded.andThen fun _ e => inv.hold path held e).andThen fun _ e => e.run inv.cycles

open Emulator (synced)

theorem synced_play (inv : Invocation) (sys : System σ) (path : Path) (held : List Key)
    (loaded : Outcome Emulator Unit) (world : World σ) :
    synced World.clock ((inv.play sys.host path held loaded).run world).run =
        inv.played path held (synced World.clock (loaded, world)) ∧
      ((inv.play sys.host path held loaded).run world).run.2.disk = world.disk := by
  cases answer : loaded.answer with
  | error e =>
    simp only [play, Outcome.andThen, answer, played, synced, Outcome.within]
    exact ⟨rfl, rfl⟩
  | ok =>
    let start : Emulator :=
      { loaded.state with machine := held.foldl Machine.press loaded.state.machine }
    let before : Array Event := loaded.events ++ #[.running path.name inv.cycles.toNat]
    have disk := Emulator.kept_runWith World.disk (disk_now sys) start inv.cycles world
    have run := Emulator.synced_runWith (reads_now sys) start inv.cycles world
    simp only [play, Outcome.andThen, answer, played, synced, Outcome.within, hold]
    exact ⟨congrArg (Outcome.after before) run, disk⟩

theorem played_of_fits (fits : rom.length ≤ Memory.romCapacity) (perCycle : inv.fixedRate = false)
    (cycles : 0 ≤ inv.cycles) (clock : Clock) :
    inv.played path held ((inv.emulator clock).loadRomRead path (.ok rom)) =
      (((inv.ready rom held).run inv.cycles.toNat).within fun m =>
        { inv.emulator clock with machine := m }).after (inv.opening path rom) := by
  let start : Emulator := { inv.emulator clock with machine := inv.ready rom held }
  have run : start.run inv.cycles = _ :=
    (congrArg start.run (Int.toNat_of_nonneg cycles).symm).trans
      (Emulator.run_of_perCycle (timerMode_of_perCycle perCycle) inv.cycles.toNat)
  rw [played, Emulator.loadRomRead_of_fits fits, machine_emulator_of_perCycle perCycle]
  exact congrArg (Outcome.after (inv.opening path rom)) run

theorem played_of_tooLarge (large : Memory.romCapacity < rom.length) (clock : Clock) :
    inv.played path held ((inv.emulator clock).loadRomRead path (.ok rom)) =
      .stopped (inv.emulator clock) (.ofRomSize rom.length Memory.romCapacity "") #[] := by
  rw [played, Emulator.loadRomRead_of_tooLarge large]
  rfl

end Chip8.Headless.Invocation
