import Chip8.Proofs.Headless.Keys
import Chip8.Proofs.Headless.Playing
import Chip8.Proofs.Headless.Reports

namespace Chip8.Headless.Invocation

variable {σ : Type} {inv : Invocation} {sys : System σ} {disk : σ} {path : Path} {rom : List UInt8}
  {held : List Key}

def ran (inv : Invocation) (sys : System σ) (world : World σ) :
    Except UsageError Report × World σ :=
  ((inv.run sys.host).run world).run

theorem ran_of_checked (proper : inv.version = false) (accepted : inv.checked sys disk = .ok path)
    (clock : Clock) :
    inv.ran sys ⟨disk, clock⟩ =
      let (report, after) := ((inv.runRom sys.host path).run ⟨disk, clock⟩).run
      (.ok report, after) := by
  rw [ran, run, proper, if_neg Bool.false_ne_true]
  simp only [StateT.run_bind, run_check, accepted, pure_bind]
  rfl

theorem ran_of_rejected (proper : inv.version = false) {usage : UsageError}
    (rejected : inv.checked sys disk = .error usage) (clock : Clock) :
    inv.ran sys ⟨disk, clock⟩ = (.error usage, ⟨disk, clock⟩) := by
  rw [ran, run, proper, if_neg Bool.false_ne_true]
  simp only [StateT.run_bind, run_check, rejected, pure_bind]
  rfl

theorem synced_loadRomRead (inv : Invocation) (path : Path) (read : Except Error (List UInt8))
    (world : World σ) :
    Emulator.synced World.clock ((inv.emulator (.still 0)).loadRomRead path read, world) =
      (inv.emulator world.clock).loadRomRead path read := by
  cases read with
  | error e => rfl
  | ok rom =>
    by_cases fits : rom.length ≤ Memory.romCapacity
    · rw [Emulator.loadRomRead_of_fits fits, Emulator.loadRomRead_of_fits fits]
      rfl
    · rw [Emulator.loadRomRead_of_tooLarge (Nat.lt_of_not_le fits),
        Emulator.loadRomRead_of_tooLarge (Nat.lt_of_not_le fits)]
      rfl

theorem ran_of_heldKeys (proper : inv.version = false)
    (accepted : inv.checked sys disk = .ok path) (keys : inv.heldKeys = .ok held) (clock : Clock) :
    let o := inv.played path held ((inv.emulator clock).loadRomFile (sys.files disk) path)
    inv.ran sys ⟨disk, clock⟩ =
      (.ok (inv.reported sys o disk).1, ⟨(inv.reported sys o disk).2, o.state.clock⟩) := by
  let read := ((sys.files disk).readRom path).run
  let loaded := (inv.emulator (.still 0)).loadRomRead path read
  obtain ⟨synced, kept⟩ := inv.synced_play sys path held loaded ⟨disk, clock⟩
  rw [synced_loadRomRead] at synced
  rw [ran_of_checked proper accepted, runRom, keys]
  dsimp only
  rw [create_eq]
  simp only [StateT.run_bind, run_readRom, pure_bind]
  generalize (inv.play sys.host path held loaded).run ⟨disk, clock⟩ = ended at synced kept ⊢
  obtain ⟨o, after⟩ := ended
  obtain rfl : after.disk = disk := kept
  have reported := inv.run_report sys o after
  rw [Emulator.loadRomFile, ← synced]
  exact congrArg (fun r : Id (Report × World σ) => (Except.ok r.run.1, r.run.2)) reported

theorem ran_of_badKey (proper : inv.version = false) (accepted : inv.checked sys disk = .ok path)
    {e : Error} (keys : inv.heldKeys = .error e) (clock : Clock) :
    inv.ran sys ⟨disk, clock⟩ = (.ok (.ofError e inv.verbose #[]), ⟨disk, clock⟩) := by
  rw [ran_of_checked proper accepted, runRom, keys]
  rfl

theorem ran_of_version (asked : inv.version = true) (world : World σ) :
    inv.ran sys world = (.ok (inv.concluded sys versionLine none #[]), world) := by
  rw [ran, run, asked, if_pos rfl]
  simp only [StateT.run_bind, run_conclude, pure_bind]
  rfl

theorem ran_of_fits (proper : inv.version = false) (perCycle : inv.fixedRate = false)
    (accepted : inv.checked sys disk = .ok path) (holds : inv.Holds held) (cycles : 0 ≤ inv.cycles)
    (read : ((sys.files disk).readRom path).run = .ok rom)
    (fits : rom.length ≤ Memory.romCapacity) (clock : Clock) :
    let run := (inv.ready rom held).run inv.cycles.toNat
    ∃ o : Outcome Emulator Unit, o.answer = run.answer ∧ o.state.machine = run.state ∧
      o.events = inv.opening path rom ++ run.events ∧
      inv.ran sys ⟨disk, clock⟩ =
        (.ok (inv.reported sys o disk).1, ⟨(inv.reported sys o disk).2, clock⟩) := by
  intro run
  have ran := ran_of_heldKeys proper accepted (heldKeys_of_holds holds) clock
  rw [Emulator.loadRomFile, read, played_of_fits fits perCycle cycles] at ran
  exact ⟨_, rfl, rfl, rfl, ran⟩

def effect (inv : Invocation) (sys : System σ) (world : World σ) : Except UsageError Report × σ :=
  ((inv.ran sys world).1, (inv.ran sys world).2.disk)

theorem effect_of_heldKeys (proper : inv.version = false)
    (accepted : inv.checked sys disk = .ok path) (keys : inv.heldKeys = .ok held) (clock : Clock) :
    let o := inv.played path held ((inv.emulator clock).loadRomFile (sys.files disk) path)
    inv.effect sys ⟨disk, clock⟩ =
      (.ok (inv.reported sys o disk).1, (inv.reported sys o disk).2) := by
  rw [effect, ran_of_heldKeys proper accepted keys]

theorem effect_of_perCycle (perCycle : inv.fixedRate = false) (clock clock' : Clock) :
    inv.effect sys ⟨disk, clock'⟩ = inv.effect sys ⟨disk, clock⟩ := by
  cases version : inv.version with
  | true => rw [effect, effect, ran_of_version version, ran_of_version version]
  | false =>
    cases accepted : inv.checked sys disk with
    | error usage => rw [effect, effect, ran_of_rejected version accepted,
        ran_of_rejected version accepted]
    | ok path =>
      cases keys : inv.heldKeys with
      | error e => rw [effect, effect, ran_of_badKey version accepted keys,
          ran_of_badKey version accepted keys]
      | ok held =>
        obtain ⟨_, _, _, _, cycles, _⟩ := checked_eq_ok_iff.1 accepted
        suffices same : ∀ disk', inv.reported sys (inv.played path held
            ((inv.emulator clock').loadRomFile (sys.files disk) path)) disk' =
          inv.reported sys (inv.played path held
            ((inv.emulator clock).loadRomFile (sys.files disk) path)) disk' by
          rw [effect_of_heldKeys version accepted keys,
            effect_of_heldKeys version accepted keys, same]
        intro disk'
        unfold Emulator.loadRomFile
        cases ((sys.files disk).readRom path).run with
        | error e => rfl
        | ok rom =>
          by_cases fits : rom.length ≤ Memory.romCapacity
          · rw [played_of_fits fits perCycle cycles, played_of_fits fits perCycle cycles]
            exact reported_congr rfl rfl rfl
          · have large := Nat.lt_of_not_le fits
            rw [played_of_tooLarge large, played_of_tooLarge large]
            exact reported_congr rfl rfl rfl

end Chip8.Headless.Invocation
