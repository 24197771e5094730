import Chip8.Proofs.Emulator.Operations

namespace Chip8

variable {rom : List UInt8}

theorem Machine.loadRom_of_fits (fits : rom.length ≤ Memory.romCapacity) (m : Machine) :
    m.loadRom rom = .done (m.loadRom rom).state () #[.romCopied rom.length] := by
  unfold loadRom
  rw [Memory.loadRom, if_pos fits]
  rfl

theorem Machine.loadRom_of_tooLarge (large : Memory.romCapacity < rom.length) (m : Machine) :
    m.loadRom rom = .stopped m (.ofRomSize rom.length Memory.romCapacity "") #[] := by
  unfold loadRom
  rw [Memory.loadRom, if_neg (Nat.not_le.2 large)]

namespace Emulator

theorem loadRomRead_of_fits (fits : rom.length ≤ Memory.romCapacity) (emulator : Emulator)
    (path : Path) :
    emulator.loadRomRead path (.ok rom) =
      .done { emulator with machine := (emulator.machine.loadRom rom).state } ()
        #[.romCopied rom.length, .romLoaded path.text] := by
  rw [loadRomRead, loadRomFrom, loadRom, emulator.machine.loadRom_of_fits fits]
  rfl

theorem loadRomRead_of_tooLarge (large : Memory.romCapacity < rom.length) (emulator : Emulator)
    (path : Path) :
    emulator.loadRomRead path (.ok rom) =
      .stopped emulator (.ofRomSize rom.length Memory.romCapacity "") #[] := by
  rw [loadRomRead, loadRomFrom, loadRom, emulator.machine.loadRom_of_tooLarge large]
  rfl

end Emulator
end Chip8
