import Chip8.Emulator

/-! What a run asks of the system it is on. A `System` has a disk and a clock for its state. -/

namespace Chip8.Headless

structure Host (m : Type → Type) extends Files m where
  write : Path → String → m (Except Error Unit)
  print : String → m (Except Error Unit)
  now : m Float

structure System (σ : Type) where
  find : σ → String → Place
  bytes : σ → Path → Except Error (List UInt8)
  write : σ → Path → String → Except Error Unit × σ
  print : String → Except Error Unit

structure World (σ : Type) where
  disk : σ
  clock : Clock

namespace System

variable {σ : Type} (sys : System σ)

def files (disk : σ) : Files Id := ⟨sys.find disk, sys.bytes disk⟩

def host : Host (StateM (World σ)) where
  find text world := (sys.find world.disk text, world)
  bytes path world := (sys.bytes world.disk path, world)
  write path text world :=
    let (answer, disk) := sys.write world.disk path text
    (answer, { world with disk })
  print text world := (sys.print text, world)
  now world :=
    let (time, clock) := world.clock.read
    (time, { world with clock })

end System
end Chip8.Headless
