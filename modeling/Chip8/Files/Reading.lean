import Chip8.Error
import Chip8.Files.Path

namespace Chip8

/-- What a path leads to. -/
inductive Place where
  | file (readable : Bool)
  | directory
  | missing
  | belowFile
  | refused (error : Error)
deriving DecidableEq

structure Files (m : Type → Type) where
  find : String → m Place
  bytes : Path → m (Except Error (List UInt8))

def Files.readRom {m : Type → Type} [Monad m] (files : Files m) (path : Path) :
    m (Except Error (List UInt8)) := do
  match ← files.find path.text with
  | .file _ | .directory => files.bytes path
  | .missing | .belowFile => return .error (.file (.noRom path.text))
  | .refused error => return .error error

end Chip8
