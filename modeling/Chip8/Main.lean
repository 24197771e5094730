import Chip8.Headless.Arguments

namespace Chip8.Headless

def hostError (path : String) : IO.Error → Error
  | .noFileOrDirectory _ _ _ => .file (.missing path)
  | .inappropriateType _ 20 _ => .file (.notDirectory path)
  | .inappropriateType _ _ _ => .file (.isDirectory path)
  | .permissionDenied _ _ details => .host .permissionDenied details
  | other => .host .other (toString other)

def placeOf (path : String) : IO Place := do
  try
    let _ ← (← IO.FS.Handle.mk path .read).read 1
    return .file true
  catch e =>
    match e, hostError path e with
    | _, .file (.missing _) => return .missing
    | _, .file (.notDirectory _) => return .belowFile
    | _, .file (.isDirectory _) => return .directory
    | _, .host .permissionDenied _ => return .file false
    | _, error => return .refused error

def attempt {α : Type} (path : String) (act : IO α) : IO (Except Error α) := do
  try return .ok (← act)
  catch e => return .error (hostError path e)

def commandHost : Host IO where
  find := placeOf
  bytes path := attempt path.text do return (← IO.FS.readBinFile path.text).toList
  write path text := attempt path.text (IO.FS.writeFile path.text text)
  print text := attempt "" (IO.print text)
  now := return Float.ofNat (← IO.monoNanosNow) / 1e9

def refuse (e : UsageError) : IO UInt32 := do
  IO.eprintln ("Error: " ++ e.message)
  return UInt32.ofNat UsageError.exitCode

def command (words : List String) : IO UInt32 := do
  match Arguments.request words with
  | .error e => refuse e
  | .ok .help =>
    IO.print Arguments.help
    return 0
  | .ok (.invocation inv) =>
    match ← inv.run commandHost with
    | .error e => refuse e
    | .ok report =>
      IO.eprint report.stderr
      return UInt32.ofNat report.exit

end Chip8.Headless

def main (words : List String) : IO UInt32 := Chip8.Headless.command words
