import Chip8.Fault
import Chip8.Text.Quoted

namespace Chip8

inductive Invalid where
  | keyCount (count : Nat)
  | emptyScript
  | frameSize (width height : Int)
  | timerRate (hz : Int)
  | timerMode (literal : String)
  | cycles (count : Int)
  | undefinedTime
deriving DecidableEq, Repr

inductive BadKey where
  | notNumeral (text : String)
  | notOnKeypad (text : String)
  | unmapped (text : String)
deriving DecidableEq, Repr

inductive FileError where
  | noRom (path : String)
  | missing (path : String)
  | notDirectory (path : String)
  | isDirectory (path : String)
  | nameTooLong (path : String)
deriving DecidableEq, Repr

inductive HostFailure where
  | fileMissing
  | permissionDenied
  | other
deriving DecidableEq, Repr

inductive Error where
  | general (message : String)
  | rom (message : String)
  | romTooLarge (size capacity : Int) (message : String)
  | fault (fault : Fault)
  | invalid (cause : Invalid)
  | readIndex
  | writeIndex
  | indexTooWide
  | sizeTooWide
  | noRoom
  | rateTooLarge
  | endlessTime
  | badKey (cause : BadKey)
  | file (failure : FileError)
  | host (failure : HostFailure) (message : String)
deriving DecidableEq, Repr

def Invalid.message : Invalid → String
  | keyCount count => s!"Expected 16 key states, got {count}"
  | emptyScript => "ScriptedRandom needs at least one value"
  | frameSize width height => s!"Framebuffer size must be positive, got {width}x{height}"
  | timerRate hz => s!"timer_hz must be positive, got {hz}"
  | timerMode literal => s!"{literal} is not a valid TimerMode"
  | cycles count => s!"cycles must be non-negative, got {count}"
  | undefinedTime => "cannot convert float NaN to integer"

def BadKey.message : BadKey → String
  | notNumeral text => s!"'{text}' is not a hex keypad key (0-F)"
  | notOnKeypad text => s!"keypad key must be 0-F, got '{text}'"
  | unmapped text => s!"host key '{text}' is not mapped to the keypad"

def FileError.message : FileError → String
  | noRom path => s!"ROM file not found: {path}"
  | missing path => s!"[Errno 2] No such file or directory: {Quoted.quote path}"
  | notDirectory path => s!"[Errno 20] Not a directory: {Quoted.quote path}"
  | isDirectory path => s!"[Errno 21] Is a directory: {Quoted.quote path}"
  | nameTooLong path => s!"[Errno 36] File name too long: {Quoted.quote path}"

namespace Error

/-- A rejected ROM; an empty message stands for the usual one. -/
def ofRomSize (size capacity : Int) (message : String) : Error :=
  .romTooLarge size capacity <|
    if message.isEmpty then
      s!"ROM is too big to fit into memory: {size} bytes (capacity {capacity} bytes)"
    else message

def message : Error → String
  | general message | rom message | romTooLarge _ _ message | host _ message => message
  | .fault f => f.text
  | invalid cause => cause.message
  | readIndex => "list index out of range"
  | writeIndex => "list assignment index out of range"
  | indexTooWide | sizeTooWide => "cannot fit 'int' into an index-sized integer"
  | noRoom => ""
  | rateTooLarge => "int too large to convert to float"
  | endlessTime => "cannot convert float infinity to integer"
  | badKey cause => cause.message
  | file failure => failure.message

def describe? : Error → Option String
  | general message => some s!"Error: {message}"
  | rom message | romTooLarge _ _ message => some s!"Load error: {message}"
  | .fault f => some s!"Execution error: {f.text}"
  | _ => none

def isUsage : Error → Bool
  | badKey _ | file (.noRom _) | file (.missing _) => true
  | host failure _ => failure != .other
  | _ => false

def exitCode (error : Error) : Nat :=
  if error.describe?.isSome then 1 else if error.isUsage then 2 else 3

def report (error : Error) : String :=
  match error.describe? with
  | some line => line
  | none =>
    if error.isUsage then s!"Error: {error.message}" else s!"Internal error: {error.message}"

end Error
end Chip8
