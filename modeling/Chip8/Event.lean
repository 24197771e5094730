import Chip8.Instruction.Decode

namespace Chip8

inductive Level where
  | debug
  | info
  | warning
  | error
deriving DecidableEq, Repr

namespace Level

def rank : Level → Nat
  | debug => 0
  | info => 1
  | warning => 2
  | error => 3

def name : Level → String
  | debug => "DEBUG"
  | info => "INFO"
  | warning => "WARNING"
  | error => "ERROR"

end Level

inductive Event where
  | romCopied (size : Nat)
  | romLoaded (path : String)
  | executing (pc word : UInt16)
  | unknownWord (word : UInt16) (pc : Int)
  | awaitingKey
  | noKeyGiven
  | soundExpired
  | beep (cycles : Nat)
  | running (name : String) (cycles : Nat)
deriving DecidableEq, Repr

namespace Event

def entry? : Event → Option (Level × String)
  | romCopied size => some (.info, s!"ROM copied successfully ({size} bytes)")
  | romLoaded path => some (.info, s!"Loaded ROM {path}")
  | executing pc word =>
    some (.debug, s!"${Hex.word pc.toNat}: {Instruction.listing word}")
  | unknownWord word pc =>
    some (.warning, s!"Unimplemented opcode {Hex.word word.toNat} at ${Hex.word pc}")
  | awaitingKey => some (.debug, "Waiting for key press (no key wait provider)")
  | noKeyGiven => some (.warning, "Key wait provider returned with no key pressed")
  | soundExpired => some (.debug, "Sound timer expired, beep")
  | beep _ => none
  | running name cycles => some (.debug, s!"Running {name} for {cycles} cycles")

def entryFrom? (lowest : Level) (event : Event) : Option (Level × String) :=
  event.entry?.filter fun (level, _) => lowest.rank ≤ level.rank

def beepCycles? : Event → Option Nat
  | beep cycles => some cycles
  | _ => none

end Event
end Chip8
