import Chip8.Text.Hex

namespace Chip8

inductive Fault.Cause where
  | general
  | stack
  | stackOverflow
  | stackUnderflow
  | address (address : Int)
deriving DecidableEq, Repr

structure Fault where
  cause : Fault.Cause
  message : String
  pc : Option Int := none
  opcode : Option Int := none
deriving DecidableEq, Repr

namespace Fault

def locate (fault : Fault) (pc opcode : Option Int) : Fault :=
  if fault.pc.isSome then fault else { fault with pc, opcode }

/-- The message after the place: `$0204 [2208]: call stack overflow (depth 16)`. -/
def text (fault : Fault) : String :=
  match fault.pc, fault.opcode with
  | some pc, some opcode => s!"${Hex.word pc} [{Hex.word opcode}]: {fault.message}"
  | some pc, none => s!"${Hex.word pc}: {fault.message}"
  | none, _ => fault.message

def stackFull (depth : Nat) : Fault :=
  ⟨.stackOverflow, s!"call stack overflow (depth {depth})", none, none⟩

def returnFromEmpty : Fault := ⟨.stackUnderflow, "return with empty call stack", none, none⟩

def stackEmpty : Fault := ⟨.stackUnderflow, "call stack is empty", none, none⟩

def ofAddress (address : Int) (message : String) : Fault :=
  ⟨.address address,
    if message.isEmpty then s!"memory address ${Hex.word address} out of range" else message,
    none, none⟩

def outOfRange (address : Int) : Fault := ofAddress address ""

end Fault
end Chip8
