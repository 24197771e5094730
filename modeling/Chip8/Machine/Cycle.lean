import Chip8.Machine.Execute

/-! A cycle that is stopped does not move the program counter, count itself or tick the timers. -/

namespace Chip8

def Error.locate (error : Error) (pc opcode : Option Int) : Error :=
  match error with
  | .fault f => .fault (f.locate pc opcode)
  | other => other

namespace Machine

def complete (m : Machine) (next : UInt16) : Outcome Machine Unit :=
  let m := { m with registers := { m.registers with pc := next }, cycles := m.cycles + 1 }
  if m.tickPerCycle then
    let (m, events) := m.tick
    .done m () events
  else .done m () #[]

def cycle (m : Machine) : Outcome Machine Unit :=
  let pc := m.registers.pc
  match m.memory.readWord pc.toNat with
  | .error fault => .stopped m (.fault (fault.locate (some pc.toNat) none)) #[]
  | .ok word =>
    let m := { m with registers := { m.registers with opcode := word } }
    let o := m.execute (Instruction.ofWord word) pc.toNat
    let events := #[.executing pc word] ++ o.events
    match o.answer with
    | .ok next => (o.state.complete next).after events
    | .error e => .stopped o.state (e.locate (some pc.toNat) (some word.toNat)) events

def run (m : Machine) (count : Nat) : Outcome Machine Unit :=
  Outcome.iterate cycle count (.done m () #[])

end Machine
end Chip8
