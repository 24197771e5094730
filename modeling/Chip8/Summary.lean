import Chip8.Machine.Basic

namespace Chip8.Machine

def screenText (m : Machine) : String := m.screen.text "#" "."

def registerText (m : Machine) (x : Register) : String :=
  s!"V{Hex.padded 1 x.val}={Hex.byte (m.registers.value x)}"

def summary (m : Machine) : String :=
  let r := m.registers
  s!"PC=${Hex.word r.pc.toNat}  I=${Hex.word r.i.toNat}  SP={m.stack.depth}  " ++
  s!"DT={m.timers.delay.toNat}  ST={m.timers.sound.toNat}  cycles={m.cycles}\n" ++
  " ".intercalate ((List.finRange 16).map m.registerText)

end Chip8.Machine
