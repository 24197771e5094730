namespace Chip8

structure Timers where
  delay : UInt8
  sound : UInt8
deriving DecidableEq, Repr

namespace Timers

def stopped : Timers := ⟨0, 0⟩

def setDelay (t : Timers) (value : Int) : Timers := { t with delay := UInt8.ofInt value }

def setSound (t : Timers) (value : Int) : Timers := { t with sound := UInt8.ofInt value }

def countDown (counter : UInt8) : UInt8 := if counter = 0 then 0 else counter - 1

def tick (t : Timers) : Bool × Timers :=
  (t.sound == 1, ⟨countDown t.delay, countDown t.sound⟩)

def sounding (t : Timers) : Bool := t.sound != 0

end Timers
end Chip8
