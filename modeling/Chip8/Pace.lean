import Chip8.Pace.Quotient

namespace Chip8

inductive TimerMode where
  | perCycle
  | fixedRate
deriving DecidableEq, Repr

namespace TimerMode

def name : TimerMode → String
  | perCycle => "per_cycle"
  | fixedRate => "fixed_rate"

def ofName (name : String) : Except Error TimerMode :=
  if name = perCycle.name then .ok perCycle
  else if name = fixedRate.name then .ok fixedRate
  else .error (.invalid (.timerMode (Quoted.quote name)))

end TimerMode

structure Clock where
  readings : Nat → Float
  taken : Nat

namespace Clock

def still (time : Float) : Clock := ⟨fun _ => time, 0⟩

def read (clock : Clock) : Float × Clock :=
  (clock.readings clock.taken, { clock with taken := clock.taken + 1 })

end Clock

/-- A fixed rate: the length of a period, and the time up to which periods are credited. -/
structure Pace where
  period : Float
  credited : Option Float

namespace Pace

def ofRate (hz : Int) : Except Error Pace :=
  if hz ≤ 0 then .error (.invalid (.timerRate hz))
  else
    let rate := Float.ofInt hz
    if rate.isInf then .error .rateTooLarge else .ok ⟨1 / rate, none⟩

/-- The first time only starts the count. -/
def credit (pace : Pace) (now : Float) : Except Error Nat × Pace :=
  match pace.credited with
  | none => (.ok 0, { pace with credited := some now })
  | some last =>
    match Quotient.toInt (Quotient.floorDiv (now - last) pace.period) with
    | .error e => (.error e, pace)
    | .ok periods =>
      if periods ≤ 0 then (.ok 0, pace)
      else
        (.ok periods.toNat,
          { pace with credited := some (last + Float.ofInt periods * pace.period) })

end Pace
end Chip8
