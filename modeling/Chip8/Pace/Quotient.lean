import Chip8.Error

/-! The remainder is exact; the quotient is that of the time less the remainder, rounded once, and
then brought to the nearest whole number below. -/

namespace Chip8.Quotient

def twoTo (exponent : Nat) : Nat := Nat.pow 2 exponent

def parts? (x : Float) : Option (Int × Int) :=
  let bits : Nat := x.toBits.toNat
  let fraction : Nat := bits % twoTo 52
  let exponent : Nat := bits / twoTo 52 % twoTo 11
  let sign : Int := if bits < twoTo 63 then 1 else -1
  if exponent = 2047 then none
  else if exponent = 0 then some (sign * fraction, -1074)
  else some (sign * ((fraction + twoTo 52 : Nat) : Int), (exponent : Int) - 1075)

def power (exponent : Int) : Float :=
  if -1022 ≤ exponent then .ofBits (.ofNat ((exponent + 1023).toNat * twoTo 52))
  else .ofBits (.ofNat (twoTo (exponent + 1074).toNat))

/-- What is left of `a` after taking away `b` as often as it fits, with the sign of `a`. The
remainder needs no more digits than `a` and `b` have, so nothing is rounded. -/
def remainder (a b : Float) : Float :=
  match parts? a, parts? b with
  | some (m, e), some (n, f) =>
    if n = 0 then 0 / 0
    else
      let low := min e f
      let rest := (m * twoTo (e - low).toNat).tmod (n * twoTo (f - low).toNat)
      Float.ofInt rest * power low
  | some _, none => if b.isNaN then b else a
  | none, _ => 0 / 0

def floor (x : Float) : Float :=
  match parts? x with
  | some (m, e) => if 0 ≤ e then x else .ofInt (m / twoTo (-e).toNat)
  | none => x

def floorDiv (a b : Float) : Float :=
  let rest := remainder a b
  let whole := (a - rest) / b
  let whole := if rest != 0 && decide (rest < 0) != decide (b < 0) then whole - 1 else whole
  let lower := floor whole
  if 0.5 < whole - lower then lower + 1 else lower

def toInt (x : Float) : Except Error Int :=
  match parts? x with
  | some (m, e) => .ok (if 0 ≤ e then m * twoTo e.toNat else m.tdiv (twoTo (-e).toNat))
  | none => if x.isNaN then .error (.invalid .undefinedTime) else .error .endlessTime

end Chip8.Quotient
